-- SUMMARY: Building the sensors of a configuration: all of them in order and as they are specified, or none, with nothing held.
import Cooling.Proofs.Calibration
import Cooling.Proofs.Lifecycle

/-!
# Building sensors

The sensors of a configuration are built one after the other. `BuildsAll` says that it goes
well: each specification gives a sensor on the machine that those before it left. `StopsAt`
says where it ends otherwise: those before are built, one is refused because its sensor is not
there or has fewer temperatures than corrections, and every sensor that was built is let go.
What is asked of the machine is the same whatever comes after the one that is refused.
-/

namespace Cooling

open Program

/-! ## One sensor -/

/-- The corrections that a specification gives. -/
def SensorSpec.given (spec : SensorSpec) : List Int := (spec.correction?.getD []).map Int32.toInt

/-- The sensor is what the specification says, and is corrected as it says: not at all if it
    says nothing. -/
structure Sensor.Faithful (dndDisk : Bool) (spec : SensorSpec) (s : Sensor) : Prop where
  kind : s.kind = spec.kind
  path : s.path = spec.path
  doNotDisturb : ∀ d, s = disk d → d.doNotDisturb = dndDisk
  corrections : s.base.corrections =
    spec.correction?.elim (List.replicate s.count 0) (List.map Int32.toInt)

theorem SensorBase.corrections_withCount_new (path : String) (n : Nat) :
    (SensorBase.withCount { path } n).corrections = List.replicate n 0 := by
  simp [SensorBase.withCount]

/-- How setting corrections goes. A refusal asks for nothing. -/
theorem Sensor.correct_value (s : Sensor) (corrections : List Int) (m : Machine) :
    (s.correct corrections).run.wp (fun r m' es =>
      if corrections.length ≤ s.count then r = .ok (s.withBase { s.base with corrections })
      else r = .error (s.base.tooManyCorrections corrections.length) ∧ m' = m ∧ es = []) m := by
  have hcount : s.base.count = s.count := rfl
  unfold correct
  rw [wp_run_bind]
  refine wp_mono (s.base.correct_value corrections m) fun r m' es hr => ?_
  rw [hcount] at hr
  by_cases hfew : corrections.length ≤ s.count
  · simp only [if_pos hfew] at hr ⊢
    rw [hr]
    exact rfl
  · simp only [if_neg hfew] at hr ⊢
    obtain ⟨rfl, rfl, rfl⟩ := hr
    exact ⟨rfl, rfl, rfl⟩

namespace Config

variable {dndDisk : Bool} {spec : SensorSpec} {m : Machine}

/-- A sensor is found without corrections, and a disk with the setting of the configuration. -/
theorem findSensor_bare (dndDisk : Bool) (spec : SensorSpec) :
    Gives (findSensor dndDisk spec) fun s =>
      s.base.corrections = List.replicate s.count 0 ∧
        ∀ d, s = .disk d → d.doNotDisturb = dndDisk := by
  unfold findSensor
  split
  · refine Gives.map ((SensorBase.find_ok _).bind fun base hbase => gives_pure ?_)
    rw [hbase.2]
    exact ⟨SensorBase.corrections_withCount_new _ _, by rintro _ ⟨⟩⟩
  · refine Gives.map ((SensorBase.find_ok _).bind fun base hbase => ?_)
    refine (gives_true _).bind fun contents _ => (gives_true _).bind fun count _ => ?_
    refine (gives_true _).bind fun _ _ => gives_pure ?_
    rw [hbase.2]
    exact ⟨SensorBase.corrections_withCount_new _ _, by rintro _ ⟨⟩⟩
  · have hfind : Gives (DiskSensor.find spec.path) fun sensor =>
        sensor.base = SensorBase.withCount { path := spec.path } 1 :=
      (gives_true _).bind fun _ _ => gives_pure rfl
    refine hfind.bind fun sensor hsensor => gives_pure ⟨?_, ?_⟩
    · rw [Sensor.count, Sensor.base, hsensor]
      exact SensorBase.corrections_withCount_new _ _
    · rintro _ ⟨⟩
      rfl
  · refine Gives.map (NvmlSession.start_ok.bind fun session _ => ?_)
    refine (gives_true _).bind fun device _ => (gives_true _).bind fun _ _ => gives_pure ?_
    exact ⟨SensorBase.corrections_withCount_new _ _, by rintro _ ⟨⟩⟩

/-- Why a specification is refused, the machine after that, and what was asked of it. -/
inductive Refuses (dndDisk : Bool) (spec : SensorSpec) (m : Machine) :
    Failure → Machine → List Entry → Prop
  /-- There is no such sensor. -/
  | notFound {f : Failure} (hfails : (findSensor dndDisk spec).run.value m = .error f) :
      Refuses dndDisk spec m f ((findSensor dndDisk spec).run.after m)
        ((findSensor dndDisk spec).run.trace m)
  /-- The sensor has fewer temperatures than corrections, and is let go. -/
  | tooMany {s : Sensor} (hfound : (findSensor dndDisk spec).run.value m = .ok s)
      (hmany : s.count < spec.given.length) :
      Refuses dndDisk spec m (s.base.tooManyCorrections spec.given.length)
        (s.release.after ((findSensor dndDisk spec).run.after m))
        ((findSensor dndDisk spec).run.trace m ++
          s.release.trace ((findSensor dndDisk spec).run.after m))

/-- The sensor with the corrections that its specification gives, if it gives any. -/
def corrected (spec : SensorSpec) (s : Sensor) : Sensor :=
  match spec.correction? with
  | none => s
  | some cs => s.withBase { s.base with corrections := cs.map Int32.toInt }

/-- What building a sensor comes to. It is the sensor that is found, with its corrections, or
    it is refused. -/
theorem buildSensor_spec (dndDisk : Bool) (spec : SensorSpec) (m : Machine) :
    (buildSensor dndDisk spec).run.wp (fun r m' es =>
      match r with
      | .ok s => ∃ found, (findSensor dndDisk spec).run.value m = .ok found ∧
          spec.given.length ≤ found.count ∧ s = corrected spec found
      | .error f => Refuses dndDisk spec m f m' es) m := by
  unfold buildSensor
  rw [wp_run_bind, wp_iff]
  cases hfound : (findSensor dndDisk spec).run.value m with
  | error f => exact .notFound hfound
  | ok s =>
    cases hgiven : spec.correction? with
    | none =>
      have hnone : spec.given = [] := by rw [SensorSpec.given, hgiven]; rfl
      refine ⟨s, rfl, ?_, ?_⟩
      · rw [hnone]
        exact Nat.zero_le _
      · rw [corrected, hgiven]
    | some cs =>
      have hsome : spec.given = cs.map Int32.toInt := by rw [SensorSpec.given, hgiven]; rfl
      dsimp only
      rw [Attempt.wp_elseFirst]
      refine wp_mono (s.correct_value _ _) fun r m' es hr => ?_
      rw [← hsome] at hr
      by_cases hfew : spec.given.length ≤ s.count
      · rw [if_pos hfew] at hr
        rw [hr]
        exact ⟨s, rfl, hfew, by rw [corrected, hgiven, hsome]⟩
      · rw [if_neg hfew] at hr
        obtain ⟨rfl, rfl, rfl⟩ := hr
        exact .tooMany hfound (Nat.not_le.1 hfew)

theorem Refuses.unique {f f' : Failure} {m₁ m₂ : Machine} {es fs : List Entry}
    (h : Refuses dndDisk spec m f m₁ es) (h' : Refuses dndDisk spec m f' m₂ fs) :
    f = f' ∧ m₁ = m₂ ∧ es = fs := by
  cases h with
  | notFound hfails =>
    cases h' with
    | notFound hfails' => exact ⟨Except.error.inj (hfails.symm.trans hfails'), rfl, rfl⟩
    | tooMany hfound hmany => cases hfails.symm.trans hfound
  | tooMany hfound hmany =>
    cases h' with
    | notFound hfails => cases hfails.symm.trans hfound
    | tooMany hfound' hmany' =>
      obtain rfl := Except.ok.inj (hfound.symm.trans hfound')
      exact ⟨rfl, rfl, rfl⟩

/-- A specification that is refused is not built, and that is how it is refused. -/
theorem Refuses.run {f : Failure} {m₁ : Machine} {es : List Entry}
    (h : Refuses dndDisk spec m f m₁ es) :
    (buildSensor dndDisk spec).run.wp (fun r m' es' => r = .error f ∧ m' = m₁ ∧ es' = es) m := by
  refine wp_mono (buildSensor_spec dndDisk spec m) fun r m' es' hr => ?_
  cases r with
  | error f' =>
    obtain ⟨rfl, rfl, rfl⟩ := h.unique hr
    exact ⟨rfl, rfl, rfl⟩
  | ok s =>
    obtain ⟨found, hfound, hfew, -⟩ := hr
    cases h with
    | notFound hfails => cases hfails.symm.trans hfound
    | tooMany hfound' hmany =>
      obtain rfl := Except.ok.inj (hfound.symm.trans hfound')
      omega

/-- A sensor that is built is the one that its specification asks for. -/
theorem buildSensor_faithful (dndDisk : Bool) (spec : SensorSpec) :
    Gives (buildSensor dndDisk spec) (Sensor.Faithful dndDisk spec) := by
  intro m s hs
  have hbuilt := buildSensor_ok dndDisk spec m s hs
  have hspec := buildSensor_spec dndDisk spec m
  rw [wp_iff, hs] at hspec
  obtain ⟨found, hfound, -, rfl⟩ := hspec
  obtain ⟨hbare, hdisturb⟩ := findSensor_bare dndDisk spec m found hfound
  refine ⟨hbuilt.kind, hbuilt.path, ?_, ?_⟩
  · unfold corrected
    split
    · exact hdisturb
    · intro d hd
      cases found with
      | disk found =>
        obtain rfl := Sensor.disk.inj hd
        exact hdisturb found rfl
      | _ => cases hd
  · unfold corrected
    split
    · rename_i hnone
      rw [hnone]
      exact hbare
    · rename_i cs hsome
      rw [hsome, Sensor.base_withBase]
      rfl

/-! ## All sensors -/

/-- Every specification is built on the machine that the one before it left: the sensors, the
    machine after the last one, and what was asked. -/
inductive BuildsAll (dndDisk : Bool) :
    Machine → List SensorSpec → List Sensor → Machine → List Entry → Prop
  | nil (m : Machine) : BuildsAll dndDisk m [] [] m []
  | cons {m m' : Machine} {spec : SensorSpec} {specs : List SensorSpec} {s : Sensor}
      {sensors : List Sensor} {es : List Entry}
      (hfirst : (buildSensor dndDisk spec).run.value m = .ok s)
      (hrest : BuildsAll dndDisk ((buildSensor dndDisk spec).run.after m) specs sensors m' es) :
      BuildsAll dndDisk m (spec :: specs) (s :: sensors) m'
        ((buildSensor dndDisk spec).run.trace m ++ es)

/-- The specifications of `front` are built, the next one is refused, and the sensors that were
    built are let go: the failure, the machine after that, and what was asked. -/
inductive StopsAt (dndDisk : Bool) (m : Machine) (front : List SensorSpec) (spec : SensorSpec) :
    Failure → Machine → List Entry → Prop
  | stop {built : List Sensor} {m₁ m₂ : Machine} {es₁ es₂ : List Entry} {f : Failure}
      (hbuilt : BuildsAll dndDisk m front built m₁ es₁)
      (hrefused : Refuses dndDisk spec m₁ f m₂ es₂) :
      StopsAt dndDisk m front spec f ((Sensor.releaseAll built).after m₂)
        (es₁ ++ (es₂ ++ (Sensor.releaseAll built).trace m₂))

variable {m₁ : Machine} {specs front back : List SensorSpec} {built sensors : List Sensor}
  {es : List Entry} {Q : Except Failure (List Sensor) → Machine → List Entry → Prop}

/-- Specifications that are built, and those after them. -/
theorem wp_buildSensorsAfter_append (h : BuildsAll dndDisk m front sensors m₁ es)
    (built : List Sensor) :
    (buildSensorsAfter dndDisk built (front ++ back)).run.wp Q m ↔
      (buildSensorsAfter dndDisk (built ++ sensors) back).run.wp
        (fun r m' fs => Q r m' (es ++ fs)) m₁ := by
  induction h generalizing built Q with
  | nil m => simp only [List.nil_append, List.append_nil]
  | @cons m m' spec specs s sensors es hfirst hrest ih =>
    rw [List.cons_append, buildSensorsAfter, wp_run_bind, Attempt.wp_elseFirst, wp_iff, hfirst]
    dsimp only
    rw [ih, List.append_assoc, List.singleton_append]
    simp only [List.append_assoc]

/-- A specification that is refused, whatever comes after it. -/
theorem wp_buildSensorsAfter_refused {f : Failure}
    (h : Refuses dndDisk spec m f m₁ es) (built : List Sensor) :
    (buildSensorsAfter dndDisk built (spec :: back)).run.wp Q m ↔
      (Sensor.releaseAll built).wp (fun _ m' fs => Q (.error f) m' (es ++ fs)) m₁ := by
  obtain ⟨hvalue, rfl, rfl⟩ := h.run
  rw [buildSensorsAfter, wp_run_bind, Attempt.wp_elseFirst, wp_iff, hvalue]

/-- There is no other way. -/
theorem buildsAll_or_stopsAt (dndDisk : Bool) (m : Machine) (specs : List SensorSpec) :
    (∃ sensors m' es, BuildsAll dndDisk m specs sensors m' es) ∨
      ∃ front spec back f m' es, specs = front ++ spec :: back ∧
        StopsAt dndDisk m front spec f m' es := by
  induction specs generalizing m with
  | nil => exact .inl ⟨[], m, [], .nil m⟩
  | cons spec specs ih =>
    have hspec := buildSensor_spec dndDisk spec m
    cases hvalue : (buildSensor dndDisk spec).run.value m with
    | error f =>
      rw [wp_iff, hvalue] at hspec
      exact .inr ⟨[], spec, specs, f, _, _, rfl, .stop (.nil m) hspec⟩
    | ok s =>
      rcases ih ((buildSensor dndDisk spec).run.after m) with
        ⟨sensors, m', es, hrest⟩ | ⟨front, refused, back, f, m', es, rfl, hstops⟩
      · exact .inl ⟨_, _, _, .cons hvalue hrest⟩
      · cases hstops with
        | stop hbuilt hrefused =>
          exact .inr ⟨spec :: front, refused, back, f, _, _, rfl,
            .stop (.cons hvalue hbuilt) hrefused⟩

theorem BuildsAll.run (h : BuildsAll dndDisk m specs sensors m₁ es) :
    (buildSensorsAfter dndDisk [] specs).run.wp
      (fun r m' es' => r = .ok sensors ∧ m₁ = m' ∧ es = es') m := by
  have happend : (buildSensorsAfter dndDisk [] (specs ++ [])).run.wp
      (fun r m' es' => r = .ok sensors ∧ m₁ = m' ∧ es = es') m :=
    (wp_buildSensorsAfter_append h []).2 ⟨rfl, rfl, (List.append_nil es).symm⟩
  rwa [List.append_nil] at happend

theorem StopsAt.run {f : Failure} (h : StopsAt dndDisk m front spec f m₁ es)
    (back : List SensorSpec) :
    (buildSensorsAfter dndDisk [] (front ++ spec :: back)).run.wp
      (fun r m' es' => r = .error f ∧ m₁ = m' ∧ es = es') m := by
  cases h with
  | stop hbuilt hrefused =>
    rw [wp_buildSensorsAfter_append hbuilt, wp_buildSensorsAfter_refused hrefused]
    exact ⟨rfl, rfl, rfl⟩

theorem BuildsAll.faithful (h : BuildsAll dndDisk m specs sensors m₁ es) :
    List.Forall₂ (Sensor.Faithful dndDisk) specs sensors := by
  induction h with
  | nil m => exact .nil
  | cons hfirst hrest ih => exact .cons (buildSensor_faithful dndDisk _ _ _ hfirst) ih

end Config

/-! ## What is held -/

/-- The requests take and give back what is between what is held before them and after them. -/
def Balanced (es : List Entry) (before after : List Handle) : Prop :=
  ∀ handle, (takenIn es).count handle + before.count handle =
    (givenIn es).count handle + after.count handle

theorem balanced_nil : Balanced [] [] [] := fun _ => rfl

theorem Balanced.append {es fs : List Entry} {before between after : List Handle}
    (h : Balanced es before between) (h' : Balanced fs between after) :
    Balanced (es ++ fs) before after := by
  intro handle
  have hes := h handle
  have hfs := h' handle
  rw [takenIn_append, givenIn_append, List.count_append, List.count_append]
  omega

/-- What others hold is no matter. -/
theorem Balanced.beside {es : List Entry} {before after : List Handle}
    (h : Balanced es before after) (others : List Handle) :
    Balanced es (before ++ others) (after ++ others) := by
  intro handle
  have hes := h handle
  rw [List.count_append, List.count_append]
  omega

theorem Program.Follows.balanced {x : Program α} {p : Phase} {Q : α → Phase → Prop}
    (h : x.Follows p Q) (m : Machine) :
    ∃ q, Balanced (x.trace m) p.handles q.handles ∧ Q (x.value m) q :=
  have ⟨q, hrun, hvalue⟩ := h.trace m
  ⟨q, hrun.balance, hvalue⟩

/-- A sensor that is let go gives back what it holds. -/
theorem Sensor.release_balanced {s : Sensor} {p : Phase} (h : s.InPhase p) (m : Machine) :
    Balanced (s.release.trace m) s.handles [] := by
  obtain ⟨q, hbalanced, hidle⟩ := (Sensor.release_follows h).balanced m
  rwa [h.handles_eq, hidle.handles] at hbalanced

theorem Sensor.releaseAll_balanced {sensors : List Sensor}
    (h : ∀ s ∈ sensors, ∃ p, s.InPhase p) (m : Machine) :
    Balanced ((releaseAll sensors).trace m) (sensors.flatMap handles) [] := by
  induction sensors generalizing m with
  | nil => exact balanced_nil
  | cons s rest ih =>
    obtain ⟨⟨p, hp⟩, hrest⟩ := List.forall_mem_cons.1 h
    rw [releaseAll, trace_bind, List.flatMap_cons]
    exact ((s.release_balanced hp m).beside _).append (ih hrest _)

namespace Config

/-- A sensor that is built holds what building it took, and one that is refused nothing. -/
theorem buildSensor_balanced (dndDisk : Bool) (spec : SensorSpec) (m : Machine) :
    (buildSensor dndDisk spec).run.wp (fun r _ es =>
      match r with
      | .ok s => Balanced es [] s.handles ∧ ∃ p, s.InPhase p
      | .error _ => Balanced es [] []) m := by
  obtain ⟨q, hbalanced, hends⟩ := (buildSensor_follows dndDisk spec).balanced m
  rw [wp_iff]
  generalize (buildSensor dndDisk spec).run.value m = r at hends
  cases r with
  | ok s =>
    have hphase : s.InPhase q := hends
    rw [hphase.handles_eq] at hbalanced
    exact ⟨hbalanced, q, hphase⟩
  | error f =>
    have hidle : q.Idle := hends
    rwa [hidle.handles] at hbalanced

variable {dndDisk : Bool} {spec : SensorSpec} {m m₁ : Machine} {specs front : List SensorSpec}
  {sensors : List Sensor} {es : List Entry}

theorem Refuses.balanced {f : Failure} (h : Refuses dndDisk spec m f m₁ es) :
    Balanced es [] [] := by
  have hbalanced := wp_and h.run (buildSensor_balanced dndDisk spec m)
  rw [wp_iff] at hbalanced
  obtain ⟨⟨hvalue, -, rfl⟩, hbalanced⟩ := hbalanced
  rwa [hvalue] at hbalanced

theorem BuildsAll.balanced (h : BuildsAll dndDisk m specs sensors m₁ es) :
    Balanced es [] (sensors.flatMap Sensor.handles) ∧ ∀ s ∈ sensors, ∃ p, s.InPhase p := by
  induction h with
  | nil m => exact ⟨balanced_nil, nofun⟩
  | @cons m m' spec specs s sensors es hfirst hrest ih =>
    have hbalanced := buildSensor_balanced dndDisk spec m
    rw [wp_iff, hfirst] at hbalanced
    obtain ⟨hfirst, hphase⟩ := hbalanced
    obtain ⟨hothers, hphases⟩ := ih
    refine ⟨?_, List.forall_mem_cons.2 ⟨hphase, hphases⟩⟩
    intro handle
    have hhead := hfirst handle
    have htail := hothers handle
    rw [List.count_nil] at hhead htail ⊢
    rw [takenIn_append, givenIn_append, List.flatMap_cons, List.count_append, List.count_append,
      List.count_append]
    omega

/-- Nothing is held of the sensors that were built before one that is refused. -/
theorem StopsAt.balanced {f : Failure} (h : StopsAt dndDisk m front spec f m₁ es) :
    Balanced es [] [] := by
  cases h with
  | @stop built m₁ m₂ es₁ es₂ f hbuilt hrefused =>
    obtain ⟨hbalanced, hphases⟩ := hbuilt.balanced
    have hbeside := hrefused.balanced.beside (built.flatMap Sensor.handles)
    exact hbalanced.append (hbeside.append (Sensor.releaseAll_balanced hphases _))

/-! ## All or none -/

/-- Corrections that are too many for their sensor are a mistake of the configuration. -/
theorem StopsAt.of_tooMany {built : List Sensor} {s : Sensor}
    (hbuilt : BuildsAll dndDisk m front built m₁ es)
    (hfound : (findSensor dndDisk spec).run.value m₁ = .ok s)
    (hmany : s.count < spec.given.length) :
    ∃ f m' es', StopsAt dndDisk m front spec f m' es' ∧ f.kind = .config :=
  ⟨_, _, _, .stop hbuilt (.tooMany hfound hmany), rfl⟩

/-- The sensors of a configuration are all built, in order and as they are specified, and then
    hold what was taken. Or one is refused, the failure is the one of the first that is, what
    comes after it is no matter, and nothing is held. -/
theorem buildSensors_faithful (c : Config) (m : Machine) :
    c.buildSensors.run.wp (fun r m' es =>
      (∀ sensors m₁ es₁, BuildsAll c.dndDisk m c.sensors sensors m₁ es₁ ↔
        r = .ok sensors ∧ m₁ = m' ∧ es₁ = es) ∧
      (∀ sensors, r = .ok sensors →
        List.Forall₂ (Sensor.Faithful c.dndDisk) c.sensors sensors ∧
        Balanced es [] (sensors.flatMap Sensor.handles)) ∧
      (∀ f, r = .error f →
        (∃ front spec back, c.sensors = front ++ spec :: back ∧
          StopsAt c.dndDisk m front spec f m' es) ∧
        Balanced es [] []) ∧
      (∀ front spec back, c.sensors = front ++ spec :: back →
        (∀ f m₁ es₁, StopsAt c.dndDisk m front spec f m₁ es₁ →
          r = .error f ∧ m₁ = m' ∧ es₁ = es) ∧
        ∀ built s m₁ es₁, BuildsAll c.dndDisk m front built m₁ es₁ →
          (findSensor c.dndDisk spec).run.value m₁ = .ok s → s.count < spec.given.length →
          ∃ f, r = .error f ∧ f.kind = .config)) m := by
  rw [buildSensors]
  have hbuilds : ∀ sensors m₁ es₁, BuildsAll c.dndDisk m c.sensors sensors m₁ es₁ →
      (buildSensorsAfter c.dndDisk [] c.sensors).run.wp
        (fun r m' es => r = .ok sensors ∧ m₁ = m' ∧ es₁ = es) m := fun _ _ _ h => h.run
  have hstops : ∀ front spec back f m₁ es₁, c.sensors = front ++ spec :: back →
      StopsAt c.dndDisk m front spec f m₁ es₁ →
      (buildSensorsAfter c.dndDisk [] c.sensors).run.wp
        (fun r m' es => r = .error f ∧ m₁ = m' ∧ es₁ = es) m := by
    intro front spec back f m₁ es₁ hsensors h
    rw [hsensors]
    exact h.run back
  simp only [wp_iff] at hbuilds hstops ⊢
  generalize (buildSensorsAfter c.dndDisk [] c.sensors).run.value m = r at *
  generalize (buildSensorsAfter c.dndDisk [] c.sensors).run.after m = m' at *
  generalize (buildSensorsAfter c.dndDisk [] c.sensors).run.trace m = es at *
  have hrefused : ∀ front spec back, c.sensors = front ++ spec :: back →
      (∀ f m₁ es₁, StopsAt c.dndDisk m front spec f m₁ es₁ →
        r = .error f ∧ m₁ = m' ∧ es₁ = es) ∧
      ∀ built s m₁ es₁, BuildsAll c.dndDisk m front built m₁ es₁ →
        (findSensor c.dndDisk spec).run.value m₁ = .ok s → s.count < spec.given.length →
        ∃ f, r = .error f ∧ f.kind = .config := by
    intro front spec back hsensors
    refine ⟨fun f m₁ es₁ h => hstops front spec back f m₁ es₁ hsensors h, ?_⟩
    intro built s m₁ es₁ hbuilt hfound hmany
    obtain ⟨f, m₂, es₂, hstop, hkind⟩ := StopsAt.of_tooMany hbuilt hfound hmany
    exact ⟨f, (hstops front spec back f m₂ es₂ hsensors hstop).1, hkind⟩
  rcases buildsAll_or_stopsAt c.dndDisk m c.sensors with
    ⟨sensors, m₁, es₁, hall⟩ | ⟨front, spec, back, f, m₁, es₁, hsensors, hstop⟩
  · obtain ⟨rfl, rfl, rfl⟩ := hbuilds sensors m₁ es₁ hall
    refine ⟨fun sensors' m₂ es₂ => ⟨hbuilds sensors' m₂ es₂, ?_⟩, ?_, nofun, hrefused⟩
    · rintro ⟨⟨⟩, rfl, rfl⟩
      exact hall
    · rintro _ ⟨⟩
      exact ⟨hall.faithful, hall.balanced.1⟩
  · obtain ⟨rfl, rfl, rfl⟩ := hstops front spec back f m₁ es₁ hsensors hstop
    refine ⟨fun sensors' m₂ es₂ => ⟨hbuilds sensors' m₂ es₂, nofun⟩, nofun, ?_, hrefused⟩
    rintro _ ⟨⟩
    exact ⟨⟨front, spec, back, hsensors, hstop⟩, hstop.balanced⟩

end Config

end Cooling
