-- SUMMARY: What reads append to temperatures: after whatever was done with a sensor, and sensor after sensor in a cycle.
import Cooling.Proofs.Cycles
import Cooling.Proofs.DiskReads

/-!
# Readings

A sensor is handed temperatures and appends its own. How many it appends is settled by
its kind: a thermal sensor goes by the number of temperatures that was set, and any other
sensor appends one. So setting that number keeps it true for thermal sensors only.

A cycle is the reads of its sensors, one after the other, up to the first that fails. It
starts with no temperatures, whatever those of the last cycle were.
-/

namespace Cooling

open Program

/-! ## Appending -/

theorem Reading.outcome_eq_ok {r : Reading} : r.outcome = .ok () ↔ r.failure? = none := by
  unfold outcome
  cases r.failure? <;> simp

namespace Sensor

theorem value_readOnto (s : Sensor) (before : Temperatures) (m : Machine) :
    (s.readOnto before).value m =
      (s, before.append (s.read.value m).temperatures, (s.read.value m).outcome) :=
  value_bind _ _ m

/-- A sensor with one temperature appends it, or leaves the temperatures alone. -/
theorem value_readOnto_ofExcept (s : Sensor) (before : Temperatures) (m : Machine)
    (x : Except Failure Int) : s.read.value m = Reading.ofExcept x →
    (s.readOnto before).value m =
      match x with
      | .ok t => (s, before.append [t], .ok ())
      | .error f => (s, before, .error f) := by
  intro h
  rw [value_readOnto, h]
  cases x with
  | ok t => rfl
  | error f => simp [Reading.ofExcept, Reading.outcome]

end Sensor

/-! ## Sensors that can be read -/

theorem HwmonSensor.readable {s : HwmonSensor} (hpath : '\x00' ∉ s.base.path.toList)
    (h : ∀ c ∈ s.base.corrections, Text.fits32 c = true) :
    ∃ m t, (HwmonSensor.read s).value m = Reading.ok [t] := by
  let m : Machine := { files := ⟨[(s.base.path, "0".toUTF8)]⟩ }
  have hfile : m.files.get? s.base.path = some "0".toUTF8 := by simp [m, Registry.get?]
  have hquiet : m.Quiet := ⟨rfl, rfl, rfl⟩
  have hinterpret : s.interpret "0" = .ok (s.base.correction 0) := SensorBase.corrected_zero h
  refine ⟨m, s.base.correction 0, ?_⟩
  suffices hread : (HwmonSensor.read s).wp (fun r _ _ =>
      r = Reading.ok [s.base.correction 0]) m from hread
  unfold HwmonSensor.read
  rw [wp_bind]
  refine wp_mono (ControlFile.read_quiet hquiet hpath hfile) ?_
  rintro _ m' es ⟨rfl, -⟩
  exact congrArg Reading.ofExcept hinterpret

theorem GpuSensor.readable (base : SensorBase) {session : NvmlSession} (device : NvmlDevice)
    (hsession : session.initialized = true) :
    ∃ m t, (GpuSensor.read ⟨base, some (session, device)⟩).value m = Reading.ok [t] := by
  refine ⟨{}, 0, ?_⟩
  suffices hread : (GpuSensor.read ⟨base, some (session, device)⟩).wp (fun r _ _ =>
      r = Reading.ok [0]) {} from hread
  have htemperature : (session.temperature device).run.wp (fun r _ _ => r = .ok 0) {} := by
    unfold NvmlSession.temperature NvmlSession.ensureInitialized
    rw [if_pos hsession]
    rfl
  rw [GpuSensor.read, wp_map, GpuSensor.measure, wp_run_bind]
  refine wp_mono htemperature ?_
  rintro _ m' _ rfl
  rfl

/-! ## A sensor over time -/

namespace Sensor

/-- What can be done with a sensor. -/
inductive Operation where
  | setCount (n : Nat)
  | correct (corrections : List Int32)
  | setDoNotDisturb (on : Bool)
  | read (before : Temperatures)
  | shutDown

namespace Operation

/-- The number of temperatures that the operation sets. -/
def count? : Operation → Option Nat
  | setCount n => some n
  | _ => none

def shutsDown : Operation → Bool
  | shutDown => true
  | _ => false

end Operation

/-- Only a disk can be left alone. -/
def withDoNotDisturb (on : Bool) : Sensor → Sensor
  | disk s => disk { s with doNotDisturb := on }
  | s => s

/-- Does something with a sensor. Gives the sensor as it is then. -/
def perform (s : Sensor) : Operation → Program Sensor
  | .setCount n => return s.withCount n
  | .correct corrections =>
    (fun r => r.toOption.getD s) <$> (s.correct (corrections.map Int32.toInt)).run
  | .setDoNotDisturb on => return s.withDoNotDisturb on
  | .read before => Prod.fst <$> s.readOnto before
  | .shutDown => (fun _ => s.ended) <$> s.shutdown.run

/-- Whether the sensor has not been shut down. Only a GPU sensor can be. -/
def isOpen : Sensor → Bool
  | gpu s => s.backend?.isSome
  | _ => true

/-- What a read can count on: corrections that are numbers of 32 bits, a path that names a
    file, a session that was started. -/
structure Able (s : Sensor) : Prop where
  corrections : ∀ c ∈ s.base.corrections, Text.fits32 c = true
  path : s.kind = .hwmon → '\x00' ∉ s.path.toList
  session : ∀ g session device, s = gpu g → g.backend? = some (session, device) →
    session.initialized = true

variable {s : Sensor}

@[simp] theorem kind_withBase (base : SensorBase) (s : Sensor) :
    (s.withBase base).kind = s.kind := by
  cases s <;> rfl

@[simp] theorem isOpen_withBase (base : SensorBase) (s : Sensor) :
    (s.withBase base).isOpen = s.isOpen := by
  cases s <;> rfl

theorem Able.withBase (h : s.Able) (base : SensorBase) (hpath : base.path = s.path)
    (hcorrections : ∀ c ∈ base.corrections, Text.fits32 c = true) : (s.withBase base).Able where
  corrections := by simpa using hcorrections
  path := by
    intro hkind
    have hsame : (s.withBase base).path = s.path := by simpa [Sensor.path] using hpath
    rw [hsame]
    exact h.path (by simpa using hkind)
  session := by
    intro g session device hs hbackend
    cases s with
    | gpu g' =>
      cases hs
      exact h.session g' session device rfl hbackend
    | _ => cases hs

theorem Able.withCount (h : s.Able) (n : Nat) : (s.withCount n).Able :=
  h.withBase (s.base.withCount n) rfl (SensorBase.fits_withCount h.corrections n)

theorem fits32_toInt (c : Int32) : Text.fits32 c.toInt = true :=
  Text.fits32_iff.2 ⟨c.le_toInt, Int.le_of_lt_add_one c.toInt_lt⟩

/-- An operation keeps the kind of a sensor and what its reads can count on. It sets the
    number of temperatures, or shuts the sensor down, only if it says so. -/
theorem perform_keeps_able (s : Sensor) (o : Operation) (m : Machine) :
    (s.perform o).wp (fun s' _ _ => s'.kind = s.kind ∧ s'.count = o.count?.getD s.count ∧
      s'.isOpen = (s.isOpen && !(s.kind == .gpu && o.shutsDown)) ∧ (s.Able → s'.Able)) m := by
  have hsame : s.isOpen = (s.isOpen && !(s.kind == .gpu && false)) := by simp
  cases o with
  | setCount n =>
    refine ⟨kind_withBase _ s, ?_, ?_, fun h => h.withCount n⟩
    · exact congrArg SensorBase.count (base_withBase _ s)
    · exact (isOpen_withBase _ s).trans hsame
  | correct corrections =>
    have hcorrect : Gives (s.correct (corrections.map Int32.toInt)) fun s' =>
        s' = s.withBase { s.base with corrections := corrections.map Int32.toInt } :=
      (s.base.correct_ok _).bind fun base hbase => gives_pure (hbase ▸ rfl)
    rw [perform, wp_map]
    refine wp_mono (hcorrect.wp m) fun r _ _ hr => ?_
    cases r with
    | error f => exact ⟨rfl, rfl, hsame, id⟩
    | ok s' =>
      rw [hr s' rfl]
      refine ⟨kind_withBase _ s, ?_, (isOpen_withBase _ s).trans hsame, fun h => ?_⟩
      · change (s.withBase _).base.count = s.count
        rw [base_withBase]
        rfl
      · refine h.withBase _ rfl fun c hc => ?_
        obtain ⟨c, _, rfl⟩ := List.mem_map.1 hc
        exact fits32_toInt c
  | setDoNotDisturb on =>
    cases s with
    | disk d => exact ⟨rfl, rfl, hsame, fun h => ⟨h.corrections, nofun, nofun⟩⟩
    | _ => exact ⟨rfl, rfl, hsame, id⟩
  | read before =>
    rw [perform, wp_map, readOnto, wp_bind]
    exact wp_of_forall fun _ _ _ => ⟨rfl, rfl, hsame, id⟩
  | shutDown =>
    rw [perform, wp_map]
    refine wp_of_forall fun _ _ _ => ?_
    cases s with
    | gpu g => exact ⟨rfl, rfl, by simp [ended, GpuSensor.ended, isOpen, kind, Operation.shutsDown],
        fun h => ⟨h.corrections, nofun, by rintro _ session device ⟨⟩ ⟨⟩⟩⟩
    | _ => exact ⟨rfl, rfl, rfl, id⟩

/-- Unless it is shut down, a sensor with one temperature can be read on some machine. -/
theorem Able.readable (h : s.Able) (hkind : s.kind ≠ .thermal) (hopen : s.isOpen = true) :
    ∃ m t, s.read.value m = Reading.ok [t] := by
  cases s with
  | hwmon s => exact HwmonSensor.readable (h.path rfl) h.corrections
  | thermal s => exact absurd rfl hkind
  | disk s => exact DiskSensor.readable h.corrections
  | gpu s =>
    obtain ⟨base, backend?⟩ := s
    cases backend? with
    | none => cases hopen
    | some backend =>
      obtain ⟨session, device⟩ := backend
      exact GpuSensor.readable base device (h.session _ session device rfl rfl)

end Sensor

namespace Config

/-- A sensor that was found can be read. -/
theorem findSensor_able (dndDisk : Bool) (spec : SensorSpec) :
    Gives (findSensor dndDisk spec) Sensor.Able := by
  have hzeros : ∀ path count,
      ∀ c ∈ (SensorBase.withCount { path } count).corrections, Text.fits32 c = true :=
    fun path => SensorBase.fits_withCount nofun
  unfold findSensor
  split
  · refine Gives.map ((SensorBase.find_ok _).bind fun base hbase => gives_pure ?_)
    rw [hbase.2]
    exact ⟨hzeros _ _, fun _ => hbase.1, nofun⟩
  · refine Gives.map ((SensorBase.find_ok _).bind fun base hbase => ?_)
    refine (gives_true _).bind fun contents _ => (gives_true _).bind fun count _ => ?_
    refine (gives_true _).bind fun _ _ => gives_pure ?_
    rw [hbase.2]
    exact ⟨hzeros _ _, nofun, nofun⟩
  · have hfind : Gives (DiskSensor.find spec.path) fun sensor =>
        sensor.base = SensorBase.withCount { path := spec.path } 1 :=
      (gives_true _).bind fun _ _ => gives_pure rfl
    refine hfind.bind fun sensor hsensor => gives_pure ⟨?_, nofun, nofun⟩
    intro c hc
    rw [Sensor.base, hsensor] at hc
    exact hzeros _ _ c hc
  · refine Gives.map (NvmlSession.start_ok.bind fun session hsession => ?_)
    refine (gives_true _).bind fun device _ => (gives_true _).bind fun _ _ => gives_pure ?_
    refine ⟨hzeros _ _, nofun, ?_⟩
    rintro _ session device ⟨⟩ ⟨⟩
    exact hsession

end Config

/-- A sensor, and the machine that it is part of. -/
structure Gauge where
  sensor : Sensor
  machine : Machine

namespace Gauge

/-- What can happen: an operation on the sensor, or a change of the machine from outside. -/
inductive Event where
  | operation (o : Sensor.Operation)
  | change (c : Change)

namespace Event

/-- The number of temperatures that the event sets. -/
def count? : Event → Option Nat
  | operation o => o.count?
  | change _ => none

def shutsDown : Event → Bool
  | operation o => o.shutsDown
  | change _ => false

end Event

def step (g : Gauge) : Event → Gauge
  | .operation o => ⟨(g.sensor.perform o).value g.machine, (g.sensor.perform o).after g.machine⟩
  | .change c => { g with machine := g.machine.change c }

/-- The sensor and its machine after events. -/
def after (g : Gauge) (events : List Event) : Gauge := events.foldl step g

/-- The number of temperatures after events. -/
def countAfter (n : Nat) (events : List Event) : Nat :=
  events.foldl (fun n e => e.count?.getD n) n

theorem step_keeps_able (g : Gauge) (e : Event) :
    (g.step e).sensor.kind = g.sensor.kind ∧
      (g.step e).sensor.count = e.count?.getD g.sensor.count ∧
      (g.step e).sensor.isOpen = (g.sensor.isOpen && !(g.sensor.kind == .gpu && e.shutsDown)) ∧
      (g.sensor.Able → (g.step e).sensor.Able) := by
  cases e with
  | operation o => exact g.sensor.perform_keeps_able o g.machine
  | change c => exact ⟨rfl, rfl, by simp [step, Event.shutsDown], id⟩

/-- What events make of a sensor, as far as it matters for its reads. -/
theorem after_keeps_able (g : Gauge) (events : List Event) :
    (g.after events).sensor.kind = g.sensor.kind ∧
      (g.after events).sensor.count = countAfter g.sensor.count events ∧
      (g.after events).sensor.isOpen =
        (g.sensor.isOpen && !(g.sensor.kind == .gpu && events.any Event.shutsDown)) ∧
      (g.sensor.Able → (g.after events).sensor.Able) := by
  induction events generalizing g with
  | nil => exact ⟨rfl, rfl, by simp [after], id⟩
  | cons e events ih =>
    obtain ⟨hkind, hcount, hopen, hable⟩ := g.step_keeps_able e
    obtain ⟨hkind', hcount', hopen', hable'⟩ := ih (g.step e)
    rw [hkind] at hkind' hopen'
    rw [hcount] at hcount'
    refine ⟨hkind', hcount', ?_, hable' ∘ hable⟩
    refine hopen'.trans ?_
    rw [hopen, List.any_cons, Bool.and_assoc]
    cases g.sensor.kind == .gpu <;> cases e.shutsDown <;> simp

end Gauge

namespace Sensor

variable {s : Sensor}

/-- A read that does not fail appends as many temperatures as the sensor says. -/
def KeepsCount (s : Sensor) : Prop :=
  ∀ before m, (s.readOnto before).wp (fun r _ _ => r.2.2 = .ok () →
    ∃ given, r.2.1.toList = before.toList ++ given ∧ given.length = s.count) m

/-- What a read appends, and how many temperatures that are unless the read fails. -/
theorem readOnto_appends (s : Sensor) (before : Temperatures) (m : Machine) :
    (s.readOnto before).wp (fun r _ _ => ∃ given, r.2.1.toList = before.toList ++ given ∧
      (r.2.2 = .ok () → given.length = s.yield)) m := by
  rw [readOnto, wp_bind]
  refine wp_mono (s.gives_read m) fun reading _ _ hgives => ?_
  exact ⟨reading.temperatures, rfl, fun hok => hgives (Reading.outcome_eq_ok.1 hok)⟩

theorem yield_eq_count (s : Sensor) (h : s.kind = .thermal) : s.yield = s.count := by
  cases s with
  | thermal s => rfl
  | _ => cases h

theorem yield_eq_one (s : Sensor) (h : s.kind ≠ .thermal) : s.yield = 1 := by
  cases s with
  | thermal s => exact absurd rfl h
  | _ => rfl

theorem WellFormed.isOpen (h : s.WellFormed) : s.isOpen = true := by
  cases s with
  | gpu s =>
    obtain ⟨-, session, device, hbackend, -⟩ := h
    simp [Sensor.isOpen, hbackend]
  | _ => rfl

theorem keepsCount_of_yield (h : s.yield = s.count) : s.KeepsCount := by
  intro before m
  refine wp_mono (s.readOnto_appends before m) fun r _ _ ⟨given, hgiven, hlength⟩ hok => ?_
  exact ⟨given, hgiven, (hlength hok).trans h⟩

/-- A sensor that was shut down does not give anything. -/
theorem keepsCount_of_not_isOpen (h : s.isOpen = false) : s.KeepsCount := by
  cases s with
  | gpu s =>
    obtain ⟨base, backend?⟩ := s
    cases backend? with
    | some backend => cases h
    | none => exact fun before m hok => nomatch hok
  | _ => cases h

theorem KeepsCount.yield_eq (h : s.KeepsCount) (hable : s.Able) (hopen : s.isOpen = true) :
    s.yield = s.count := by
  by_cases hkind : s.kind = .thermal
  · exact s.yield_eq_count hkind
  · obtain ⟨m, t, hread⟩ := hable.readable hkind hopen
    have hkeeps := h .empty m
    rw [readOnto, wp_bind, wp_iff, hread] at hkeeps
    obtain ⟨given, hgiven, hlength⟩ := hkeeps rfl
    have hone : given = [t] := hgiven.symm
    rw [s.yield_eq_one hkind, ← hlength, hone]
    rfl

end Sensor

namespace Gauge

/-- Whatever is done with a sensor that was found, and whatever happens to its machine: a
    read keeps the temperatures from before it, and if it does not fail it appends as many
    as the kind of the sensor gives. These are as many as the number of temperatures says
    only for a thermal sensor, while that number is 1, or once there is nothing to read. -/
theorem keepsCount_iff {dndDisk : Bool} {spec : SensorSpec} {m₀ : Machine} {found : Sensor}
    (hfound : (Config.findSensor dndDisk spec).run.value m₀ = .ok found) (m₁ : Machine)
    (events : List Event) :
    let s := (Gauge.after ⟨found, m₁⟩ events).sensor
    s.count = countAfter found.count events ∧
      (∀ before m, (s.readOnto before).wp (fun r _ _ =>
        ∃ given, r.2.1.toList = before.toList ++ given ∧
          (r.2.2 = .ok () → given.length = s.yield)) m) ∧
      (s.KeepsCount ↔ spec.kind = .thermal ∨ s.count = 1 ∨
        spec.kind = .gpu ∧ events.any Event.shutsDown = true) := by
  intro s
  have hbuilt := Config.findSensor_ok dndDisk spec m₀ found hfound
  have hable := Config.findSensor_able dndDisk spec m₀ found hfound
  obtain ⟨hkind, hcount, hisOpen, hkeeps⟩ := Gauge.after_keeps_able ⟨found, m₁⟩ events
  replace hkind : s.kind = spec.kind := hkind.trans hbuilt.kind
  have hstarted : found.isOpen = true := hbuilt.wellFormed.isOpen
  replace hisOpen : s.isOpen = !(spec.kind == .gpu && events.any Event.shutsDown) := by
    simpa [hstarted, hbuilt.kind] using hisOpen
  refine ⟨hcount, s.readOnto_appends, fun h => ?_, ?_⟩
  · by_cases hthermal : spec.kind = .thermal
    · exact .inl hthermal
    · cases hclosed : spec.kind == .gpu && events.any Event.shutsDown with
      | true => exact .inr (.inr (by simpa using hclosed))
      | false =>
        have hyield := h.yield_eq (hkeeps hable) (by rw [hisOpen, hclosed]; rfl)
        rw [s.yield_eq_one (hkind ▸ hthermal)] at hyield
        exact .inr (.inl hyield.symm)
  · rintro (hthermal | hone | ⟨hgpu, hshut⟩)
    · exact Sensor.keepsCount_of_yield (s.yield_eq_count (hkind.trans hthermal))
    · by_cases hthermal : s.kind = .thermal
      · exact Sensor.keepsCount_of_yield (s.yield_eq_count hthermal)
      · exact Sensor.keepsCount_of_yield ((s.yield_eq_one hthermal).trans hone.symm)
    · exact Sensor.keepsCount_of_not_isOpen (by rw [hisOpen, hgpu, hshut]; rfl)

/-- A hardware sensor that was told to give no temperatures still gives one. -/
theorem uncounted_still_gives :
    let file : Machine := { files := ⟨[("temp1_input", "42000".toUTF8)]⟩ }
    let found : Sensor := .hwmon ⟨SensorBase.withCount { path := "temp1_input" } 1⟩
    let s := (Gauge.after ⟨found, file⟩ [.operation (.setCount 0)]).sensor
    (Config.findSensor false ⟨.hwmon, "temp1_input", none⟩).run.value file = .ok found ∧
      s.count = 0 ∧ ¬ s.KeepsCount ∧
      (s.readOnto .empty).value file = (s, ⟨[42]⟩, .ok ()) := by
  intro file found s
  have hfound : (Config.findSensor false ⟨.hwmon, "temp1_input", none⟩).run.value file =
      .ok found := rfl
  obtain ⟨hcount, -, hiff⟩ := keepsCount_iff hfound file [.operation (.setCount 0)]
  refine ⟨hfound, hcount, fun hkeeps => ?_, by decide +kernel⟩
  rcases hiff.1 hkeeps with hkind | hone | ⟨hkind, -⟩
  · cases hkind
  · cases hone
  · cases hkind

end Gauge

/-! ## Cycles -/

namespace Sensor

/-- Reads sensors in order, and goes on when one fails. -/
def readEach : List Sensor → Program (List Reading)
  | [] => return []
  | s :: rest => do
    let first ← s.read
    let others ← readEach rest
    return first :: others

/-- Sensors that do not fail are each read, and then the cycle goes on with the others. -/
theorem wp_readAll_append {front back : List Sensor} {before : Temperatures} {m : Machine}
    (h : ∀ r ∈ readings front m, r.failure? = none)
    {Q : List Sensor × Temperatures × Except Failure Unit → Machine → List Entry → Prop} :
    (readAll (front ++ back) before).wp Q m ↔
      (readAll back (before.append (temperatures (readings front m)))).wp (fun r m' es =>
        Q (front ++ r.1, r.2) m' ((readEach front).trace m ++ es)) ((readEach front).after m) := by
  induction front generalizing before m Q with
  | nil =>
    have hnone : before.append (temperatures (readings [] m)) = before := before.append_nil
    rw [hnone]
    rfl
  | cons s front ih =>
    obtain ⟨hfirst, hrest⟩ := List.forall_mem_cons.1 h
    have hreadings : temperatures (readings (s :: front) m) =
        (s.read.value m).temperatures ++ temperatures (readings front (s.read.after m)) := rfl
    have hafter : (readEach (s :: front)).after m = (readEach front).after (s.read.after m) := by
      rw [readEach, after_bind, after_bind]
      rfl
    have htrace : (readEach (s :: front)).trace m =
        s.read.trace m ++ (readEach front).trace (s.read.after m) := by
      rw [readEach, trace_bind, trace_bind]
      exact congrArg (s.read.trace m ++ ·) (List.append_nil _)
    rw [List.cons_append, wp_readAll_cons, wp_iff, hfirst, hreadings, hafter, htrace,
      ← Temperatures.append_append]
    simp only [List.append_assoc, List.cons_append]
    exact ih hrest

/-- A cycle that ends with a sensor that fails reads no sensor after that one. -/
theorem wp_readAll_cons_failed {s : Sensor} {rest : List Sensor} {before : Temperatures}
    {m : Machine} {f : Failure} (h : (s.read.value m).failure? = some f)
    {Q : List Sensor × Temperatures × Except Failure Unit → Machine → List Entry → Prop} :
    (readAll (s :: rest) before).wp Q m ↔
      s.read.wp (fun first => Q (s :: rest, before.append first.temperatures, .error f)) m := by
  rw [wp_readAll_cons, wp_iff, h]
  rfl

/-- Reads leave sensors as they are. -/
theorem readAll_same (sensors : List Sensor) (before : Temperatures) :
    readAll sensors before = (fun r => (sensors, r.2)) <$> readAll sensors before := by
  induction sensors generalizing before with
  | nil => rfl
  | cons s rest ih =>
    simp only [readAll, readOnto, bind_assoc, pure_bind, map_bind]
    refine congrArg (s.read >>= ·) (funext fun first => ?_)
    cases hf : first.outcome with
    | error f => rfl
    | ok a =>
      dsimp only
      rw [ih, bind_map_left, map_bind]
      rfl

/-- What a sensor appended when its read failed: a thermal sensor the temperatures that its
    file shows, fewer than it was to give or none at all, and any other sensor nothing. -/
def CutShort (m : Machine) (given : List Int) : Sensor → Prop
  | thermal s => given = s.shown m ∧ (given.length < s.base.count ∨ given = [])
  | _ => given = []

theorem cutShort_read (s : Sensor) (m : Machine) :
    s.read.wp (fun r _ _ => r.failure? ≠ none → s.CutShort m r.temperatures) m := by
  by_cases hkind : s.kind = .thermal
  · cases s with
    | thermal s =>
      refine wp_mono (s.read_shown m) fun r _ _ ⟨htemperatures, _, hshort⟩ hfailed => ?_
      have hall : r.temperatures = s.shown m := by
        rw [htemperatures]
        rcases hshort hfailed with hlt | hnil
        · exact List.take_of_length_le (Nat.le_of_lt hlt)
        · rw [hnil, List.take_nil]
      rw [hall]
      exact ⟨rfl, hshort hfailed⟩
    | _ => cases hkind
  · obtain ⟨x, hx⟩ := read_single hkind
    rw [hx, wp_map]
    refine wp_of_forall fun r _ _ hfailed => ?_
    have hnil : (Reading.ofExcept r).temperatures = [] := by
      cases r with
      | ok t => exact absurd rfl hfailed
      | error f => rfl
    rw [hnil]
    cases s with
    | thermal s => exact absurd rfl hkind
    | _ => rfl

end Sensor

namespace Session

theorem readCycle_eq (sensors : List Sensor) (last : Temperatures) :
    readCycle sensors last = Prod.snd <$> Sensor.readAll sensors last.cleared :=
  (map_eq_pure_bind _ _).symm

/-- A cycle is the reads of its sensors in order, whatever temperatures it is handed, and it
    leaves the sensors as they are. If no read fails, it gives what all of them append. If
    one does, it fails as the first of these and reads no sensor after that, and it gives what
    the reads append up to there. -/
theorem readCycle_composes (sensors : List Sensor) (last : Temperatures) (m : Machine) :
    Sensor.readAll sensors last.cleared = (fun r => (sensors, r)) <$> readCycle sensors last ∧
      readCycle sensors last = readCycle sensors .empty ∧
      (readCycle sensors last).wp (fun r m' es =>
        (r.2 = .ok () ↔ ∀ reading ∈ Sensor.readings sensors m, reading.failure? = none) ∧
          (r.2 = .ok () → r.1.toList = Sensor.temperatures (Sensor.readings sensors m) ∧
            m' = (Sensor.readEach sensors).after m ∧ es = (Sensor.readEach sensors).trace m) ∧
          ∀ front s back f, sensors = front ++ s :: back →
            (∀ reading ∈ Sensor.readings front m, reading.failure? = none) →
            let mₛ := (Sensor.readEach front).after m
            (s.read.value mₛ).failure? = some f →
              r.2 = .error f ∧
                r.1.toList = Sensor.temperatures (Sensor.readings front m) ++
                  (s.read.value mₛ).temperatures ∧
                m' = s.read.after mₛ ∧
                es = (Sensor.readEach front).trace m ++ s.read.trace mₛ ∧
                s.CutShort mₛ (s.read.value mₛ).temperatures) m := by
  refine ⟨?_, rfl, ?_⟩
  · rw [readCycle_eq, ← LawfulFunctor.comp_map]
    exact Sensor.readAll_same sensors last.cleared
  · rw [readCycle_eq, wp_map]
    have hfailure : (Sensor.readAll sensors last.cleared).wp (fun r _ _ => r.2.2 = .ok () ↔
        ∀ reading ∈ Sensor.readings sensors m, reading.failure? = none) m := by
      refine wp_mono (Sensor.readAll_readings sensors last.cleared m) fun r _ _ ⟨_, hr⟩ => ?_
      rw [← List.findSome?_eq_none_iff, ← Sensor.firstFailure?]
      cases hf : Sensor.firstFailure? (Sensor.readings sensors m) with
      | none =>
        rw [hf] at hr
        exact iff_of_true (congrArg Prod.snd hr) rfl
      | some f =>
        rw [hf] at hr
        rw [hr]
        exact iff_of_false nofun nofun
    refine ⟨hfailure, fun hok => ?_, ?_⟩
    · have hnone := hfailure.1 hok
      suffices h : (Sensor.readAll (sensors ++ []) last.cleared).wp (fun r m' es =>
          r.2.1.toList = Sensor.temperatures (Sensor.readings sensors m) ∧
            m' = (Sensor.readEach sensors).after m ∧ es = (Sensor.readEach sensors).trace m) m by
        rwa [List.append_nil] at h
      rw [Sensor.wp_readAll_append hnone]
      exact ⟨rfl, rfl, List.append_nil _⟩
    · rintro front s back f rfl hfront mₛ hfailed
      have hcut := Sensor.cutShort_read s mₛ
      suffices h : (Sensor.readAll (front ++ s :: back) last.cleared).wp (fun r m' es =>
          r.2.2 = .error f ∧
            r.2.1.toList = Sensor.temperatures (Sensor.readings front m) ++
              (s.read.value mₛ).temperatures ∧
            m' = s.read.after mₛ ∧ es = (Sensor.readEach front).trace m ++ s.read.trace mₛ) m by
        obtain ⟨houtcome, htemperatures, hafter, htrace⟩ := h
        exact ⟨houtcome, htemperatures, hafter, htrace, hcut (by rw [hfailed]; exact nofun)⟩
      rw [Sensor.wp_readAll_append hfront, Sensor.wp_readAll_cons_failed hfailed]
      exact ⟨rfl, rfl, rfl, rfl⟩

/-- A thermal sensor that was told to give no temperatures cannot give fewer when its file
    is gone: its read still fails. -/
theorem uncounted_not_fewer :
    let file : Machine := { files := ⟨[("thermal", "temperatures: 42".toUTF8)]⟩ }
    let found : Sensor := .thermal { base := SensorBase.withCount { path := "thermal" } 1 }
    let s := found.withCount 0
    (Config.findSensor false ⟨.thermal, "thermal", none⟩).run.value file = .ok found ∧
      (readCycle [s]).value {} =
        (.empty, .error (ThermalSensor.unreadable "thermal" .noEntry)) ∧
      ¬ Temperatures.empty.toList.length < s.count :=
  ⟨rfl, rfl, by decide⟩

end Session

end Cooling
