-- SUMMARY: A fan from when it is found until it is let go: what is done with it on a machine that changes, and that it is handed back once.
import Cooling.Proofs.Files
import Cooling.Proofs.HandBack

/-!
# Custody of a fan

A fan that was found is taken over, set and kept at levels, restored and at last let go,
in any order and as often as one likes, on a machine that changes meanwhile. Restoring
it and letting it go both hand it back, and only the first of them does anything: it
writes the level or mode that was found, whatever has happened since.
-/

namespace Cooling

open Program

/-! ## Finding a fan -/

namespace ControlFile

/-- The text that is read is what the file holds. -/
theorem read_contents {m : Machine} {path text : String} (h : (read path).value m = .ok text) :
    ∃ bytes, m.files.get? path = some bytes ∧ decode bytes = .ok text := by
  unfold read access at h
  split at h
  · cases h
  · rw [value_bind] at h
    generalize hread : (request (.readFile path)).value m = read at h
    cases read with
    | error e => cases h
    | ok bytes => exact ⟨bytes, Machine.readFile_ok hread, h⟩

end ControlFile

namespace Fan

/-- Finds the fan of a kind behind a file. -/
def find (kind : FanKind) (path : String) : Attempt Fan :=
  match kind with
  | .thinkpad => thinkpad <$> ThinkpadFan.find path
  | .pwm => pwm <$> PwmFan.find path

/-- The fan of a kind behind a file, as the contents of its file show it. -/
def shown (kind : FanKind) (path contents : String) : Fan :=
  match kind with
  | .thinkpad => .thinkpad { path, initialLevel := ThinkpadStatus.level contents }
  | .pwm => .pwm { path, initialMode := PwmFan.mode contents }

/-- A fan that is found is as its file shows it, and has yet to be restored. -/
theorem find_shows (kind : FanKind) (path : String) (m : Machine) :
    (find kind path).run.wp (fun r _ _ => ∀ fan, r = .ok fan → fan.Ready ∧
      ∃ bytes contents, m.files.get? fan.restoreTarget = some bytes ∧
        ControlFile.decode bytes = .ok contents ∧ fan = shown kind path contents) m := by
  have hread : ∀ file, (ControlFile.read file).wp (fun r _ _ => ∀ text, r = .ok text →
      '\x00' ∉ file.toList ∧
        ∃ bytes, m.files.get? file = some bytes ∧ ControlFile.decode bytes = .ok text) m :=
    fun file text h => ⟨ControlFile.read_ok h, ControlFile.read_contents h⟩
  cases kind with
  | thinkpad =>
    change (ExceptT.run (thinkpad <$> ThinkpadFan.find path)).wp _ m
    unfold ThinkpadFan.find
    rw [wp_run_map, wp_run_bind, Attempt.wp_ofProgram]
    refine wp_mono (hread path) fun r m' es hcontents => ?_
    cases r with
    | error e => exact nofun
    | ok contents =>
      obtain ⟨hpath, bytes, hbytes, hdecode⟩ := hcontents contents rfl
      refine (wp_run_guard _ _).2 ?_
      split
      · exact nofun
      · rintro _ ⟨⟩
        exact ⟨⟨hpath, rfl⟩, bytes, contents, hbytes, hdecode, rfl⟩
  | pwm =>
    change (ExceptT.run (pwm <$> PwmFan.find path)).wp _ m
    unfold PwmFan.find
    rw [wp_run_map, wp_run_bind, Attempt.wp_ofProgram]
    refine wp_mono (hread (PwmFan.modePathFor path)) fun r m' es hcontents => ?_
    cases r with
    | error e => exact nofun
    | ok contents =>
      obtain ⟨hpath, bytes, hbytes, hdecode⟩ := hcontents contents rfl
      rintro _ ⟨⟩
      exact ⟨⟨hpath, rfl⟩, bytes, contents, hbytes, hdecode, rfl⟩

end Fan

/-! ## Operations -/

/-- A duration that can be set at any time. -/
inductive ThinkpadFan.Setting where
  | watchdog (d : Duration)
  | depulse (d : Duration)
  | pollInterval (d : Duration)

def ThinkpadFan.adjust (fan : ThinkpadFan) : Setting → ThinkpadFan
  | .watchdog d => { fan with watchdog := d }
  | .depulse d => { fan with depulse := d }
  | .pollInterval d => { fan with pollInterval := d }

namespace Fan

/-- What can be done with a fan. Letting it go is the last thing to do. -/
inductive Operation where
  | takeOver
  | setSpeed (level : Level)
  | keep (level : Level)
  | restore
  | adjust (setting : ThinkpadFan.Setting)
  | release

namespace Operation

/-- Whether the operation hands the fan back. -/
def handsBack : Operation → Bool
  | restore | release => true
  | _ => false

end Operation

/-- A PWM channel has no settings. -/
def adjust (setting : ThinkpadFan.Setting) : Fan → Fan
  | thinkpad fan => thinkpad (fan.adjust setting)
  | pwm fan => pwm fan

/-- The fan after an attempt to change its speed. If that fails the fan is as it was. -/
def steered (fan : Fan) : Except Failure Fan → Fan × Except Failure Unit
  | .ok fan' => (fan', .ok ())
  | .error f => (fan, .error f)

/-- Does something with a fan. Gives the fan as it is then, and how it went. -/
def perform (fan : Fan) : Operation → Program (Fan × Except Failure Unit)
  | .takeOver => (fun r => (fan, r)) <$> fan.takeOver.run
  | .setSpeed level => fan.steered <$> (fan.setSpeed level).run
  | .keep level => fan.steered <$> (fan.keep level).run
  | .restore => (fun r => (fan.restored, r)) <$> fan.restore.run
  | .adjust setting => return (fan.adjust setting, .ok ())
  | .release => (fun _ => (fan.restored, .ok ())) <$> fan.release

def restorePending : Fan → Bool
  | thinkpad fan => fan.restorePending
  | pwm fan => fan.restorePending

/-- The second fan is the first one at another time. -/
structure SameOrigin (fan fan' : Fan) : Prop where
  restoreTarget : fan'.restoreTarget = fan.restoreTarget
  restoreText : fan'.restoreText = fan.restoreText

theorem SameOrigin.refl (fan : Fan) : SameOrigin fan fan := ⟨rfl, rfl⟩

theorem SameOrigin.trans {fan₁ fan₂ fan₃ : Fan} (h : SameOrigin fan₁ fan₂)
    (h' : SameOrigin fan₂ fan₃) : SameOrigin fan₁ fan₃ :=
  ⟨h'.restoreTarget.trans h.restoreTarget, h'.restoreText.trans h.restoreText⟩

theorem Held.sameOrigin {fan fan' : Fan} (h : Held fan fan') : SameOrigin fan fan' :=
  ⟨h.restoreTarget_eq, h.restoreText_eq⟩

theorem Held.restorePending_eq {fan fan' : Fan} (h : Held fan fan') :
    fan'.restorePending = fan.restorePending := by
  cases h <;> rfl

theorem ready_iff {fan : Fan} :
    fan.Ready ↔ '\x00' ∉ fan.restoreTarget.toList ∧ fan.restorePending = true := by
  cases fan <;> rfl

end Fan

namespace ThinkpadFan

theorem setSpeed_held (fan : ThinkpadFan) (level : Level) :
    Gives (fan.setSpeed level) fun fan' => Fan.Held (.thinkpad fan) (.thinkpad fan') := by
  refine (gives_true _).bind fun _ _ => (gives_true _).bind fun now _ => ?_
  exact gives_pure (.thinkpad fan (some now))

theorem keep_held (fan : ThinkpadFan) (level : Level) :
    Gives (fan.keep level) fun fan' => Fan.Held (.thinkpad fan) (.thinkpad fan') := by
  unfold keep
  split
  · exact (gives_true _).bind fun _ _ => (gives_true _).bind fun _ _ => fan.setSpeed_held level
  · refine (gives_true _).bind fun now _ => ?_
    split
    · exact fan.setSpeed_held level
    · exact gives_pure (.refl _)

end ThinkpadFan

namespace Fan

theorem setSpeed_held (fan : Fan) (level : Level) : Gives (fan.setSpeed level) fan.Held := by
  cases fan with
  | thinkpad fan => exact (fan.setSpeed_held level).map
  | pwm fan => exact (gives_true _).bind fun _ _ => gives_pure (.pwm fan)

theorem keep_held (fan : Fan) (level : Level) : Gives (fan.keep level) fan.Held := by
  cases fan with
  | thinkpad fan => exact (fan.keep_held level).map
  | pwm fan => exact gives_pure (.pwm fan)

theorem adjust_keeps (fan : Fan) (setting : ThinkpadFan.Setting) :
    fan.SameOrigin (fan.adjust setting) ∧
      (fan.adjust setting).restorePending = fan.restorePending := by
  cases fan <;> cases setting <;> exact ⟨⟨rfl, rfl⟩, rfl⟩

/-- An operation keeps what the fan is handed back with, and whether that is still to be
    done, unless it hands the fan back itself. -/
theorem perform_keeps (fan : Fan) (o : Operation) (m : Machine) :
    (fan.perform o).wp (fun r _ _ => fan.SameOrigin r.1 ∧
      r.1.restorePending = (fan.restorePending && !o.handsBack)) m := by
  have hsame : fan.SameOrigin fan ∧ fan.restorePending = (fan.restorePending && !false) :=
    ⟨.refl fan, (Bool.and_true _).symm⟩
  have hsteered : ∀ {attempt : Attempt Fan}, Gives attempt fan.Held →
      (fan.steered <$> attempt.run).wp (fun r _ _ => fan.SameOrigin r.1 ∧
        r.1.restorePending = (fan.restorePending && !false)) m := by
    intro attempt hattempt
    rw [wp_map]
    refine wp_mono (hattempt.wp m) fun r m' es hheld => ?_
    cases r with
    | ok fan' =>
      exact ⟨(hheld fan' rfl).sameOrigin,
        (hheld fan' rfl).restorePending_eq.trans (Bool.and_true _).symm⟩
    | error f => exact hsame
  have hrestored : fan.SameOrigin fan.restored ∧
      fan.restored.restorePending = (fan.restorePending && !true) := by
    rw [Bool.not_true, Bool.and_false]
    cases fan <;> exact ⟨⟨rfl, rfl⟩, rfl⟩
  cases o with
  | takeOver => exact (wp_map _ _).2 hsame
  | setSpeed level => exact hsteered (fan.setSpeed_held level)
  | keep level => exact hsteered (fan.keep_held level)
  | restore => exact (wp_map _ _).2 hrestored
  | adjust setting =>
    obtain ⟨horigin, hpending⟩ := fan.adjust_keeps setting
    exact ⟨horigin, hpending.trans (Bool.and_true _).symm⟩
  | release => exact (wp_map _ _).2 hrestored

/-- The first operation that hands the fan back writes what was found, at once. -/
theorem perform_once {fan : Fan} (hready : fan.Ready) {o : Operation} (ho : o.handsBack = true)
    (m : Machine) :
    (fan.perform o).WritesOnce fan.restoreTarget fan.restoreText (fun _ _ => True) m := by
  cases o with
  | restore =>
    refine (wp_map _ _).2 (wp_mono (restore_once hready m) ?_)
    rintro r m' es ⟨htiming, result, hwrites, -⟩
    exact ⟨htiming, result, hwrites, trivial⟩
  | release =>
    refine (wp_map _ _).2 (wp_mono (release_once hready m) ?_)
    rintro r m' es ⟨htiming, result, hwrites, -⟩
    exact ⟨htiming, result, hwrites, trivial⟩
  | _ => cases ho

/-- Once handing the fan back was tried, nothing is asked for when it is to be handed
    back again. -/
theorem perform_restored {fan : Fan} (hpending : fan.restorePending = false) {o : Operation}
    (ho : o.handsBack = true) : fan.perform o = pure (fan.restored, .ok ()) := by
  have hnot : ¬fan.restorePending = true := Bool.eq_false_iff.1 hpending
  have hrestore : fan.restore = pure () := by
    cases fan with
    | thinkpad fan => exact if_neg hnot
    | pwm fan => exact if_neg hnot
  have hrelease : fan.release = fan.restore.orLog Failure.message := by cases fan <;> rfl
  cases o with
  | restore =>
    rw [perform, hrestore]
    rfl
  | release =>
    rw [perform, hrelease, hrestore]
    rfl
  | _ => cases ho

end Fan

/-! ## From finding a fan to letting it go -/

/-- A fan, and the machine that it is part of. -/
structure Custody where
  fan : Fan
  machine : Machine

namespace Custody

/-- What can happen: an operation on the fan, or a change of the machine from outside. -/
inductive Event where
  | operation (o : Fan.Operation)
  | change (c : Change)

def Event.handsBack : Event → Bool
  | operation o => o.handsBack
  | change _ => false

/-- The event leaves the file at a path as it is, once the fan was handed back. -/
def Event.Spares (path : String) : Event → Prop
  | operation o => o.handsBack = true
  | change c => c.path? ≠ some path

/-- What is asked of the machine in an operation. -/
def trace (c : Custody) (o : Fan.Operation) : List Entry := (c.fan.perform o).trace c.machine

/-- How an operation ends. -/
def result (c : Custody) (o : Fan.Operation) : Except Failure Unit :=
  ((c.fan.perform o).value c.machine).2

def step (c : Custody) : Event → Custody
  | .operation o => ⟨((c.fan.perform o).value c.machine).1, (c.fan.perform o).after c.machine⟩
  | .change change => { c with machine := c.machine.change change }

/-- The fan and its machine after events. -/
def after (c : Custody) (events : List Event) : Custody := events.foldl step c

@[simp] theorem after_nil (c : Custody) : c.after [] = c := rfl

@[simp] theorem after_cons (c : Custody) (e : Event) (events : List Event) :
    c.after (e :: events) = (c.step e).after events := rfl

@[simp] theorem after_append (c : Custody) (events more : List Event) :
    c.after (events ++ more) = (c.after events).after more := List.foldl_append

/-- The operations among events, each with the fan and the machine as it finds them. -/
def performed (c : Custody) : List Event → List (Custody × Fan.Operation)
  | [] => []
  | .operation o :: events => (c, o) :: (c.step (.operation o)).performed events
  | .change change :: events => (c.step (.change change)).performed events

/-- What is written in operations of some sort. -/
def writesOf (c : Custody) (sort : Fan.Operation → Bool) (events : List Event) : List Write :=
  ((c.performed events).filter (sort ·.2)).flatMap fun p => writesIn (p.1.trace p.2)

/-- What is written to hand the fan back. -/
def handBackWrites (c : Custody) (events : List Event) : List Write :=
  c.writesOf Fan.Operation.handsBack events

variable {c : Custody}

theorem step_keeps (c : Custody) (e : Event) :
    c.fan.SameOrigin (c.step e).fan ∧
      (c.step e).fan.restorePending = (c.fan.restorePending && !e.handsBack) := by
  cases e with
  | operation o => exact c.fan.perform_keeps o c.machine
  | change change => exact ⟨.refl c.fan, (Bool.and_true _).symm⟩

theorem sameOrigin_after (c : Custody) (events : List Event) :
    c.fan.SameOrigin (c.after events).fan := by
  induction events generalizing c with
  | nil => exact .refl c.fan
  | cons e events ih => exact (c.step_keeps e).1.trans (ih _)

/-- The fan is still to be handed back as long as that was not tried. -/
theorem restorePending_after (c : Custody) (events : List Event) :
    (c.after events).fan.restorePending =
      (c.fan.restorePending && events.all (!·.handsBack)) := by
  induction events generalizing c with
  | nil => exact (Bool.and_true _).symm
  | cons e events ih => rw [after_cons, ih, (c.step_keeps e).2, List.all_cons, Bool.and_assoc]

theorem performed_append (c : Custody) (events more : List Event) :
    c.performed (events ++ more) = c.performed events ++ (c.after events).performed more := by
  induction events generalizing c with
  | nil => rfl
  | cons e events ih =>
    cases e with
    | operation o => exact congrArg ((c, o) :: ·) (ih _)
    | change change => exact ih _

theorem writesOf_append (c : Custody) (sort : Fan.Operation → Bool) (events more : List Event) :
    c.writesOf sort (events ++ more) =
      c.writesOf sort events ++ (c.after events).writesOf sort more := by
  simp only [writesOf, performed_append, List.filter_append, List.flatMap_append]

theorem writesOf_operation (c : Custody) (sort : Fan.Operation → Bool) (o : Fan.Operation)
    (events : List Event) :
    c.writesOf sort (.operation o :: events) =
      (if sort o then writesIn (c.trace o) else []) ++
        (c.step (.operation o)).writesOf sort events := by
  simp only [writesOf, performed, List.filter_cons]
  split <;> rfl

/-- A fan that was to be handed back already is left alone when it is to be handed back. -/
theorem step_restored (hpending : c.fan.restorePending = false) {o : Fan.Operation}
    (ho : o.handsBack = true) :
    c.trace o = [] ∧ c.result o = .ok () ∧ (c.step (.operation o)).machine = c.machine := by
  have hnothing := Fan.perform_restored hpending ho
  exact ⟨congrArg (fun x => x.trace c.machine) hnothing,
    congrArg (fun x => (x.value c.machine).2) hnothing,
    congrArg (fun x => x.after c.machine) hnothing⟩

/-- Nothing is written to hand a fan back before that is to be done, and nothing after it
    was tried. -/
theorem handBackWrites_eq_nil {events : List Event}
    (h : c.fan.restorePending = false ∨ ∀ e ∈ events, e.handsBack = false) :
    c.handBackWrites events = [] := by
  induction events generalizing c with
  | nil => rfl
  | cons e events ih =>
    have hrest : (c.step e).handBackWrites events = [] := by
      apply ih
      rcases h with hpending | hnone
      · exact .inl (by rw [(c.step_keeps e).2, hpending, Bool.false_and])
      · exact .inr fun e' he' => hnone e' (.tail e he')
    cases e with
    | change change => exact hrest
    | operation o =>
      rw [handBackWrites, writesOf_operation, ← handBackWrites, hrest, List.append_nil]
      split
      · rename_i ho
        rcases h with hpending | hnone
        · rw [(step_restored hpending ho).1]
          rfl
        · exact absurd ho (Bool.eq_false_iff.1 (hnone _ (.head _)))
      · rfl

/-- Handing a fan back again alters no file, nor does a change that is not about it. -/
theorem get?_after_restored {path : String} (hpending : c.fan.restorePending = false)
    {events : List Event} (h : ∀ e ∈ events, e.Spares path) :
    (c.after events).machine.files.get? path = c.machine.files.get? path := by
  induction events generalizing c with
  | nil => rfl
  | cons e events ih =>
    obtain ⟨he, hevents⟩ := List.forall_mem_cons.1 h
    have hlater : (c.step e).fan.restorePending = false := by
      rw [(c.step_keeps e).2, hpending, Bool.false_and]
    rw [after_cons, ih hlater hevents]
    cases e with
    | change change =>
      have hfiles : (c.step (.change change)).machine.files = change.onFiles c.machine.files :=
        c.machine.files_change change
      rw [hfiles, Change.get?_onFiles_of_ne he]
    | operation o => rw [(step_restored hpending he).2.2]

/-- The first of events that hand the fan back. -/
theorem exists_first_handsBack {events : List Event} (h : ∃ e ∈ events, e.handsBack = true) :
    ∃ front o back, events = front ++ .operation o :: back ∧ o.handsBack = true ∧
      ∀ e ∈ front, e.handsBack = false := by
  obtain ⟨e, he⟩ := Option.isSome_iff_exists.1 (List.find?_isSome.2 h)
  obtain ⟨hhands, front, back, hsplit, hfront⟩ := List.find?_eq_some_iff_append.1 he
  cases e with
  | change change => cases hhands
  | operation o =>
    refine ⟨front, o, back, hsplit, hhands, fun e he => ?_⟩
    have hnot := hfront e he
    rwa [Bool.not_eq_true'] at hnot

/-- What the first operation that hands the fan back does, and what the later ones do. -/
structure HandsBackAt (start : Custody) (front : List Event) (o : Fan.Operation)
    (back : List Event) (w : Write) : Prop where
  first : ∀ e ∈ front, e.handsBack = false
  handsBack : o.handsBack = true
  time : w.time = (start.after front).machine.clock
  /-- The operation makes the write, and no other. -/
  writes : writesIn ((start.after front).trace o) = [w]
  /-- If it succeeds, the file holds what was written, at once and for as long as nothing
      else is done to it. -/
  leaves : w.result = .ok () → ∀ quiet, quiet <+: back → (∀ e ∈ quiet, e.Spares w.path) →
    (start.after (front ++ .operation o :: quiet)).machine.files.get? w.path = some w.contents
  /-- To hand the fan back again is nothing. -/
  later : ∀ more o' rest, back = more ++ .operation o' :: rest → o'.handsBack = true →
    let c := start.after (front ++ .operation o :: more)
    c.trace o' = [] ∧ c.result o' = .ok () ∧ (c.step (.operation o')).machine = c.machine

theorem handsBackAt_of_ready (hready : c.fan.Ready) {front : List Event} {o : Fan.Operation}
    (hfirst : ∀ e ∈ front, e.handsBack = false) (ho : o.handsBack = true) (back : List Event) :
    ∃ time result, c.HandsBackAt front o back
        (.ofText time c.fan.restoreTarget c.fan.restoreText result) ∧
      c.handBackWrites (front ++ .operation o :: back) =
        [.ofText time c.fan.restoreTarget c.fan.restoreText result] := by
  have horigin := c.sameOrigin_after front
  have hheld : (c.after front).fan.Ready := by
    obtain ⟨hpath, hpending⟩ := Fan.ready_iff.1 hready
    refine Fan.ready_iff.2 ⟨horigin.restoreTarget ▸ hpath, ?_⟩
    rw [restorePending_after, hpending, Bool.true_and, List.all_eq_true]
    intro e he
    rw [hfirst e he]
    rfl
  have hrestored : ((c.after front).step (.operation o)).fan.restorePending = false := by
    rw [((c.after front).step_keeps _).2]
    exact (congrArg _ (congrArg Bool.not ho)).trans (Bool.and_false _)
  have honce := Fan.perform_once hheld ho (c.after front).machine
  rw [horigin.restoreTarget, horigin.restoreText] at honce
  obtain ⟨-, result, hwrites, -⟩ := id honce
  refine ⟨(c.after front).machine.clock, result, ⟨hfirst, ho, rfl, hwrites, ?_, ?_⟩, ?_⟩
  · rintro rfl quiet - hquiet
    rw [after_append, after_cons, get?_after_restored hrestored hquiet]
    exact honce.leaves hwrites
  · intro more o' rest hback ho'
    apply step_restored _ ho'
    rw [after_append, after_cons, restorePending_after, hrestored, Bool.false_and]
  · rw [handBackWrites, writesOf_append, ← handBackWrites, handBackWrites_eq_nil (.inr hfirst),
      List.nil_append, writesOf_operation, if_pos ho, ← handBackWrites,
      handBackWrites_eq_nil (.inl hrestored), List.append_nil]
    exact hwrites

/-- A fan that was found is handed back once until it is let go, whatever happens before,
    after or in between and whatever fails: what is written then is the level or mode that
    its file showed when it was found. The first operation that hands it back does so.
    Later ones ask nothing of the machine and change nothing on it, also when the first
    one failed. -/
theorem handed_back_once {kind : FanKind} {path : String} {m m₁ : Machine} {fan : Fan}
    (hfound : (Fan.find kind path).run.run m = (.ok fan, m₁)) (events : List Event) :
    (∃ bytes contents, m.files.get? fan.restoreTarget = some bytes ∧
      ControlFile.decode bytes = .ok contents ∧ fan = Fan.shown kind path contents) ∧
    let start : Custody := ⟨fan, m₁⟩
    let life := events ++ [.operation .release]
    ∃ time result,
      start.handBackWrites life = [.ofText time fan.restoreTarget fan.restoreText result] ∧
      ∃ front o back, life = front ++ .operation o :: back ∧
        start.HandsBackAt front o back
          (.ofText time fan.restoreTarget fan.restoreText result) := by
  obtain ⟨hready, hshown⟩ := Fan.find_shows kind path m fan (congrArg Prod.fst hfound)
  refine ⟨hshown, ?_⟩
  have hreleased : ∃ e ∈ events ++ [Event.operation .release], e.handsBack = true :=
    ⟨.operation .release, List.mem_append_right _ (.head _), rfl⟩
  obtain ⟨front, o, back, hsplit, ho, hfirst⟩ := exists_first_handsBack hreleased
  obtain ⟨time, result, hat, hwrites⟩ :=
    handsBackAt_of_ready (c := ⟨fan, m₁⟩) hready hfirst ho back
  exact ⟨time, result, hsplit ▸ hwrites, front, o, back, hsplit, hat⟩

/-- A fan that shows no level is handed back in automatic mode, here by restoring it after
    its first level. -/
theorem bare_handed_back_once :
    let m : Machine := { files := (∅ : Registry ByteArray).set "fan" ThinkpadStatus.bare.toUTF8 }
    ∃ fan m₁ time result, (Fan.find .thinkpad "fan").run.run m = (.ok fan, m₁) ∧
      handBackWrites ⟨fan, m₁⟩ ([.operation (.setSpeed (.numeric 3)), .operation .restore,
          .operation (.setSpeed (.numeric 5))] ++ [.operation .release]) =
        [.ofText time "fan" "level auto" result] := by
  intro m
  have hfile : m.files.get? "fan" = some ThinkpadStatus.bare.toUTF8 := by
    rw [Registry.get?_set, if_pos rfl]
  obtain ⟨found, hfind⟩ := ThinkpadFan.find_quiet (m := m) ⟨rfl, rfl, rfl⟩ (by decide) hfile
  have hfound : (Fan.find .thinkpad "fan").run.run m =
      (.ok (.thinkpad found), (Fan.find .thinkpad "fan").run.after m) := by
    refine Prod.ext ?_ rfl
    exact (wp_run_map (m := m) Fan.thinkpad (ThinkpadFan.find "fan")
      (Q := fun r _ _ => r = .ok (.thinkpad found))).2 (congrArg (Except.map Fan.thinkpad) hfind)
  obtain ⟨⟨bytes, contents, hbytes, hdecode, hshown⟩, time, result, hwrites, -⟩ :=
    handed_back_once hfound [.operation (.setSpeed (.numeric 3)), .operation .restore,
      .operation (.setSpeed (.numeric 5))]
  refine ⟨_, _, time, result, hfound, ?_⟩
  rw [hshown] at hbytes
  obtain rfl : ThinkpadStatus.bare.toUTF8 = bytes := Option.some.inj (hfile.symm.trans hbytes)
  rw [ControlFile.decode_toUTF8] at hdecode
  obtain rfl : ThinkpadStatus.bare = contents := Except.ok.inj hdecode
  have htext : (Fan.shown .thinkpad "fan" ThinkpadStatus.bare).restoreText = "level auto" := by
    decide
  rw [hwrites, hshown, htext]
  rfl

end Custody

end Cooling
