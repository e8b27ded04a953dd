-- SUMMARY: How the clock of a machine moves while a program runs, and what an interruptible sleep comes to.
import Mathlib.Algebra.GroupWithZero.Nat
import Cooling.Proofs.Trace
import Cooling.Session.Sleep

/-!
# The clock

The clock moves when a program sleeps, and when a change from outside moves it
on. The moves that are still to come from outside are the drift of a machine:
the clock and the drift together grow by what the program sleeps and by nothing
else. On a machine without drift the clock moves by the sleeps alone.

An interruptible sleep never sleeps longer than it was asked to. It ends when
the clock has reached its deadline, or when the signal to stop has come. It goes
in rounds of two questions and a slice, and what it does is proved round by round.
If the clock cannot show its deadline, there is no sleep: the program breaks down.
-/

namespace Cooling

/-! ## Instants that the clock can show -/

/-- The clock can show the instant. -/
def Instant.Showable (t : Instant) : Prop := t.nanos / 1000000000 < secondsEnd

theorem Instant.Showable.of_le {t u : Instant} (h : u.Showable) (hle : t.nanos ≤ u.nanos) :
    t.Showable :=
  Nat.lt_of_le_of_lt (Nat.div_le_div_right hle) h

theorem Instant.after?_isSome_iff_showable {t : Instant} {d : Duration} :
    (t.after? d).isSome ↔ (t.after d).Showable := by
  rw [after?, Option.isSome_ite]
  rfl

theorem Instant.after?_isSome_iff {t : Instant} {d : Duration} :
    (t.after? d).isSome ↔ t.nanos + d.nanos < secondsEnd * 1000000000 := by
  rw [after?_isSome_iff_showable]
  exact Nat.div_lt_iff_lt_mul (by decide)

theorem Instant.after?_eq_none_iff {t : Instant} {d : Duration} :
    t.after? d = none ↔ ¬ (t.after d).Showable := by
  rw [← Option.not_isSome_iff_eq_none, after?_isSome_iff_showable]

theorem Instant.after?_eq_some_iff {t u : Instant} {d : Duration} :
    t.after? d = some u ↔ (t.after? d).isSome ∧ u = t.after d := by
  unfold after?
  split <;> simp [eq_comm]

/-! ## Requests that take no time -/

/-- The clock, the changes to come and the signal to stop are as they were. -/
structure Machine.SameTiming (m m' : Machine) : Prop where
  clock : m'.clock = m.clock
  pending : m'.pending = m.pending
  running : m'.running = m.running

namespace Machine

theorem SameTiming.refl (m : Machine) : SameTiming m m := ⟨rfl, rfl, rfl⟩

theorem SameTiming.trans {m₁ m₂ m₃ : Machine} (h : SameTiming m₁ m₂) (h' : SameTiming m₂ m₃) :
    SameTiming m₁ m₃ :=
  ⟨h'.clock.trans h.clock, h'.pending.trans h.pending, h'.running.trans h.running⟩

theorem sameTiming_tries (m : Machine) (path : String) (step : FileStep) :
    SameTiming m (m.tries path step).2 := ⟨rfl, rfl, rfl⟩

theorem sameTiming_triesOnce (m : Machine) (path : String) (step : FileStep) :
    SameTiming m (m.triesOnce path step).2 := ⟨rfl, rfl, rfl⟩

theorem sameTiming_files (m : Machine) (files : Registry ByteArray) :
    SameTiming m { m with files } := ⟨rfl, rfl, rfl⟩

theorem sameTiming_openFile (m : Machine) (path : String) : SameTiming m (m.openFile path).2 := by
  have h := m.sameTiming_tries path .openRead
  unfold openFile
  split
  · rename_i h'; rw [h'] at h; exact h
  · rename_i h'
    rw [h'] at h
    split <;> exact h

theorem sameTiming_readFile (m : Machine) (path : String) : SameTiming m (m.readFile path).2 := by
  have h := m.sameTiming_openFile path
  unfold readFile
  split
  · rename_i h'; rw [h'] at h; exact h
  · rename_i contents m' h'
    rw [h'] at h
    have hr := m'.sameTiming_triesOnce path .read
    split
    · rename_i h''; rw [h''] at hr; exact h.trans hr
    · rename_i h''; rw [h''] at hr; exact h.trans hr

theorem sameTiming_writeFile (m : Machine) (path : String) (contents : ByteArray) :
    SameTiming m (m.writeFile path contents).2 := by
  have h := m.sameTiming_tries path .openWrite
  unfold writeFile
  split
  · rename_i h'; rw [h'] at h; exact h
  · rename_i m' h'
    rw [h'] at h
    split
    · exact h
    · have he := h.trans (m'.sameTiming_files (m'.files.set path ByteArray.empty))
      dsimp only
      split
      · exact he
      · have hw := he.trans (sameTiming_tries _ path .write)
        split
        · rename_i h''; rw [h''] at hw; exact hw
        · rename_i h''; rw [h''] at hw; exact hw.trans (sameTiming_files _ _)

/-- Only a sleep takes time. -/
theorem sameTiming_serve (m : Machine) {r : Request} (hr : r.kind ≠ .sleep) :
    SameTiming m (m.serve r).2 := by
  suffices h : SameTiming m (m.answer r).2 from ⟨h.clock, h.pending, h.running⟩
  cases r with
  | openFile path =>
    have h := m.sameTiming_openFile path
    simp only [answer]
    split
    · rename_i h'; rw [h'] at h; exact h
    · rename_i h'; rw [h'] at h; exact h
  | readFile path => exact m.sameTiming_readFile path
  | writeFile path contents => exact m.sameTiming_writeFile path contents
  | sleep d => exact absurd rfl hr
  | _ => exact SameTiming.refl m

theorem sameTiming_now (m : Machine) : SameTiming m (m.serve .now).2 :=
  m.sameTiming_serve (r := .now) nofun

theorem sameTiming_log (m : Machine) (severity : Severity) (message : String) :
    SameTiming m (m.serve (.log severity message)).2 :=
  m.sameTiming_serve (r := .log severity message) nofun

theorem sameTiming_print (m : Machine) (line : String) :
    SameTiming m (m.serve (.print line)).2 :=
  m.sameTiming_serve (r := .print line) nofun

end Machine

/-- A program that never sleeps takes no time. -/
theorem Program.Asks.sameTiming {x : Program α} {kinds : List Request.Kind} (hx : x.Asks kinds)
    (hs : .sleep ∉ kinds) (m : Machine) : m.SameTiming (x.after m) :=
  hx.after_rel Machine.SameTiming.refl (fun _ _ _ h h' => h.trans h')
    (fun m _ hr => m.sameTiming_serve fun h => hs (h ▸ hr)) m

/-! ## Drift -/

/-- How far a change moves the clock. -/
def Change.leap : Change → Nat
  | .advance d => d.nanos
  | _ => 0

/-- How far changes move the clock together. -/
def leaps (cs : List (Instant × Change)) : Nat := (cs.map (fun c => c.2.leap)).sum

/-- How far the changes to come will move the clock. -/
def Machine.drift (m : Machine) : Nat := leaps m.pending

/-- How long a request sleeps. -/
def Entry.slept (e : Entry) : Nat :=
  match e.request with
  | .sleep d => d.nanos
  | _ => 0

/-- How long requests sleep together. -/
def sleptIn (es : List Entry) : Nat := (es.map Entry.slept).sum

@[simp] theorem leaps_nil : leaps [] = 0 := rfl
@[simp] theorem leaps_cons (c : Instant × Change) (cs : List (Instant × Change)) :
    leaps (c :: cs) = c.2.leap + leaps cs := by
  simp [leaps]

@[simp] theorem sleptIn_nil : sleptIn [] = 0 := rfl
@[simp] theorem sleptIn_cons (e : Entry) (es : List Entry) :
    sleptIn (e :: es) = e.slept + sleptIn es := by
  simp [sleptIn]
@[simp] theorem sleptIn_append (es fs : List Entry) :
    sleptIn (es ++ fs) = sleptIn es + sleptIn fs := by
  simp [sleptIn]

theorem Entry.slept_of_ne {e : Entry} (h : e.request.kind ≠ .sleep) : e.slept = 0 := by
  unfold Entry.slept
  split
  · rename_i hr; exact absurd (congrArg Request.kind hr) h
  · rfl

namespace Machine

theorem change_clock (m : Machine) (c : Change) :
    (m.change c).clock.nanos = m.clock.nanos + c.leap := by
  cases c <;> rfl

/-- Changes that are made move from the drift to the clock. -/
theorem settle_clock (m : Machine) (cs : List (Instant × Change)) :
    (m.settle cs).clock.nanos + (m.settle cs).drift = m.clock.nanos + leaps cs := by
  induction cs generalizing m with
  | nil => rfl
  | cons c cs ih =>
    unfold settle
    split
    · rw [ih, change_clock, leaps_cons]; omega
    · rfl

theorem le_settle_clock (m : Machine) (cs : List (Instant × Change)) :
    m.clock.nanos ≤ (m.settle cs).clock.nanos := by
  induction cs generalizing m with
  | nil => exact Nat.le_refl _
  | cons c cs ih =>
    unfold settle
    split
    · have h := ih (m.change c.2)
      rw [change_clock] at h
      omega
    · exact Nat.le_refl _

/-- What a request does to the time: the clock and the drift together grow by its sleep. -/
structure Elapses (m m' : Machine) (slept : Nat) : Prop where
  total : m'.clock.nanos + m'.drift = m.clock.nanos + m.drift + slept
  forward : m.clock.nanos + slept ≤ m'.clock.nanos

theorem Elapses.drift_le {m m' : Machine} {s : Nat} (h : Elapses m m' s) : m'.drift ≤ m.drift := by
  have := h.total
  have := h.forward
  omega

theorem Elapses.trans {m₁ m₂ m₃ : Machine} {s t : Nat} (h : Elapses m₁ m₂ s)
    (h' : Elapses m₂ m₃ t) : Elapses m₁ m₃ (s + t) := by
  constructor
  · rw [h'.total, h.total, Nat.add_assoc]
  · have := h.forward
    have := h'.forward
    omega

theorem SameTiming.elapses {m m' : Machine} (h : SameTiming m m') : Elapses m m' 0 := by
  constructor
  · simp only [drift, h.clock, h.pending, Nat.add_zero]
  · rw [h.clock]; exact Nat.le_refl _

theorem Elapses.trans_sameTiming {m₁ m₂ m₃ : Machine} {s : Nat} (h : Elapses m₁ m₂ s)
    (h' : SameTiming m₂ m₃) : Elapses m₁ m₃ s :=
  h.trans h'.elapses

/-- A clock that only sleeps move shows just what was slept. -/
theorem Elapses.precise {m m' : Machine} {s : Nat} (h : Elapses m m' s) (hm : m.drift = 0) :
    m'.clock.nanos = m.clock.nanos + s ∧ m'.drift = 0 := by
  have := h.total
  have := h.forward
  omega

theorem elapses_serve (m : Machine) (r : Request) :
    Elapses m (m.serve r).2 (m.entry r).slept := by
  by_cases hr : r.kind = .sleep
  · cases r with
    | sleep d =>
      have ht := settle_clock { m with clock := m.clock.after d } m.pending
      have hf := le_settle_clock { m with clock := m.clock.after d } m.pending
      exact ⟨ht.trans (Nat.add_right_comm ..), hf⟩
    | _ => cases hr
  · rw [Entry.slept_of_ne hr]
    exact (m.sameTiming_serve hr).elapses

/-- A sleep right after what takes no time. -/
theorem SameTiming.elapses_sleep {m m' : Machine} (h : SameTiming m m') (d : Duration) :
    Elapses m (m'.serve (.sleep d)).2 d.nanos :=
  Nat.zero_add d.nanos ▸ h.elapses.trans (m'.elapses_serve (.sleep d))

end Machine

/-- Over a run the clock and the drift together grow by what the program sleeps. -/
theorem Program.elapses (x : Program α) (m : Machine) :
    m.Elapses (x.after m) (sleptIn (x.trace m)) := by
  induction x generalizing m with
  | done a => exact ⟨rfl, Nat.le_refl _⟩
  | ask r next ih =>
    rw [trace, sleptIn_cons]
    exact (m.elapses_serve r).trans (ih _ _)

/-! ## The signal to stop -/

namespace Machine

/-- The program runs, and no signal to stop will come. -/
structure Unstopped (m : Machine) : Prop where
  running : m.running = true
  pending : ∀ c ∈ m.pending, c.2 ≠ .stop

theorem change_running {m : Machine} {c : Change} (hc : c ≠ .stop) :
    (m.change c).running = m.running := by
  cases c with
  | stop => exact absurd rfl hc
  | _ => rfl

theorem unstopped_settle {m : Machine} {cs : List (Instant × Change)} (hm : m.running = true)
    (hcs : ∀ c ∈ cs, c.2 ≠ .stop) : (m.settle cs).Unstopped := by
  induction cs generalizing m with
  | nil => exact ⟨hm, fun c hc => nomatch hc⟩
  | cons c cs ih =>
    obtain ⟨hc, hcs⟩ := List.forall_mem_cons.1 hcs
    unfold settle
    split
    · exact ih ((change_running hc).trans hm) hcs
    · exact ⟨hm, List.forall_mem_cons.2 ⟨hc, hcs⟩⟩

theorem SameTiming.unstopped {m m' : Machine} (h : SameTiming m m') (hm : m.Unstopped) :
    m'.Unstopped :=
  ⟨h.running.trans hm.running, h.pending ▸ hm.pending⟩

theorem Unstopped.serve {m : Machine} (hm : m.Unstopped) (r : Request) :
    (m.serve r).2.Unstopped := by
  by_cases hr : r.kind = .sleep
  · cases r with
    | sleep d =>
      have h : ({ m with clock := m.clock.after d }.settle m.pending).Unstopped :=
        unstopped_settle hm.running hm.pending
      exact ⟨h.running, h.pending⟩
    | _ => cases hr
  · exact (m.sameTiming_serve hr).unstopped hm

/-- A signal to stop has come, or comes no later than the instant. -/
structure StopsBy (m : Machine) (t : Instant) : Prop where
  due : t.nanos ≤ m.clock.nanos → m.running = false
  coming : m.running = false ∨ ∃ front s back, m.pending = front ++ (s, .stop) :: back ∧
    s.nanos ≤ t.nanos ∧ ∀ c ∈ front, c.1.nanos ≤ t.nanos

theorem change_stopped {m : Machine} (hm : m.running = false) (c : Change) :
    (m.change c).running = false := by
  cases c <;> first | exact hm | rfl

theorem settle_stopped {m : Machine} (hm : m.running = false) (cs : List (Instant × Change)) :
    (m.settle cs).running = false := by
  induction cs generalizing m with
  | nil => exact hm
  | cons c cs ih =>
    unfold settle
    split
    · exact ih (change_stopped hm c.2)
    · exact hm

theorem settle_stopsBy {m : Machine} {t s : Instant} {front back : List (Instant × Change)}
    (hs : s.nanos ≤ t.nanos) (hfront : ∀ c ∈ front, c.1.nanos ≤ t.nanos) :
    (m.settle (front ++ (s, .stop) :: back)).StopsBy t := by
  induction front generalizing m with
  | nil =>
    simp only [List.nil_append, settle]
    split
    · have hstop := settle_stopped (m := m.change .stop) rfl back
      exact ⟨fun _ => hstop, .inl hstop⟩
    · refine ⟨fun hdue => ?_, .inr ⟨[], s, back, rfl, hs, fun c hc => nomatch hc⟩⟩
      simp only at hdue
      omega
  | cons c front ih =>
    obtain ⟨hc, hrest⟩ := List.forall_mem_cons.1 hfront
    simp only [List.cons_append, settle]
    split
    · exact ih hrest
    · refine ⟨fun hdue => ?_, .inr ⟨c :: front, s, back, rfl, hs, hfront⟩⟩
      simp only at hdue
      omega

theorem StopsBy.serve {m : Machine} {t : Instant} (hm : m.StopsBy t) (r : Request) :
    (m.serve r).2.StopsBy t := by
  by_cases hr : r.kind = .sleep
  · cases r with
    | sleep d =>
      have h : ({ m with clock := m.clock.after d }.settle m.pending).StopsBy t := by
        rcases hm.coming with hstop | ⟨front, s, back, hpending, hs, hfront⟩
        · have hstop := settle_stopped (m := { m with clock := m.clock.after d }) hstop m.pending
          exact ⟨fun _ => hstop, .inl hstop⟩
        · rw [hpending]
          exact settle_stopsBy hs hfront
      exact ⟨h.due, h.coming⟩
    | _ => cases hr
  · have h := m.sameTiming_serve hr
    constructor
    · rw [h.clock, h.running]; exact hm.due
    · rw [h.pending, h.running]; exact hm.coming

end Machine

theorem Program.after_unstopped (x : Program α) {m : Machine} (hm : m.Unstopped) :
    (x.after m).Unstopped := by
  induction x generalizing m with
  | done a => exact hm
  | ask r next ih => exact ih _ (hm.serve r)

theorem Program.after_stopsBy (x : Program α) {m : Machine} {t : Instant} (hm : m.StopsBy t) :
    (x.after m).StopsBy t := by
  induction x generalizing m with
  | done a => exact hm
  | ask r next ih => exact ih _ (hm.serve r)

/-! ## Interruptible sleeps -/

namespace Session

open Program

theorem asks_sleepUntil (deadline : Instant) (n : Nat) :
    (sleepUntil deadline n).Asks [.clock, .sleep, .running] := by
  induction n with
  | zero => exact every_request (by decide)
  | succ n ih =>
    refine (every_request (by decide)).bind fun running => ?_
    cases running with
    | false => exact every_pure _
    | true =>
      refine (every_request (by decide)).bind fun now => ?_
      split
      · exact every_pure _
      · have hsleep : Request.Kind.sleep ∈ [Request.Kind.clock, .sleep, .running] := by decide
        exact (every_request hsleep).bind fun _ => ih

theorem asks_sleepWhileRunning (d : Duration) :
    (sleepWhileRunning d).run.Asks [.clock, .sleep, .running] := by
  refine (Every.run_lift (every_request (by decide))).run_bind fun now => ?_
  split
  · exact Every.run_lift (asks_sleepUntil _ _)
  · exact every_run_throw _

/-! ### Rounds -/

theorem slice_pos : 0 < slice.nanos := by decide

/-- The next slice of a sleep: a whole one, or all that is left until the deadline. -/
def nextSlice (deadline now : Instant) : Duration := slice.min (now.timeTo deadline)

theorem nanos_nextSlice (deadline now : Instant) :
    (nextSlice deadline now).nanos = min slice.nanos (deadline.nanos - now.nanos) :=
  Duration.nanos_min _ _

/-- The machine when a round of a sleep has asked its questions. -/
def asked (m : Machine) : Machine := ((m.serve .running).2.serve .now).2

/-- The machine after a round of a sleep. -/
def afterRound (deadline : Instant) (m : Machine) : Machine :=
  ((asked m).serve (.sleep (nextSlice deadline m.clock))).2

/-- What a round of a sleep adds to the journal. -/
def roundTrace (deadline : Instant) (m : Machine) : List Entry :=
  [m.entry .running, (m.serve .running).2.entry .now,
    (asked m).entry (.sleep (nextSlice deadline m.clock))]

theorem sameTiming_asked (m : Machine) : m.SameTiming (asked m) :=
  (m.sameTiming_serve (r := .running) nofun).trans (Machine.sameTiming_now _)

theorem elapses_afterRound (deadline : Instant) (m : Machine) :
    m.Elapses (afterRound deadline m) (nextSlice deadline m.clock).nanos :=
  (sameTiming_asked m).elapses_sleep _

theorem sleptIn_roundTrace (deadline : Instant) (m : Machine) :
    sleptIn (roundTrace deadline m) = (nextSlice deadline m.clock).nanos :=
  (Nat.zero_add _).trans (Nat.zero_add _)

/-- A sleep goes on for a round as long as the program runs and the deadline has not come. -/
theorem wp_sleepUntil_succ {deadline : Instant} {n : Nat} {m : Machine}
    {Q : Bool → Machine → List Entry → Prop} :
    (sleepUntil deadline (n + 1)).wp Q m ↔
      if m.running then
        if deadline.nanos ≤ m.clock.nanos then
          Q true (asked m) [m.entry .running, (m.serve .running).2.entry .now]
        else (sleepUntil deadline n).wp
          (fun awake m' es => Q awake m' (roundTrace deadline m ++ es)) (afterRound deadline m)
      else Q false (m.serve .running).2 [m.entry .running] := by
  have hrunning : (m.serve .running).1 = m.running := rfl
  have hnow : ((m.serve .running).2.serve .now).1 = m.clock := rfl
  rw [sleepUntil, wp_bind, running, wp_request, hrunning]
  split
  · rw [wp_bind, now, wp_request, hnow]
    split
    · rfl
    · rw [wp_bind, sleep, wp_request]
      rfl
  · rfl

/-- An interruptible sleep looks at the clock, and then sleeps until its deadline, if the clock
    can show that. -/
theorem wp_sleepWhileRunning {d : Duration} {m : Machine}
    {Q : Except Breakdown Bool → Machine → List Entry → Prop} :
    (sleepWhileRunning d).run.wp Q m ↔
      match m.clock.after? d with
      | some deadline => (sleepUntil deadline (slices d)).wp
          (fun awake m' es => Q (.ok awake) m' (m.entry .now :: es)) (m.serve .now).2
      | none => Q (.error .overflow) (m.serve .now).2 [m.entry .now] := by
  have hnow : (m.serve .now).1 = m.clock := rfl
  rw [sleepWhileRunning, wp_run_bind, wp_run_lift, now, wp_request, hnow]
  dsimp only
  cases m.clock.after? d with
  | some deadline => exact wp_run_lift _
  | none => rfl

/-- What a sleep until a deadline comes to. -/
structure Rested (deadline : Instant) (m : Machine) (awake : Bool) (m' : Machine)
    (es : List Entry) : Prop where
  running : awake = m'.running
  /-- It never sleeps beyond the deadline. -/
  slept : sleptIn es ≤ deadline.nanos - m.clock.nanos
  /-- Only the signal to stop ends it early. -/
  reached : awake = true → deadline.nanos ≤ m'.clock.nanos

/-- With enough slices to reach its deadline, a sleep lasts until then. -/
theorem sleepUntil_rested (deadline : Instant) (n : Nat) (m : Machine)
    (hn : deadline.nanos ≤ m.clock.nanos + n * slice.nanos) :
    (sleepUntil deadline n).wp (Rested deadline m) m := by
  induction n generalizing m with
  | zero =>
    refine ⟨rfl, Nat.zero_le _, fun _ => ?_⟩
    rw [Nat.zero_mul, Nat.add_zero] at hn
    exact hn
  | succ n ih =>
    rw [wp_sleepUntil_succ]
    split
    · rename_i hrunning
      split
      · rename_i hdue
        exact ⟨hrunning.symm, Nat.zero_le _, fun _ => hdue⟩
      · rename_i hearly
        -- A round takes off a slice, or all that is left until the deadline.
        have hforward := (elapses_afterRound deadline m).forward
        rw [nanos_nextSlice] at hforward
        refine wp_mono (ih _ ?_) fun awake m' es h => ⟨h.running, ?_, h.reached⟩
        · rw [Nat.add_mul, Nat.one_mul] at hn
          omega
        · have hrest := h.slept
          rw [sleptIn_append, sleptIn_roundTrace, nanos_nextSlice]
          omega
    · rename_i hstopped
      refine ⟨?_, Nat.zero_le _, fun h => nomatch h⟩
      exact (Bool.eq_false_iff.2 hstopped).symm

theorem le_slices (d : Duration) : d.nanos ≤ slices d * slice.nanos := by
  have h := Nat.div_add_mod (d.nanos + slice.nanos - 1) slice.nanos
  have hlt := Nat.mod_lt (d.nanos + slice.nanos - 1) slice_pos
  unfold slices
  rw [Nat.mul_comm]
  omega

/-- What an interruptible sleep for a duration comes to. -/
structure Paused (d : Duration) (m : Machine) (awake : Bool) (m' : Machine) (es : List Entry) :
    Prop where
  running : awake = m'.running
  slept : sleptIn es ≤ d.nanos
  reached : awake = true → m.clock.nanos + d.nanos ≤ m'.clock.nanos
  elapses : m.Elapses m' (sleptIn es)

/-- How an interruptible sleep ends. It takes no time if the clock cannot show its end. -/
inductive Slept (d : Duration) (m : Machine) :
    Except Breakdown Bool → Machine → List Entry → Prop where
  | paused {awake : Bool} {m' : Machine} {es : List Entry} (hend : (m.clock.after? d).isSome)
      (h : Paused d m awake m' es) : Slept d m (.ok awake) m' es
  | overflow (hend : m.clock.after? d = none) :
      Slept d m (.error .overflow) (m.serve .now).2 [m.entry .now]

theorem Slept.paused_of_ok {d : Duration} {m m' : Machine} {awake : Bool} {es : List Entry}
    (h : Slept d m (.ok awake) m' es) : Paused d m awake m' es := by
  cases h with
  | paused hend h => exact h

theorem Slept.overflow_of_error {d : Duration} {m m' : Machine} {b : Breakdown} {es : List Entry}
    (h : Slept d m (.error b) m' es) : b = .overflow ∧ m.clock.after? d = none := by
  cases h with
  | overflow hend => exact ⟨rfl, hend⟩

theorem sleepWhileRunning_slept (d : Duration) (m : Machine) :
    (sleepWhileRunning d).run.wp (Slept d m) m := by
  rw [wp_sleepWhileRunning]
  split
  · rename_i deadline hdeadline
    obtain ⟨-, rfl⟩ := Instant.after?_eq_some_iff.1 hdeadline
    have henough : (m.clock.after d).nanos ≤
        (m.serve .now).2.clock.nanos + slices d * slice.nanos :=
      Nat.add_le_add_left (le_slices d) m.clock.nanos
    refine wp_mono (wp_and (sleepUntil_rested _ _ _ henough)
      (R := fun _ m' es => (m.serve .now).2.Elapses m' (sleptIn es)) (Program.elapses _ _)) ?_
    rintro awake m' es ⟨h, helapses⟩
    have hquiet : sleptIn (m.entry .now :: es) = sleptIn es := Nat.zero_add _
    have hleft : (m.clock.after d).nanos - m.clock.nanos = d.nanos := Nat.add_sub_cancel_left ..
    refine .paused (hdeadline ▸ rfl) ⟨h.running, ?_, h.reached, ?_⟩
    · rw [hquiet, ← hleft]
      exact h.slept
    · have htotal := m.sameTiming_now.elapses.trans helapses
      rwa [hquiet, ← Nat.zero_add (sleptIn es)]
  · rename_i hnone
    exact .overflow hnone

/-- A sleep whose end the clock can show is one. -/
theorem Slept.paused_of_isSome {d : Duration} {m m' : Machine} {r : Except Breakdown Bool}
    {es : List Entry} (h : Slept d m r m' es) (hend : (m.clock.after? d).isSome) :
    ∃ awake, r = .ok awake ∧ Paused d m awake m' es := by
  cases h with
  | paused _ h => exact ⟨_, rfl, h⟩
  | overflow hnone =>
    rw [hnone] at hend
    cases hend

namespace Paused

variable {d : Duration} {m m' : Machine} {awake : Bool} {es : List Entry}

/-- A sleep falls short of its duration only by what changes moved the clock meanwhile. -/
theorem le_slept (h : Paused d m awake m' es) (ha : awake = true) :
    d.nanos + m'.drift ≤ sleptIn es + m.drift := by
  have hreached := h.reached ha
  have htotal := h.elapses.total
  omega

/-- A sleep moves the clock past its end only by what changes move it. -/
theorem clock_le (h : Paused d m awake m' es) :
    m'.clock.nanos + m'.drift ≤ m.clock.nanos + d.nanos + m.drift := by
  have hslept := h.slept
  have htotal := h.elapses.total
  omega

/-- A sleep on a clock that only sleeps move takes exactly its duration. -/
theorem slept_eq (h : Paused d m awake m' es) (ha : awake = true) (hm : m.drift = 0) :
    sleptIn es = d.nanos := by
  have hslept := h.slept
  have hle := h.le_slept ha
  omega

end Paused

theorem Slept.clock_le {d : Duration} {m m' : Machine} {r : Except Breakdown Bool}
    {es : List Entry} (h : Slept d m r m' es) :
    m'.clock.nanos + m'.drift ≤ m.clock.nanos + d.nanos + m.drift := by
  cases h with
  | paused _ h => exact h.clock_le
  | overflow hnone => exact Nat.add_le_add_right (Nat.le_add_right ..) _

end Session

end Cooling
