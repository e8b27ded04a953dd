-- SUMMARY: The slices of an interruptible sleep: that it ends, how long each slice is, and at which end of a slice the signal to stop cuts it short.
import Mathlib.Algebra.Order.Floor.Div
import Cooling.Proofs.Clock

/-!
# Slices

An interruptible sleep goes in rounds. Each asks whether the program still runs, then for
the time, and then sleeps a slice, which is short only if the deadline comes before its end.
`SleepsUntil` is that loop as it stands, with no bound on its rounds: it ends, since every
round takes time off what is left until the deadline, and it ends in one way only.

If nothing but the sleeps moves the clock, then it is known beforehand where slices end. The
loop stops at the first of these times at which the signal to stop has come. It reaches the
deadline just if the signal comes later than that.
-/

namespace Cooling

/-! ## The time of the signal to stop -/

/-- When changes stop the program, if they do. A change waits for those before it. -/
def signal? : List (Instant × Change) → Option Instant
  | [] => none
  | (t, .stop) :: _ => some t
  | (t, _) :: cs => (signal? cs).map fun u => ⟨max t.nanos u.nanos⟩

theorem signal?_cons_of_ne {c : Instant × Change} (hc : c.2 ≠ .stop)
    (cs : List (Instant × Change)) :
    signal? (c :: cs) = (signal? cs).map fun u => ⟨max c.1.nanos u.nanos⟩ := by
  obtain ⟨t, c⟩ := c
  cases c with
  | stop => exact absurd rfl hc
  | _ => rfl

theorem le_of_mem_signal? {c : Instant × Change} {cs : List (Instant × Change)} {t : Instant}
    (ht : t ∈ signal? (c :: cs)) : c.1.nanos ≤ t.nanos := by
  by_cases hc : c.2 = .stop
  · obtain ⟨s, c⟩ := c
    cases hc
    cases ht
    exact Nat.le_refl _
  · rw [signal?_cons_of_ne hc] at ht
    obtain ⟨u, -, rfl⟩ := Option.mem_map.1 ht
    exact Nat.le_max_left _ _

namespace Machine

/-- The program is told to stop at a time, or never. The signal had come by that time, or it
    is still to come. -/
inductive StopsAt (m : Machine) : Option Instant → Prop where
  | came {t : Instant} : m.running = false → t.nanos ≤ m.clock.nanos → StopsAt m (some t)
  | coming {stop? : Option Instant} : m.running = true → signal? m.pending = stop? →
      (∀ t ∈ stop?, m.clock.nanos < t.nanos) → StopsAt m stop?

namespace StopsAt

variable {m m' : Machine} {stop? : Option Instant}

/-- The program runs until its time comes. -/
theorem running_iff (h : m.StopsAt stop?) :
    m.running = true ↔ ∀ t ∈ stop?, m.clock.nanos < t.nanos := by
  cases h with
  | came hstopped ht =>
    refine iff_of_false (Bool.eq_false_iff.1 hstopped) fun hlater => ?_
    exact Nat.not_lt_of_le ht (hlater _ rfl)
  | coming hrunning _ hlater => exact iff_of_true hrunning hlater

theorem sameTiming (h : m.StopsAt stop?) (hm : m.SameTiming m') : m'.StopsAt stop? := by
  cases h with
  | came hstopped ht => exact .came (hm.running.trans hstopped) (hm.clock ▸ ht)
  | coming hrunning hsignal hlater =>
    exact .coming (hm.running.trans hrunning) (hm.pending ▸ hsignal) (hm.clock ▸ hlater)

/-- A time that is over does not put the signal off. -/
theorem max_over (h : m.StopsAt stop?) {s : Instant} (hs : s.nanos ≤ m.clock.nanos) :
    m.StopsAt (stop?.map fun u => ⟨max s.nanos u.nanos⟩) := by
  cases h with
  | came hstopped ht => exact .came hstopped (Nat.max_le.2 ⟨hs, ht⟩)
  | coming hrunning hsignal hlater =>
    cases stop? with
    | none => exact .coming hrunning hsignal hlater
    | some t =>
      have ht := hlater t rfl
      rw [Option.map_some, Nat.max_eq_right (Nat.le_of_lt (Nat.lt_of_le_of_lt hs ht))]
      exact .coming hrunning hsignal hlater

end StopsAt

/-- Changes that do not move the clock stop the program at the time of their signal. -/
theorem settle_stopsAt {m : Machine} {cs : List (Instant × Change)} (hleaps : leaps cs = 0)
    (hrunning : m.running = true) : (m.settle cs).StopsAt (signal? cs) := by
  induction cs generalizing m with
  | nil => exact .coming hrunning rfl nofun
  | cons c cs ih =>
    obtain ⟨hleap, hleaps⟩ := Nat.add_eq_zero_iff.1 ((leaps_cons c cs).symm.trans hleaps)
    unfold settle
    split
    · rename_i hdue
      have hforward := le_settle_clock (m.change c.2) cs
      rw [change_clock, hleap, Nat.add_zero] at hforward
      by_cases hc : c.2 = .stop
      · obtain ⟨t, c⟩ := c
        cases hc
        exact .came (settle_stopped rfl cs) (Nat.le_trans hdue hforward)
      · rw [signal?_cons_of_ne hc]
        exact (ih hleaps ((change_running hc).trans hrunning)).max_over (Nat.le_trans hdue hforward)
    · rename_i hearly
      refine .coming hrunning rfl fun t ht => ?_
      exact Nat.lt_of_lt_of_le (Nat.lt_of_not_le hearly) (le_of_mem_signal? ht)

/-- With a clock that only sleeps move, a sleep leaves the time of the signal as it is. -/
theorem StopsAt.sleep {m : Machine} {stop? : Option Instant} (h : m.StopsAt stop?)
    (hdrift : m.drift = 0) (d : Duration) : (m.serve (.sleep d)).2.StopsAt stop? := by
  have hserve : SameTiming ({ m with clock := m.clock.after d }.settle m.pending)
    (m.serve (.sleep d)).2 := ⟨rfl, rfl, rfl⟩
  refine sameTiming ?_ hserve
  cases h with
  | came hstopped ht =>
    have hforward := le_settle_clock { m with clock := m.clock.after d } m.pending
    have hlater : m.clock.nanos ≤ (m.clock.after d).nanos := Nat.le_add_right _ _
    refine .came ?_ (Nat.le_trans ht (Nat.le_trans hlater hforward))
    exact settle_stopped (m := { m with clock := m.clock.after d }) hstopped m.pending
  | coming hrunning hsignal _ => exact hsignal ▸ settle_stopsAt hdrift hrunning

end Machine

/-! ## The loop -/

/-- The sleep that a request asks for. -/
def Entry.sleep? (e : Entry) : Option Duration :=
  match e.request with
  | .sleep d => some d
  | _ => none

/-- The sleeps that requests ask for, in order. -/
def sleepsIn (es : List Entry) : List Duration := es.filterMap Entry.sleep?

namespace Session

open Program

/-- How a sleep until a deadline goes: the slices that are slept, in order, whether the program
    still runs then, and the machine after the last slice. -/
inductive SleepsUntil (deadline : Instant) :
    Machine → List Duration → Bool → Machine → Prop where
  | stopped {m : Machine} : m.running = false → SleepsUntil deadline m [] false m
  | due {m : Machine} : m.running = true → deadline.nanos ≤ m.clock.nanos →
      SleepsUntil deadline m [] true m
  | slept {m last : Machine} {slept : List Duration} {awake : Bool} :
      m.running = true → m.clock.nanos < deadline.nanos →
      SleepsUntil deadline (afterRound deadline m) slept awake last →
      SleepsUntil deadline m (nextSlice deadline m.clock :: slept) awake last

variable {deadline start : Instant} {m last : Machine} {slept : List Duration} {awake : Bool}
  {stop? : Option Instant} {n : Nat}

/-- The loop ends. -/
theorem exists_sleepsUntil (deadline : Instant) (m : Machine) :
    ∃ slept awake last, SleepsUntil deadline m slept awake last := by
  -- Every round takes time off what is left until the deadline.
  induction hleft : deadline.nanos - m.clock.nanos using Nat.strongRecOn generalizing m with
  | _ left ih =>
    cases hrunning : m.running with
    | false => exact ⟨_, _, _, .stopped hrunning⟩
    | true =>
      rcases Nat.lt_or_ge m.clock.nanos deadline.nanos with hearly | hdue
      · have hforward := (elapses_afterRound deadline m).forward
        have hslice := slice_pos
        rw [nanos_nextSlice] at hforward
        obtain ⟨slept, awake, last, h⟩ := ih _ (by omega) (afterRound deadline m) rfl
        exact ⟨_, _, _, .slept hrunning hearly h⟩
      · exact ⟨_, _, _, .due hrunning hdue⟩

/-- A program with slices enough goes as the loop does. -/
theorem SleepsUntil.wp_sleepUntil (h : SleepsUntil deadline m slept awake last)
    (hn : slept.length ≤ n) :
    (sleepUntil deadline n).wp (fun b m' es =>
      b = awake ∧ sleepsIn es = slept ∧ last.SameTiming m') m := by
  induction h generalizing n with
  | @stopped m hstopped =>
    have hasked := m.sameTiming_serve (r := .running) nofun
    cases n with
    | zero => exact ⟨hstopped, rfl, hasked⟩
    | succ n =>
      rw [wp_sleepUntil_succ, hstopped]
      exact ⟨rfl, rfl, hasked⟩
  | @due m hrunning hdue =>
    cases n with
    | zero => exact ⟨hrunning, rfl, m.sameTiming_serve (r := .running) nofun⟩
    | succ n =>
      rw [wp_sleepUntil_succ, if_pos hrunning, if_pos hdue]
      exact ⟨rfl, rfl, sameTiming_asked m⟩
  | @slept m last slept awake hrunning hearly _ ih =>
    cases n with
    | zero => cases hn
    | succ n =>
      rw [wp_sleepUntil_succ, if_pos hrunning, if_neg (Nat.not_le_of_lt hearly)]
      refine wp_mono (ih (Nat.le_of_succ_le_succ hn)) ?_
      rintro b m' es ⟨hb, hslept, htiming⟩
      exact ⟨hb, congrArg (_ :: ·) hslept, htiming⟩

/-- The loop ends in one way only. -/
theorem SleepsUntil.unique {slept' : List Duration} {awake' : Bool} {last' : Machine}
    (h : SleepsUntil deadline m slept awake last)
    (h' : SleepsUntil deadline m slept' awake' last') : slept = slept' ∧ awake = awake' := by
  obtain ⟨hawake, hslept, -⟩ := h.wp_sleepUntil (Nat.le_max_left slept.length slept'.length)
  obtain ⟨hawake', hslept', -⟩ := h'.wp_sleepUntil (Nat.le_max_right slept.length slept'.length)
  exact ⟨hslept.symm.trans hslept', hawake.symm.trans hawake'⟩

/-! ## The ends of the slices -/

/-- Where the first `k` slices of a sleep end: all are whole, unless the deadline comes first. -/
def sliceEnd (start deadline : Instant) (k : Nat) : Instant :=
  ⟨min (start.nanos + k * slice.nanos) deadline.nanos⟩

@[simp] theorem nanos_sliceEnd (start deadline : Instant) (k : Nat) :
    (sliceEnd start deadline k).nanos = min (start.nanos + k * slice.nanos) deadline.nanos := rfl

/-- The slices of a sleep follow each other, and each begins before the deadline and before
    the signal to stop. -/
structure Course (start deadline : Instant) (stop? : Option Instant) (slept : List Duration)
    (final : Instant) : Prop where
  slices : ∀ k (hk : k < slept.length),
    slept[k] = (sliceEnd start deadline k).timeTo (sliceEnd start deadline (k + 1))
  early : ∀ k < slept.length, (sliceEnd start deadline k).nanos < deadline.nanos
  unstopped : ∀ k < slept.length, ∀ t ∈ stop?, (sliceEnd start deadline k).nanos < t.nanos
  final_eq : final = sliceEnd start deadline slept.length

theorem sliceEnd_zero (h : start.nanos ≤ deadline.nanos) : sliceEnd start deadline 0 = start := by
  rw [sliceEnd, Nat.zero_mul, Nat.add_zero, Nat.min_eq_left h]

/-- What is left after a slice ends as the whole does. -/
theorem sliceEnd_sliceEnd (start deadline : Instant) (k : Nat) :
    sliceEnd (sliceEnd start deadline 1) deadline k = sliceEnd start deadline (k + 1) := by
  simp only [sliceEnd, Nat.succ_mul]
  congr 1
  omega

namespace Course

theorem nil (h : start.nanos ≤ deadline.nanos) (stop? : Option Instant) :
    Course start deadline stop? [] start :=
  ⟨nofun, nofun, nofun, (sliceEnd_zero h).symm⟩

theorem cons {final : Instant} (hearly : start.nanos < deadline.nanos)
    (hrunning : ∀ t ∈ stop?, start.nanos < t.nanos)
    (h : Course (sliceEnd start deadline 1) deadline stop? slept final) :
    Course start deadline stop? (nextSlice deadline start :: slept) final := by
  have hzero := sliceEnd_zero (Nat.le_of_lt hearly)
  have hfinal := h.final_eq
  rw [sliceEnd_sliceEnd] at hfinal
  refine ⟨fun k hk => ?_, fun k hk => ?_, fun k hk => ?_, hfinal⟩
  · cases k with
    | zero =>
      ext
      rw [List.getElem_cons_zero, nanos_nextSlice, hzero, Instant.nanos_timeTo, nanos_sliceEnd]
      omega
    | succ k =>
      have hslice := h.slices k (Nat.lt_of_succ_lt_succ hk)
      rw [sliceEnd_sliceEnd, sliceEnd_sliceEnd] at hslice
      exact hslice
  · cases k with
    | zero => rwa [hzero]
    | succ k => exact sliceEnd_sliceEnd start deadline k ▸ h.early k (Nat.lt_of_succ_lt_succ hk)
  · cases k with
    | zero => rwa [hzero]
    | succ k => exact sliceEnd_sliceEnd start deadline k ▸ h.unstopped k (Nat.lt_of_succ_lt_succ hk)

variable {final : Instant} (h : Course start deadline stop? slept final)

include h

/-- A slice that another one follows is whole. -/
theorem whole {k : Nat} (hk : k + 1 < slept.length) : slept[k] = slice := by
  have hearly := h.early (k + 1) hk
  rw [nanos_sliceEnd, Nat.succ_mul] at hearly
  ext
  rw [h.slices k (Nat.lt_of_succ_lt hk), Instant.nanos_timeTo, nanos_sliceEnd, nanos_sliceEnd,
    Nat.succ_mul]
  omega

theorem nanos_pos {k : Nat} (hk : k < slept.length) : 0 < slept[k].nanos := by
  have hearly := h.early k hk
  have hslice := slice_pos
  rw [nanos_sliceEnd] at hearly
  rw [h.slices k hk, Instant.nanos_timeTo, nanos_sliceEnd, nanos_sliceEnd, Nat.succ_mul]
  omega

theorem nanos_le {k : Nat} (hk : k < slept.length) : slept[k].nanos ≤ slice.nanos := by
  rw [h.slices k hk, Instant.nanos_timeTo, nanos_sliceEnd, nanos_sliceEnd, Nat.succ_mul]
  omega

theorem final_le : final.nanos ≤ deadline.nanos := by
  rw [h.final_eq]
  exact Nat.min_le_right _ _

/-- There are no more slices than it takes to reach the deadline. -/
theorem length_le : slept.length ≤ (deadline.nanos - start.nanos) ⌈/⌉ slice.nanos := by
  by_contra hmore
  have hearly := h.early _ (Nat.lt_of_not_le hmore)
  have hreached := (ceilDiv_le_iff_le_mul slice_pos).1
    (Nat.le_refl ((deadline.nanos - start.nanos) ⌈/⌉ slice.nanos))
  rw [nanos_sliceEnd, Nat.mul_comm] at hearly
  omega

/-- A sleep that reaches its deadline has all its slices. -/
theorem length_eq (hreached : deadline.nanos ≤ final.nanos) :
    slept.length = (deadline.nanos - start.nanos) ⌈/⌉ slice.nanos := by
  refine Nat.le_antisymm h.length_le ((ceilDiv_le_iff_le_mul slice_pos).2 ?_)
  rw [h.final_eq, nanos_sliceEnd, Nat.mul_comm] at hreached
  omega

/-- A sleep ends less than a slice after the signal to stop, or after its start. -/
theorem prompt {t : Instant} (ht : t ∈ stop?) :
    final.nanos < max t.nanos start.nanos + slice.nanos := by
  have hslice := slice_pos
  have hfinal := h.final_eq
  cases hlength : slept.length with
  | zero =>
    rw [hlength, sliceEnd, Nat.zero_mul] at hfinal
    have hstart : final.nanos ≤ start.nanos := hfinal ▸ Nat.min_le_left _ _
    omega
  | succ k =>
    have hbefore := h.unstopped k (hlength ▸ Nat.lt_succ_self k) t ht
    rw [nanos_sliceEnd] at hbefore
    rw [hlength] at hfinal
    rw [hfinal, nanos_sliceEnd, Nat.succ_mul]
    omega

end Course

/-- With a clock that only sleeps move, the loop stops at an end of a slice, and neither the
    signal to stop nor the deadline has come at one before. -/
theorem SleepsUntil.course (h : SleepsUntil deadline m slept awake last) (hdrift : m.drift = 0)
    (hstart : m.clock.nanos ≤ deadline.nanos) (hstop : m.StopsAt stop?) :
    Course m.clock deadline stop? slept last.clock ∧ last.StopsAt stop? := by
  induction h with
  | stopped hstopped => exact ⟨.nil hstart stop?, hstop⟩
  | due hrunning hdue => exact ⟨.nil hstart stop?, hstop⟩
  | @slept m last slept awake hrunning hearly _ ih =>
    obtain ⟨hclock, hdrift'⟩ := (elapses_afterRound deadline m).precise hdrift
    have hend : (afterRound deadline m).clock = sliceEnd m.clock deadline 1 := by
      ext
      rw [hclock, nanos_nextSlice, nanos_sliceEnd]
      omega
    have hasked := hstop.sameTiming (sameTiming_asked m)
    have hdrift₁ : (asked m).drift = 0 := hdrift
    rw [hend] at ih
    obtain ⟨hcourse, hlast⟩ := ih hdrift' (Nat.min_le_right _ _) (hasked.sleep hdrift₁ _)
    exact ⟨hcourse.cons hearly (hstop.running_iff.1 hrunning), hlast⟩

/-! ## Interruptible sleeps -/

/-- What an interruptible sleep comes to on a machine whose clock only sleeps move. -/
structure Sliced (d : Duration) (deadline : Instant) (stop? : Option Instant) (m : Machine)
    (awake : Bool) (m' : Machine) (es : List Entry) : Prop where
  /-- The loop ends, and it ends like this only. -/
  ends : ∀ slept b, (∃ last, SleepsUntil deadline (m.serve .now).2 slept b last) ↔
    slept = sleepsIn es ∧ b = awake
  running : awake = m'.running
  awake_iff : awake = true ↔ ∀ t ∈ stop?, deadline.nanos < t.nanos
  /-- All slices are whole but the last one, which may be short. -/
  whole : ∀ k (hk : k + 1 < (sleepsIn es).length), (sleepsIn es)[k] = slice
  last : ∀ k (hk : k < (sleepsIn es).length),
    0 < (sleepsIn es)[k].nanos ∧ (sleepsIn es)[k].nanos ≤ slice.nanos
  elapsed : m'.clock.nanos = m.clock.nanos + sleptIn es
  slept_le : sleptIn es ≤ d.nanos
  /-- A sleep from which the program wakes lasts until the deadline. -/
  full : awake = true → m'.clock = deadline ∧ sleptIn es = d.nanos ∧
    (sleepsIn es).length = d.nanos ⌈/⌉ slice.nanos
  /-- A sleep that is cut short ends with the first slice that does not end before the signal. -/
  cut : awake = false → ∃ t, stop? = some t ∧ t.nanos ≤ m'.clock.nanos ∧
    m'.clock = sliceEnd m.clock deadline (sleepsIn es).length ∧
    ∀ k < (sleepsIn es).length, (sliceEnd m.clock deadline k).nanos < t.nanos
  prompt : ∀ t ∈ stop?, m'.clock.nanos < max t.nanos m.clock.nanos + slice.nanos
  zero : d = .zero → sleepsIn es = []

theorem slices_eq (d : Duration) : slices d = d.nanos ⌈/⌉ slice.nanos :=
  (Nat.ceilDiv_eq_add_pred_div _ _).symm

/-- An interruptible sleep whose deadline the clock can show ends there, or with the slice in
    which the program is told to stop. -/
theorem sleepWhileRunning_sliced {d : Duration} {deadline : Instant} {m : Machine}
    {stop? : Option Instant} (hdeadline : m.clock.after? d = some deadline) (hdrift : m.drift = 0)
    (hstop : m.StopsAt stop?) :
    (sleepWhileRunning d).run.wp (fun r m' es =>
      ∃ awake, r = .ok awake ∧ Sliced d deadline stop? m awake m' es) m := by
  obtain ⟨-, rfl⟩ := Instant.after?_eq_some_iff.1 hdeadline
  have hleft : (m.clock.after d).nanos - m.clock.nanos = d.nanos := Nat.add_sub_cancel_left ..
  obtain ⟨slept, awake, last, hloop⟩ := exists_sleepsUntil (m.clock.after d) (m.serve .now).2
  obtain ⟨hcourse, hlast⟩ := hloop.course hdrift (Nat.le_add_right _ _)
    (hstop.sameTiming m.sameTiming_now)
  have hcourse : Course m.clock (m.clock.after d) stop? slept last.clock := hcourse
  have henough := hcourse.length_le
  rw [hleft, ← slices_eq] at henough
  have hgoes : (sleepWhileRunning d).run.wp (fun r m' es =>
      r = .ok awake ∧ sleepsIn es = slept ∧ last.SameTiming m') m := by
    rw [wp_sleepWhileRunning, hdeadline]
    refine wp_mono (hloop.wp_sleepUntil henough) ?_
    rintro _ m' es ⟨rfl, hslept, htiming⟩
    exact ⟨rfl, hslept, htiming⟩
  refine wp_mono (wp_and (sleepWhileRunning_slept d m) hgoes) ?_
  rintro _ m' es ⟨hslept, rfl, rfl, htiming⟩
  have hpaused := hslept.paused_of_ok
  refine ⟨awake, rfl, ?_⟩
  rw [← htiming.clock] at hcourse
  have hstops := hlast.sameTiming htiming
  constructor
  case ends =>
    intro slept b
    constructor
    · rintro ⟨_, h⟩
      exact h.unique hloop
    · rintro ⟨rfl, rfl⟩
      exact ⟨last, hloop⟩
  case running => exact hpaused.running
  case awake_iff =>
    rw [hpaused.running, hstops.running_iff]
    refine ⟨fun hlater t ht => ?_, fun hlater t ht => ?_⟩
    · have hawake := hpaused.running.trans (hstops.running_iff.2 hlater)
      exact Nat.lt_of_le_of_lt (hpaused.reached hawake) (hlater t ht)
    · exact Nat.lt_of_le_of_lt hcourse.final_le (hlater t ht)
  case whole => exact fun k hk => hcourse.whole hk
  case last => exact fun k hk => ⟨hcourse.nanos_pos hk, hcourse.nanos_le hk⟩
  case elapsed => exact (hpaused.elapses.precise hdrift).1
  case slept_le => exact hpaused.slept
  case full =>
    intro hawake
    have hreached := hpaused.reached hawake
    have hlength := hcourse.length_eq hreached
    rw [hleft] at hlength
    exact ⟨Instant.ext (Nat.le_antisymm hcourse.final_le hreached), hpaused.slept_eq hawake hdrift,
      hlength⟩
  case cut =>
    intro hstopped
    rw [hpaused.running, Bool.eq_false_iff, ne_eq, hstops.running_iff] at hstopped
    obtain ⟨t, ht, hover⟩ : ∃ t ∈ stop?, t.nanos ≤ m'.clock.nanos := by simpa using hstopped
    exact ⟨t, ht, hover, hcourse.final_eq, fun k hk => hcourse.unstopped k hk t ht⟩
  case prompt => exact fun t ht => hcourse.prompt ht
  case zero =>
    rintro rfl
    exact List.eq_nil_of_length_eq_zero (Nat.le_zero.1 henough)

/-- A sleep of 250 milliseconds that is told to stop in its last slice: that slice is slept, and
    the program does not run at the deadline. -/
theorem late_signal_sliced :
    let m : Machine := { pending := [(⟨1000220000000⟩, .stop)] }
    let nap := sleepWhileRunning (.ofMillis 250)
    m.clock.after? (.ofMillis 250) = some ⟨1000250000000⟩ ∧ m.drift = 0 ∧
      m.StopsAt (some ⟨1000220000000⟩) ∧
      nap.run.wp (fun r m' es => ∃ awake, r = .ok awake ∧
        Sliced (.ofMillis 250) ⟨1000250000000⟩ (some ⟨1000220000000⟩) m awake m' es) m ∧
      nap.run.value m = .ok false ∧
      sleepsIn (nap.run.trace m) = [.ofMillis 100, .ofMillis 100, .ofMillis 50] := by
  intro m nap
  have hdeadline : m.clock.after? (.ofMillis 250) = some ⟨1000250000000⟩ := by decide
  have hstop : m.StopsAt (some ⟨1000220000000⟩) := by
    refine .coming rfl rfl fun t ht => ?_
    cases ht
    decide
  refine ⟨hdeadline, rfl, hstop, sleepWhileRunning_sliced hdeadline rfl hstop, ?_, ?_⟩
  · decide
  · decide

/-- A signal that comes with the end of a slice is noticed there. -/
example :
    let m : Machine := { pending := [(⟨1000200000000⟩, .stop)] }
    let nap := (sleepWhileRunning (.ofMillis 250)).run
    nap.value m = .ok false ∧ sleepsIn (nap.trace m) = [.ofMillis 100, .ofMillis 100] := by
  decide

end Session

end Cooling
