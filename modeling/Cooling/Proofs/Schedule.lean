-- SUMMARY: When a fan that is held at a level is kept there, and when the hold ends: at its deadline, or soon after the signal to stop.
import Mathlib.Algebra.Order.Floor.Div
import Cooling.Proofs.Custody

/-!
# The schedule of a hold

A hold goes in rounds: a nap of one poll interval, which the deadline may cut short, and
a call to keep the level, which takes as long as the fan runs free. If nothing but the
hold moves the clock and no write fails, this fixes the time of every call and of the
end. The signal to stop ends a hold within one slice of a nap, or one call: no call is
made after the signal, but one that was made before is completed.

A nap whose end the clock cannot show breaks the hold, even if the signal to stop has come
before. No deadline that the clock can show lets a nap get there.
-/

namespace Cooling

open Program

/-! ## Attempts that fail by their writes -/

/-- The attempt fails only if one of its writes does. -/
def Program.Unfailing (x : ExceptT ε Program α) : Prop :=
  ∀ m, x.run.wp (fun r _ es => (∀ w ∈ writesIn es, w.result = .ok ()) → r.isOk = true) m

namespace Program

theorem unfailing_pure (a : α) : Unfailing (pure a : ExceptT ε Program α) := fun _ _ => rfl

theorem unfailing_lift (x : Program α) : Unfailing (liftM x : ExceptT ε Program α) := by
  intro m
  rw [wp_run_lift]
  exact wp_of_forall fun _ _ _ _ => rfl

theorem Unfailing.bind {x : ExceptT ε Program α} {f : α → ExceptT ε Program β}
    (hx : Unfailing x) (hf : ∀ a, Unfailing (f a)) : Unfailing (x >>= f) := by
  intro m
  rw [wp_run_bind]
  refine wp_mono (hx m) fun r m' es hr => ?_
  cases r with
  | error e => exact fun hok => hr hok
  | ok a =>
    refine wp_mono (hf a m') fun r m'' fs hr' hok => hr' ?_
    rw [writesIn_append, List.forall_mem_append] at hok
    exact hok.2

theorem Unfailing.map {x : ExceptT ε Program α} (f : α → β) (hx : Unfailing x) :
    Unfailing (f <$> x) := by
  rw [map_eq_pure_bind]
  exact hx.bind fun _ => unfailing_pure _

end Program

theorem ControlFile.asks_write (path text : String) :
    (write path text).Asks [.write, .clock, .log] :=
  every_access (every_request (.head _))

theorem Attempt.unfailing_write {path : String} (hpath : '\x00' ∉ path.toList) (text : String)
    (failure : OsError → Failure) :
    Unfailing (ofProgram (ControlFile.write path text) failure) := by
  intro m
  refine wp_mono (ofProgram_write_once hpath text failure m) ?_
  rintro r m' es ⟨-, result, hwrites, rfl⟩ hok
  rw [hwrites] at hok
  obtain rfl : result = .ok () := hok _ (.head _)
  rfl

namespace ThinkpadFan

variable {fan : ThinkpadFan}

theorem setSpeed_unfailing (hpath : '\x00' ∉ fan.path.toList) (level : Level) :
    Unfailing (fan.setSpeed level) := by
  refine (Attempt.unfailing_write hpath _ _).bind fun _ => ?_
  exact (unfailing_lift _).bind fun _ => unfailing_pure _

theorem keep_unfailing (hpath : '\x00' ∉ fan.path.toList) (level : Level) :
    Unfailing (fan.keep level) := by
  unfold keep
  split
  · refine (Attempt.unfailing_write hpath _ _).bind fun _ => ?_
    exact (unfailing_lift _).bind fun _ => setSpeed_unfailing hpath level
  · refine (unfailing_lift _).bind fun now => ?_
    split
    · exact setSpeed_unfailing hpath level
    · exact unfailing_pure _

end ThinkpadFan

/-- A channel takes every number, once its first write succeeds. -/
theorem PwmFan.setSpeed_unfailing {fan : PwmFan} (hpath : '\x00' ∉ fan.path.toList) {level : Level}
    (hlevel : level.number?.isSome) : Unfailing (fan.setSpeed level) := by
  obtain ⟨n, hn⟩ := Option.isSome_iff_exists.1 hlevel
  intro m
  unfold setSpeed
  rw [hn]
  dsimp only
  rw [ExceptT.run_mk, wp_bind]
  refine wp_mono (Attempt.ofProgram_write_once hpath _ _ m) ?_
  rintro r m' es ⟨-, result, hwrites, rfl⟩
  cases result with
  | ok a => exact fun _ => rfl
  | error e =>
    refine wp_of_forall fun r m'' fs hok => ?_
    rw [writesIn_append, hwrites] at hok
    cases hok _ (.head _)

/-! ## Calls -/

namespace Fan

/-- How long the fan runs free in each call. -/
def depulse : Fan → Duration
  | thinkpad fan => fan.depulse
  | pwm _ => .zero

/-- A PWM channel takes numbers only. -/
def Accepts (level : Level) : Fan → Prop
  | thinkpad _ => True
  | pwm _ => level.number?.isSome

theorem Held.path_eq {fan fan' : Fan} (h : Held fan fan') : fan'.path = fan.path := by
  cases h <;> rfl

theorem Held.depulse_eq {fan fan' : Fan} (h : Held fan fan') : fan'.depulse = fan.depulse := by
  cases h <;> rfl

/-- Keeping a level takes at most the time in which the fan runs free, and just that time
    if it succeeds. -/
theorem keep_takes {fan : Fan} (hpath : '\x00' ∉ fan.path.toList) (level : Level) (m : Machine) :
    (fan.keep level).run.wp (fun r m' _ =>
      (∃ slept, slept ≤ fan.depulse.nanos ∧ m.Elapses m' slept) ∧
      (r.isOk = true → m.Elapses m' fan.depulse.nanos)) m := by
  cases fan with
  | pwm fan =>
    have hnone := (Machine.SameTiming.refl m).elapses
    exact ⟨⟨0, Nat.le_refl 0, hnone⟩, fun _ => hnone⟩
  | thinkpad fan =>
    change (ExceptT.run (thinkpad <$> fan.keep level)).wp _ m
    rw [wp_run_map]
    by_cases hdepulse : fan.depulse = .zero
    · have hzero : (thinkpad fan).depulse.nanos = 0 := congrArg Duration.nanos hdepulse
      rw [hzero]
      refine wp_mono (ThinkpadFan.keep_steady hpath hdepulse level m) ?_
      rintro r m' es ⟨htiming, -⟩
      exact ⟨⟨0, Nat.le_refl 0, htiming.elapses⟩, fun _ => htiming.elapses⟩
    · refine wp_mono (ThinkpadFan.keep_depulsing hpath hdepulse level m) ?_
      rintro r m' es (⟨e, -, htiming, rfl⟩ | ⟨result, -, helapses, -⟩)
      · exact ⟨⟨0, Nat.zero_le _, htiming.elapses⟩, nofun⟩
      · exact ⟨⟨_, Nat.le_refl _, helapses⟩, fun _ => helapses⟩

theorem keep_unfailing {fan : Fan} (hpath : '\x00' ∉ fan.path.toList) (level : Level) :
    Unfailing (fan.keep level) := by
  cases fan with
  | thinkpad fan => exact (ThinkpadFan.keep_unfailing hpath level).map _
  | pwm fan => exact unfailing_pure _

theorem takeOver_unfailing {fan : Fan} (hpath : '\x00' ∉ fan.path.toList) :
    Unfailing fan.takeOver := by
  cases fan with
  | thinkpad fan => exact Attempt.unfailing_write hpath _ _
  | pwm fan =>
    have hmode : '\x00' ∉ fan.modePath.toList := by
      have hpath : '\x00' ∉ fan.path.toList := hpath
      simp [PwmFan.modePath, PwmFan.modePathFor, hpath]
    exact Attempt.unfailing_write hmode _ _

theorem setSpeed_unfailing {fan : Fan} (hpath : '\x00' ∉ fan.path.toList) {level : Level}
    (hlevel : fan.Accepts level) : Unfailing (fan.setSpeed level) := by
  cases fan with
  | thinkpad fan => exact (ThinkpadFan.setSpeed_unfailing hpath level).map _
  | pwm fan => exact (PwmFan.setSpeed_unfailing hpath hlevel).bind fun _ => unfailing_pure _

theorem asks_takeOver (fan : Fan) : fan.takeOver.run.Asks [.write, .clock, .log] := by
  cases fan with
  | thinkpad fan => exact Every.run_ofProgram (ControlFile.asks_write _ _)
  | pwm fan => exact Every.run_ofProgram (ControlFile.asks_write _ _)

theorem asks_setSpeed (fan : Fan) (level : Level) :
    (fan.setSpeed level).run.Asks [.write, .clock, .log] := by
  have hwrite : ∀ path text, (writeLevel path text).run.Asks [.write, .clock, .log] :=
    fun _ _ => Every.run_ofProgram (ControlFile.asks_write _ _)
  cases fan with
  | thinkpad fan =>
    refine Every.run_map _ ((hwrite _ _).run_bind fun _ => ?_)
    exact (Every.run_lift (every_request (by decide))).run_bind fun _ => every_run_pure _
  | pwm fan =>
    refine Every.run_bind ?_ fun _ => every_run_pure _
    unfold PwmFan.setSpeed
    split
    · exact every_run_throw _
    · refine Every.bind (hwrite _ _) fun r => ?_
      split
      · exact every_pure _
      · split
        · refine (every_request (by simp [Request.kind])).bind fun _ => ?_
          refine Every.bind (asks_takeOver (.pwm fan)) fun r => ?_
          split
          · exact hwrite _ _
          · exact every_pure _
        · exact every_pure _

end Fan

/-! ## Rounds -/

namespace Session

/-- A call to keep the level: the fan, and the machine that it finds. -/
structure KeepCall where
  fan : Fan
  machine : Machine

/-- What a call writes. -/
def KeepCall.writes (level : Level) (call : KeepCall) : List Write :=
  writesIn ((call.fan.keep level).run.trace call.machine)

/-- Why no more rounds follow: the fan was napped for as often as was allowed, the deadline
    has come, the signal to stop was noticed, a call failed, or the clock cannot show the end
    of a nap. -/
inductive Ending where
  | tired | due | stopped | failed | overflow
  deriving DecidableEq

/-- The machine after a nap. -/
def napped (nap : Duration) (m : Machine) : Machine :=
  (sleepWhileRunning nap).run.after (m.serve .now).2

/-- Whether the program still runs after a nap, if the nap has an end. -/
def wakes (nap : Duration) (m : Machine) : Except Breakdown Bool :=
  (sleepWhileRunning nap).run.value (m.serve .now).2

/-- The rounds of a hold, with the call of each, and how they end. -/
inductive Rounds (level : Level) (pollInterval : Duration) (deadline? : Option Instant) :
    Nat → Fan → Machine → List KeepCall → Ending →
      Except Breakdown (Fan × Except Failure Unit) → Machine → Prop where
  | tired (fan : Fan) (m : Machine) :
      Rounds level pollInterval deadline? 0 fan m [] .tired (.ok (fan, .ok ())) m
  | due {naps : Nat} (fan : Fan) {m : Machine} :
      nap? pollInterval deadline? m.clock = none →
      Rounds level pollInterval deadline? (naps + 1) fan m [] .due (.ok (fan, .ok ()))
        (m.serve .now).2
  | overflow {naps : Nat} (fan : Fan) {m : Machine} {nap : Duration} :
      nap? pollInterval deadline? m.clock = some nap → m.clock.after? nap = none →
      Rounds level pollInterval deadline? (naps + 1) fan m [] .overflow (.error .overflow)
        (napped nap m)
  | stopped {naps : Nat} (fan : Fan) {m : Machine} {nap : Duration} :
      nap? pollInterval deadline? m.clock = some nap → wakes nap m = .ok false →
      Rounds level pollInterval deadline? (naps + 1) fan m [] .stopped (.ok (fan, .ok ()))
        (napped nap m)
  | failed {naps : Nat} {fan : Fan} {m : Machine} {nap : Duration} {f : Failure} :
      nap? pollInterval deadline? m.clock = some nap → wakes nap m = .ok true →
      (fan.keep level).run.value (napped nap m) = .error f →
      Rounds level pollInterval deadline? (naps + 1) fan m [⟨fan, napped nap m⟩] .failed
        (.ok (fan, .error f)) ((fan.keep level).run.after (napped nap m))
  | kept {naps : Nat} {fan fan' : Fan} {m m' : Machine} {nap : Duration} {calls : List KeepCall}
      {ending : Ending} {r : Except Breakdown (Fan × Except Failure Unit)} :
      nap? pollInterval deadline? m.clock = some nap → wakes nap m = .ok true →
      (fan.keep level).run.value (napped nap m) = .ok fan' →
      Rounds level pollInterval deadline? naps fan' ((fan.keep level).run.after (napped nap m))
        calls ending r m' →
      Rounds level pollInterval deadline? (naps + 1) fan m (⟨fan, napped nap m⟩ :: calls) ending
        r m'

variable {level : Level} {pollInterval : Duration} {deadline? : Option Instant} {naps : Nat}
  {fan : Fan} {m m' : Machine} {calls : List KeepCall} {ending : Ending}
  {r : Except Breakdown (Fan × Except Failure Unit)}

theorem slept_napped (nap : Duration) (m : Machine) :
    Slept nap (m.serve .now).2 (wakes nap m) (napped nap m)
      ((sleepWhileRunning nap).run.trace (m.serve .now).2) :=
  sleepWhileRunning_slept nap (m.serve .now).2

/-- A hold goes in rounds, and only the calls write. -/
theorem keepHolding_rounds (level : Level) (pollInterval : Duration) (deadline? : Option Instant)
    (naps : Nat) (fan : Fan) (m : Machine) :
    (keepHolding level pollInterval deadline? naps fan).run.wp (fun r m' es => ∃ calls ending,
      Rounds level pollInterval deadline? naps fan m calls ending r m' ∧
      writesIn es = calls.flatMap (·.writes level)) m := by
  induction naps generalizing fan m with
  | zero => exact ⟨[], .tired, .tired fan m, rfl⟩
  | succ naps ih =>
    unfold keepHolding
    rw [wp_run_bind, wp_run_lift, Program.now, wp_request]
    dsimp only
    split
    · rename_i hnap
      exact ⟨[], .due, .due fan hnap, rfl⟩
    · rename_i nap hnap
      have hquiet : writesIn ((sleepWhileRunning nap).run.trace (m.serve .now).2) = [] :=
        (asks_sleepWhileRunning nap).writesIn_eq_nil (by decide) _
      have hslept := slept_napped nap m
      rw [wp_run_bind, wp_iff, ← wakes, ← napped]
      cases hwakes : wakes nap m with
      | error b =>
        rw [hwakes] at hslept
        obtain ⟨rfl, hend⟩ := hslept.overflow_of_error
        simp only [writesIn_append, writesIn_now, hquiet]
        exact ⟨[], .overflow, .overflow fan hnap hend, rfl⟩
      | ok awake =>
        cases awake with
        | false =>
          simp only [Bool.false_eq_true, if_false, wp_run_pure, writesIn_append, writesIn_now,
            hquiet]
          exact ⟨[], .stopped, .stopped fan hnap hwakes, rfl⟩
        | true =>
          dsimp only
          rw [if_pos rfl, wp_run_bind, wp_run_lift, wp_iff]
          cases hkeep : (fan.keep level).run.value (napped nap m) with
          | error f =>
            simp only [wp_run_pure, writesIn_append, writesIn_now, hquiet, List.nil_append]
            refine ⟨[⟨fan, napped nap m⟩], .failed, .failed hnap hwakes hkeep, ?_⟩
            rw [List.flatMap_singleton]
            exact List.append_nil _
          | ok fan' =>
            refine wp_mono (ih fan' _) ?_
            rintro r m' es ⟨calls, ending, hrounds, hwrites⟩
            refine ⟨_, ending, .kept hnap hwakes hkeep hrounds, ?_⟩
            simp only [writesIn_append, writesIn_now, hquiet, hwrites, List.nil_append,
              List.flatMap_cons, KeepCall.writes]

theorem sameTiming_startHolding (fan : Fan) (level : Level) (m : Machine) :
    m.SameTiming ((startHolding fan level).run.after m) := by
  have hasks : (startHolding fan level).run.Asks [.write, .clock, .log] := by
    refine fan.asks_takeOver.run_bind fun _ => (fan.asks_setSpeed level).run_bind fun fan' => ?_
    refine Every.run_bind (Every.run_lift (every_request ?_)) fun _ => every_run_pure _
    simp [Request.kind]
  exact hasks.sameTiming (by decide) m

/-! ## Naps -/

theorem nap?_none {deadline : Instant} {now : Instant}
    (h : nap? pollInterval (some deadline) now = none) : deadline.nanos ≤ now.nanos := by
  by_contra hearly
  simp [nap?, hearly] at h

/-- A nap is one poll interval, or all that is left until the deadline. -/
theorem nap?_some {deadline : Instant} {now : Instant} {nap : Duration}
    (h : nap? pollInterval (some deadline) now = some nap) :
    now.nanos < deadline.nanos ∧
      nap.nanos = min pollInterval.nanos (deadline.nanos - now.nanos) := by
  unfold nap? at h
  simp only at h
  split at h
  · cases h
  · rename_i hearly
    cases h
    exact ⟨Nat.lt_of_not_le hearly, Duration.nanos_min _ _⟩

/-- A nap is one poll interval unless it ends at the deadline. -/
theorem nap?_cases {now : Instant} {nap : Duration}
    (h : nap? pollInterval deadline? now = some nap) :
    nap = pollInterval ∨
      ∃ deadline, deadline? = some deadline ∧ deadline.nanos = now.nanos + nap.nanos := by
  unfold nap? at h
  split at h
  · exact .inl (Option.some.inj h).symm
  · rename_i deadline
    split at h
    · cases h
    · rename_i hearly
      cases h
      unfold Duration.min
      split
      · exact .inl rfl
      · refine .inr ⟨deadline, rfl, ?_⟩
        rw [Instant.nanos_timeTo]
        omega

/-- A nap whose end the clock cannot show does not end at a deadline that it can show. -/
theorem not_showable_of_overflow {now : Instant} {nap : Duration}
    (hnap : nap? pollInterval deadline? now = some nap) (hend : now.after? nap = none) :
    ∀ deadline ∈ deadline?, ¬ deadline.Showable := by
  rintro deadline rfl hshown
  obtain ⟨hearly, hnanos⟩ := nap?_some hnap
  have hle : (now.after nap).nanos ≤ deadline.nanos := by
    rw [Instant.nanos_after]
    omega
  rw [Instant.after?_eq_none_iff] at hend
  exact hend (hshown.of_le hle)

theorem paused_napped {nap : Duration} {awake : Bool} (hwakes : wakes nap m = .ok awake) :
    Paused nap m awake (napped nap m)
      ((sleepWhileRunning nap).run.trace (m.serve .now).2) := by
  have h := (hwakes ▸ slept_napped nap m).paused_of_ok
  have hnow := (m.sameTiming_now).elapses.trans h.elapses
  rw [Nat.zero_add] at hnow
  exact ⟨h.running, h.slept, h.reached, hnow⟩

/-- A nap on a clock that only sleeps move takes exactly its time. -/
theorem napped_exact (hdrift : m.drift = 0) {nap : Duration} (hwakes : wakes nap m = .ok true) :
    m.Elapses (napped nap m) nap.nanos := by
  have hpaused := paused_napped hwakes
  rw [← hpaused.slept_eq rfl hdrift]
  exact hpaused.elapses

theorem napped_unstopped (hm : m.Unstopped) (nap : Duration) : (napped nap m).Unstopped :=
  Program.after_unstopped _ (hm.serve .now)

/-- A nap takes no time if the clock cannot show its end. -/
theorem napped_overflow {nap : Duration} (hend : m.clock.after? nap = none) :
    m.SameTiming (napped nap m) := by
  suffices h : (sleepWhileRunning nap).run.wp (fun _ m' _ => m.SameTiming m')
      (m.serve .now).2 from h
  have hend' : (m.serve .now).2.clock.after? nap = none := hend
  rw [wp_sleepWhileRunning, hend']
  exact m.sameTiming_now.trans (Machine.sameTiming_now _)

/-- A sleep that the signal to stop cuts short ends within one slice of it. -/
theorem sleepUntil_prompt (deadline : Instant) (n : Nat) {t : Instant} (hm : m.StopsBy t) :
    (sleepUntil deadline n).wp (fun _ m' _ => m'.clock.nanos + m'.drift ≤
      max m.clock.nanos (t.nanos + slice.nanos) + m.drift) m := by
  -- A slice that is slept starts before the signal, since the program runs then.
  have hstart : ∀ m : Machine, m.clock.nanos + m.drift ≤
      max m.clock.nanos (t.nanos + slice.nanos) + m.drift :=
    fun _ => Nat.add_le_add_right (Nat.le_max_left _ _) _
  induction n generalizing m with
  | zero => exact hstart m
  | succ n ih =>
    rw [wp_sleepUntil_succ]
    split
    · rename_i hrunning
      split
      · exact hstart m
      · have hbefore : m.clock.nanos < t.nanos := by
          by_contra hlate
          exact absurd hrunning (Bool.eq_false_iff.1 (hm.due (Nat.le_of_not_lt hlate)))
        have helapses := elapses_afterRound deadline m
        have htotal := helapses.total
        have hdrift := helapses.drift_le
        rw [nanos_nextSlice] at htotal
        have hstops : (afterRound deadline m).StopsBy t :=
          ((hm.serve .running).serve .now).serve _
        refine wp_mono (ih hstops) fun _ m' _ h => ?_
        omega
    · exact hstart m

theorem napped_prompt {t : Instant} (hm : m.StopsBy t) (nap : Duration) :
    (napped nap m).clock.nanos + (napped nap m).drift ≤
      max m.clock.nanos (t.nanos + slice.nanos) + m.drift := by
  suffices h : (sleepWhileRunning nap).run.wp (fun _ m' _ => m'.clock.nanos + m'.drift ≤
      max m.clock.nanos (t.nanos + slice.nanos) + m.drift) (m.serve .now).2 from h
  rw [wp_sleepWhileRunning]
  split
  · exact sleepUntil_prompt _ _ ((hm.serve .now).serve .now)
  · exact Nat.add_le_add_right (Nat.le_max_left _ _) _

/-- A program that is awake after a nap has not been told to stop before. -/
theorem napped_before {t : Instant} (hm : m.StopsBy t) {nap : Duration}
    (hwakes : wakes nap m = .ok true) :
    (napped nap m).StopsBy t ∧ (napped nap m).clock.nanos < t.nanos := by
  have hstops : (napped nap m).StopsBy t := Program.after_stopsBy _ (hm.serve .now)
  refine ⟨hstops, ?_⟩
  by_contra hlate
  have hstopped := hstops.due (Nat.le_of_not_lt hlate)
  rw [← (paused_napped hwakes).running] at hstopped
  cases hstopped

/-! ## Rounds until the deadline -/

theorem ceilDiv_of_pos {a q : Nat} (ha : 0 < a) (hq : 0 < q) :
    a ⌈/⌉ q = (a - q) ⌈/⌉ q + 1 := by
  rw [Nat.ceilDiv_eq_add_pred_div, Nat.ceilDiv_eq_add_pred_div]
  have hone : a + q - 1 = a - 1 + q := by omega
  rw [hone, Nat.add_div_right _ hq]
  rcases Nat.lt_or_ge a q with hlt | hge
  · have hnone : a - q + q - 1 = q - 1 := by omega
    rw [hnone, Nat.div_eq_of_lt (by omega), Nat.div_eq_of_lt (by omega)]
  · have hrest : a - q + q - 1 = a - 1 := by omega
    rw [hrest]

/-- When the calls of a hold are made that starts at a time, in nanoseconds: one in each
    period of a nap and a call that begins before the deadline, at the end of the nap. -/
def callTimes (poll depulse start deadline : Nat) : List Nat :=
  (List.range ((deadline - start) ⌈/⌉ (poll + depulse))).map fun j =>
    min (start + j * (poll + depulse) + poll) deadline

theorem callTimes_of_le (poll depulse : Nat) {start deadline : Nat} (h : deadline ≤ start) :
    callTimes poll depulse start deadline = [] := by
  rw [callTimes, Nat.sub_eq_zero_of_le h, zero_ceilDiv]
  rfl

/-- The first call, and the ones after it. -/
theorem callTimes_of_lt {poll : Nat} (hpoll : 0 < poll) (depulse : Nat) {start deadline : Nat}
    (h : start < deadline) :
    let call := start + min poll (deadline - start)
    callTimes poll depulse start deadline =
      call :: callTimes poll depulse (call + depulse) deadline := by
  intro call
  -- What is left after a call is one period less, or nothing.
  have hleft : deadline - (call + depulse) = deadline - start - (poll + depulse) := by
    omega
  have hcount : (deadline - start) ⌈/⌉ (poll + depulse) =
      (deadline - (call + depulse)) ⌈/⌉ (poll + depulse) + 1 := by
    rw [ceilDiv_of_pos (by omega) (by omega), hleft]
  rw [callTimes, hcount, List.range_succ_eq_map, List.map_cons, List.map_map]
  congr 1
  · omega
  · refine List.map_congr_left fun j hj => ?_
    have hmore : 0 < (deadline - (call + depulse)) ⌈/⌉ (poll + depulse) :=
      Nat.lt_of_le_of_lt (Nat.zero_le j) (List.mem_range.1 hj)
    have hbefore : call + depulse < deadline := by
      by_contra hlate
      rw [Nat.sub_eq_zero_of_le (Nat.le_of_not_lt hlate), zero_ceilDiv] at hmore
      exact Nat.lt_irrefl 0 hmore
    have hwhole : call = start + poll := by
      omega
    have hperiod : start + (j + 1) * (poll + depulse) = call + depulse + j * (poll + depulse) := by
      rw [hwhole, Nat.succ_mul]
      omega
    exact congrArg (fun t => min (t + poll) deadline) hperiod

/-- With a clock that only sleeps move, and if no write fails, the calls are made at their
    times, and the hold ends at the deadline or with the call that was made until then. -/
theorem Rounds.due_at {deadline : Instant} (hshown : deadline.Showable)
    (h : Rounds level pollInterval (some deadline) naps fan m calls ending r m')
    (hpath : '\x00' ∉ fan.path.toList) (hpoll : 0 < pollInterval.nanos) (hdrift : m.drift = 0)
    (hrunning : m.Unstopped)
    (hok : ∀ w ∈ calls.flatMap (·.writes level), w.result = .ok ())
    (hnaps : (callTimes pollInterval.nanos fan.depulse.nanos m.clock.nanos
      deadline.nanos).length < naps) :
    ending = .due ∧ (∃ fan', r = .ok (fan', .ok ())) ∧
      calls.map (·.machine.clock.nanos) =
        callTimes pollInterval.nanos fan.depulse.nanos m.clock.nanos deadline.nanos ∧
      deadline.nanos ≤ m'.clock.nanos ∧
      m'.clock.nanos ≤ max m.clock.nanos (deadline.nanos + fan.depulse.nanos) := by
  induction h with
  | tired fan m => exact absurd hnaps (Nat.not_lt_zero _)
  | due fan hnap =>
    have hdue := nap?_none hnap
    refine ⟨rfl, ⟨fan, rfl⟩, ?_, hdue, Nat.le_max_left _ _⟩
    rw [callTimes_of_le _ _ hdue]
    rfl
  | overflow fan hnap hend => exact absurd hshown (not_showable_of_overflow hnap hend _ rfl)
  | stopped fan hnap hwakes =>
    have hstopped := (paused_napped hwakes).running
    rw [(napped_unstopped hrunning _).running] at hstopped
    cases hstopped
  | @failed naps fan m nap f hnap hwakes hkeep =>
    rw [List.flatMap_singleton] at hok
    have hsucceeds := Fan.keep_unfailing hpath level (napped nap m) hok
    rw [hkeep] at hsucceeds
    cases hsucceeds
  | @kept naps fan fan' m m' nap calls ending r hnap hwakes hkeep hrounds ih =>
    obtain ⟨hearly, hnanos⟩ := nap?_some hnap
    have hheld : fan.Held fan' := fan.keep_held level (napped nap m) fan' hkeep
    obtain ⟨hcall, hdrift₁⟩ := (napped_exact hdrift hwakes).precise hdrift
    have hkept := (Fan.keep_takes hpath level (napped nap m)).2 (by rw [hkeep]; rfl)
    obtain ⟨hnext, hdrift₂⟩ := hkept.precise hdrift₁
    have hunstopped : ((fan.keep level).run.after (napped nap m)).Unstopped :=
      Program.after_unstopped _ (napped_unstopped hrunning nap)
    rw [List.flatMap_cons, List.forall_mem_append] at hok
    rw [callTimes_of_lt hpoll _ hearly] at hnaps ⊢
    rw [hheld.path_eq, hheld.depulse_eq, hnext, hcall, hnanos] at ih
    obtain ⟨hending, hr, htimes, hreached, hend⟩ :=
      ih hpath hdrift₂ hunstopped hok.2 (Nat.lt_of_succ_lt_succ hnaps)
    refine ⟨hending, hr, ?_, hreached, Nat.le_trans hend ?_⟩
    · rw [List.map_cons, hcall, hnanos, htimes]
    · omega

/-! ## Rounds until the signal to stop -/

/-- A call is made before the signal to stop, and takes no longer than the fan runs free. -/
theorem call_prompt {t : Instant} (hpath : '\x00' ∉ fan.path.toList) (hstops : m.StopsBy t)
    {nap : Duration} (hwakes : wakes nap m = .ok true) (level : Level) :
    let m' := (fan.keep level).run.after (napped nap m)
    (napped nap m).clock.nanos < t.nanos ∧ m'.StopsBy t ∧ m'.drift ≤ m.drift ∧
      m'.clock.nanos + m'.drift ≤ t.nanos + fan.depulse.nanos + m.drift := by
  intro m'
  obtain ⟨hstops', hbefore⟩ := napped_before hstops hwakes
  obtain ⟨⟨slept, hslept, helapses⟩, -⟩ := Fan.keep_takes hpath level (napped nap m)
  have hdrift := (paused_napped hwakes).elapses.drift_le
  have htotal : m'.clock.nanos + m'.drift = _ := helapses.total
  refine ⟨hbefore, Program.after_stopsBy _ hstops', Nat.le_trans helapses.drift_le hdrift, ?_⟩
  omega

/-- Every call is made while the program has not been told to stop, and the hold ends within
    a slice of a nap, or a call, after the signal. -/
theorem Rounds.prompt {t : Instant}
    (h : Rounds level pollInterval deadline? naps fan m calls ending r m')
    (hpath : '\x00' ∉ fan.path.toList) (hstops : m.StopsBy t) :
    (∀ call ∈ calls, call.machine.clock.nanos < t.nanos) ∧
      m'.clock.nanos + m'.drift ≤
        max m.clock.nanos (t.nanos + max slice.nanos fan.depulse.nanos) + m.drift := by
  induction h with
  | tired fan m => exact ⟨nofun, Nat.add_le_add_right (Nat.le_max_left _ _) _⟩
  | due fan hnap => exact ⟨nofun, Nat.add_le_add_right (Nat.le_max_left _ _) _⟩
  | overflow fan hnap hend =>
    have htiming := napped_overflow hend
    rw [Machine.drift, htiming.clock, htiming.pending]
    exact ⟨nofun, Nat.add_le_add_right (Nat.le_max_left _ _) _⟩
  | @stopped naps fan m nap hnap hwakes =>
    refine ⟨nofun, Nat.le_trans (napped_prompt hstops nap) (Nat.add_le_add_right ?_ _)⟩
    exact max_le_max (Nat.le_refl _) (Nat.add_le_add_left (Nat.le_max_left _ _) _)
  | @failed naps fan m nap f hnap hwakes hkeep =>
    obtain ⟨hbefore, -, -, hend⟩ := call_prompt hpath hstops hwakes level
    refine ⟨fun call hcall => by rwa [List.mem_singleton.1 hcall], Nat.le_trans hend ?_⟩
    refine Nat.add_le_add_right (Nat.le_trans ?_ (Nat.le_max_right _ _)) _
    exact Nat.add_le_add_left (Nat.le_max_right _ _) _
  | @kept naps fan fan' m m' nap calls ending r hnap hwakes hkeep hrounds ih =>
    have hheld : fan.Held fan' := fan.keep_held level (napped nap m) fan' hkeep
    obtain ⟨hbefore, hstops', hdrift, hend⟩ := call_prompt hpath hstops hwakes level
    rw [hheld.path_eq, hheld.depulse_eq] at ih
    obtain ⟨hcalls, hlast⟩ := ih hpath hstops'
    refine ⟨List.forall_mem_cons.2 ⟨hbefore, hcalls⟩, ?_⟩
    omega

theorem Rounds.held (h : Rounds level pollInterval deadline? naps fan m calls ending r m') :
    ∀ call ∈ calls, fan.Held call.fan := by
  induction h with
  | tired fan m => exact nofun
  | due fan hnap => exact nofun
  | overflow fan hnap hend => exact nofun
  | stopped fan hnap hwakes => exact nofun
  | @failed naps fan m nap f hnap hwakes hkeep =>
    intro call hcall
    rw [List.mem_singleton.1 hcall]
    exact .refl fan
  | @kept naps fan fan' m m' nap calls ending r hnap hwakes hkeep hrounds ih =>
    have hheld : fan.Held fan' := fan.keep_held level (napped nap m) fan' hkeep
    exact List.forall_mem_cons.2 ⟨.refl fan, fun call hcall => hheld.trans (ih call hcall)⟩

/-- With naps enough to reach the signal to stop, and one more, a hold does not end for want
    of naps. -/
theorem Rounds.not_tired {t : Instant} {more : Nat}
    (h : Rounds level pollInterval deadline? (more + 1) fan m calls ending r m')
    (hstops : m.StopsBy t)
    (hmore : t.nanos ≤ m.clock.nanos + more * pollInterval.nanos ∨
      ∃ deadline, deadline? = some deadline ∧ deadline.nanos ≤ m.clock.nanos) :
    ending ≠ .tired := by
  generalize hnaps : more + 1 = naps at h
  induction h generalizing more with
  | tired fan m => cases hnaps
  | due fan hnap => exact nofun
  | overflow fan hnap hend => exact nofun
  | stopped fan hnap hwakes => exact nofun
  | failed hnap hwakes hkeep => exact nofun
  | @kept naps fan fan' m m' nap calls ending r hnap hwakes hkeep hrounds ih =>
    obtain rfl : more = naps := Nat.succ.inj hnaps
    obtain ⟨hstops', hbefore⟩ := napped_before hstops hwakes
    have hreached := (paused_napped hwakes).reached rfl
    have hforward := ((fan.keep level).run.elapses (napped nap m)).forward
    have hearly : t.nanos ≤ m.clock.nanos + more * pollInterval.nanos := by
      rcases hmore with hmore | ⟨deadline, rfl, hdue⟩
      · exact hmore
      · exact absurd (nap?_some hnap).1 (Nat.not_lt_of_le hdue)
    cases more with
    | zero =>
      rw [Nat.zero_mul] at hearly
      omega
    | succ more =>
      refine ih (Program.after_stopsBy _ hstops') ?_ rfl
      rcases nap?_cases hnap with rfl | ⟨deadline, hdeadline, hends⟩
      · rw [Nat.succ_mul] at hearly
        exact .inl (by omega)
      · exact .inr ⟨deadline, hdeadline, by omega⟩

/-- How a hold that ends in some way concludes: with a result, unless it came to a nap whose
    end the clock cannot show. Then a whole poll interval has no end either, and no deadline
    was given that the clock can show. -/
def Concludes (pollInterval : Duration) (deadline? : Option Instant) (last : Machine) :
    Ending → Except Breakdown (Fan × Except Failure Unit) → Prop
  | .overflow, r => r = .error .overflow ∧ last.clock.after? pollInterval = none ∧
      ∀ deadline ∈ deadline?, ¬ deadline.Showable
  | _, r => ∃ held, r = .ok held

theorem Rounds.concludes
    (h : Rounds level pollInterval deadline? naps fan m calls ending r m') :
    Concludes pollInterval deadline? m' ending r := by
  induction h with
  | tired fan m => exact ⟨_, rfl⟩
  | due fan hnap => exact ⟨_, rfl⟩
  | stopped fan hnap hwakes => exact ⟨_, rfl⟩
  | failed hnap hwakes hkeep => exact ⟨_, rfl⟩
  | kept hnap hwakes hkeep hrounds ih => exact ih
  | @overflow naps fan m nap hnap hend =>
    refine ⟨rfl, ?_, not_showable_of_overflow hnap hend⟩
    rw [(napped_overflow hend).clock]
    rw [Instant.after?_eq_none_iff] at hend ⊢
    refine fun hshown => hend (hshown.of_le (Nat.add_le_add_left ?_ _))
    exact nap?_le hnap

/-! ## Holds -/

/-- The calls of a hold, and how it ends. There are none if the fan cannot be taken over or
    does not take the level. -/
inductive Holds (level : Level) (pollInterval : Duration) (deadline? : Option Instant)
    (naps : Nat) (fan : Fan) (m : Machine) :
    List KeepCall → Ending → Except Breakdown (Fan × Except Failure Unit) → Machine → Prop where
  | refused {f : Failure} :
      (startHolding fan level).run.value m = .error f →
      Holds level pollInterval deadline? naps fan m [] .failed (.ok (fan, .error f))
        ((startHolding fan level).run.after m)
  | held {fan' : Fan} {calls : List KeepCall} {ending : Ending}
      {r : Except Breakdown (Fan × Except Failure Unit)} {m' : Machine} :
      (startHolding fan level).run.value m = .ok fan' →
      Rounds level pollInterval deadline? naps fan' ((startHolding fan level).run.after m) calls
        ending r m' →
      Holds level pollInterval deadline? naps fan m calls ending r m'

/-- A hold writes at its start and in its calls. -/
theorem hold_holds (naps : Nat) (fan : Fan) (level : Level) (pollInterval : Duration)
    (deadline? : Option Instant) (m : Machine) :
    (hold naps fan level pollInterval deadline?).run.wp (fun r m' es => ∃ calls ending,
      Holds level pollInterval deadline? naps fan m calls ending r m' ∧
      writesIn es = writesIn ((startHolding fan level).run.trace m) ++
        calls.flatMap (·.writes level)) m := by
  unfold hold
  rw [wp_run_bind, wp_run_lift, wp_iff]
  cases hstart : (startHolding fan level).run.value m with
  | error f =>
    simp only [wp_run_pure, List.append_nil]
    exact ⟨[], .failed, .refused hstart, (List.append_nil _).symm⟩
  | ok fan' =>
    refine wp_mono (keepHolding_rounds level pollInterval deadline? naps fan' _) ?_
    rintro r m' es ⟨calls, ending, hrounds, hwrites⟩
    exact ⟨calls, ending, .held hstart hrounds, by rw [writesIn_append, hwrites]⟩

theorem startHolding_unfailing (hpath : '\x00' ∉ fan.path.toList) (hlevel : fan.Accepts level) :
    Unfailing (startHolding fan level) := by
  refine (Fan.takeOver_unfailing hpath).bind fun _ => ?_
  refine (Fan.setSpeed_unfailing hpath hlevel).bind fun _ => ?_
  exact (unfailing_lift _).bind fun _ => unfailing_pure _

theorem startHolding_held (fan : Fan) (level : Level) :
    Gives (startHolding fan level) fan.Held := by
  refine (gives_true _).bind fun _ _ => (fan.setSpeed_held level).bind fun fan' hheld => ?_
  exact (gives_true _).bind fun _ _ => gives_pure hheld

/-- The calls of a hold are made once in each period that begins before its deadline, each
    after a nap that the deadline may cut short, and the hold ends with the last of them. -/
structure OnTime (pollInterval depulse : Duration) (start : Instant) (d : Duration)
    (calls : List KeepCall) (final : Instant) : Prop where
  count : calls.length = d.nanos ⌈/⌉ (pollInterval.nanos + depulse.nanos)
  times : ∀ j (hj : j < calls.length), calls[j].machine.clock.nanos =
    min (start.nanos + j * (pollInterval.nanos + depulse.nanos) + pollInterval.nanos)
      (start.nanos + d.nanos)
  reached : start.nanos + d.nanos ≤ final.nanos
  ended : final.nanos ≤ start.nanos + d.nanos + depulse.nanos

/-- No call of a hold is made after the signal to stop, and the hold ends within a slice of a
    nap, or a call, after that or after its start. -/
structure Prompt (depulse : Duration) (start stop : Instant) (drift : Nat)
    (calls : List KeepCall) (final : Instant) : Prop where
  before : ∀ call ∈ calls, call.machine.clock.nanos < stop.nanos
  ended : final.nanos ≤
    max stop.nanos start.nanos + max slice.nanos depulse.nanos + drift

/-- A call lets the fan run free, and if that succeeds it applies the level again after it. -/
def KeepCall.Depulses (level : Level) (fan : Fan) (call : KeepCall) : Prop :=
  (∃ e, call.writes level =
    [.ofText call.machine.clock fan.path "level disengaged" (.error e)]) ∨
  ∃ later result, call.machine.clock.nanos + fan.depulse.nanos ≤ later.nanos ∧
    call.writes level = [.ofText call.machine.clock fan.path "level disengaged" (.ok ()),
      .ofText later fan.path level.text result]

theorem KeepCall.depulses {call : KeepCall} (hpath : '\x00' ∉ fan.path.toList)
    (hdepulse : fan.depulse ≠ .zero) (hheld : fan.Held call.fan) (level : Level) :
    call.Depulses level fan := by
  obtain ⟨fan', m⟩ := call
  cases hheld with
  | pwm fan => exact absurd rfl hdepulse
  | thinkpad fan ping =>
    suffices h : (ExceptT.run (Fan.thinkpad <$>
        ThinkpadFan.keep { fan with lastPing := ping } level)).wp
        (fun _ _ es => (∃ e, writesIn es =
            [.ofText m.clock fan.path "level disengaged" (.error e)]) ∨
          ∃ later result, m.clock.nanos + fan.depulse.nanos ≤ later.nanos ∧
            writesIn es = [.ofText m.clock fan.path "level disengaged" (.ok ()),
              .ofText later fan.path level.text result]) m from h
    rw [wp_run_map]
    refine wp_mono
      (@ThinkpadFan.keep_depulsing { fan with lastPing := ping } hpath hdepulse level m) ?_
    rintro r m' es (⟨e, hwrites, -⟩ | ⟨result, hwrites, helapses, -⟩)
    · exact .inl ⟨e, hwrites⟩
    · exact .inr ⟨m'.clock, result, helapses.forward, hwrites⟩

theorem length_callTimes (poll depulse start deadline : Nat) :
    (callTimes poll depulse start deadline).length = (deadline - start) ⌈/⌉ (poll + depulse) := by
  rw [callTimes, List.length_map, List.length_range]

/-- A hold with a fan that takes all writes is on time and ends at its deadline. -/
theorem Holds.onTime {d : Duration} (hshown : (m.clock.after d).Showable)
    (h : Holds level pollInterval (some (m.clock.after d)) naps fan m calls ending r m')
    (hpath : '\x00' ∉ fan.path.toList) (hpoll : 0 < pollInterval.nanos)
    (hlevel : fan.Accepts level) (hdrift : m.drift = 0) (hrunning : m.Unstopped)
    (hok : ∀ w ∈ writesIn ((startHolding fan level).run.trace m) ++
      calls.flatMap (·.writes level), w.result = .ok ())
    (hnaps : d.nanos ⌈/⌉ (pollInterval.nanos + fan.depulse.nanos) < naps) :
    ending = .due ∧ (∃ fan', r = .ok (fan', .ok ())) ∧
      OnTime pollInterval fan.depulse m.clock d calls m'.clock := by
  rw [List.forall_mem_append] at hok
  cases h with
  | refused hstart =>
    have hsucceeds := startHolding_unfailing hpath hlevel m hok.1
    rw [hstart] at hsucceeds
    cases hsucceeds
  | held hstart hrounds =>
    have htiming := sameTiming_startHolding fan level m
    have hheld : fan.Held _ := startHolding_held fan level m _ hstart
    have hdrift' : ((startHolding fan level).run.after m).drift = 0 := by
      rw [Machine.drift, htiming.pending]
      exact hdrift
    rw [← hheld.path_eq] at hpath
    have hleft : (m.clock.after d).nanos - m.clock.nanos = d.nanos :=
      Nat.add_sub_cancel_left ..
    have hdue := hrounds.due_at hshown hpath hpoll hdrift' (htiming.unstopped hrunning) hok.2
    rw [hheld.depulse_eq, htiming.clock, length_callTimes, hleft] at hdue
    obtain ⟨hending, hr, htimes, hreached, hended⟩ := hdue hnaps
    have hcount : calls.length = d.nanos ⌈/⌉ (pollInterval.nanos + fan.depulse.nanos) := by
      have hlength := congrArg List.length htimes
      rwa [List.length_map, length_callTimes, hleft] at hlength
    refine ⟨hending, hr, hcount, fun j hj => ?_, hreached, ?_⟩
    · have hget := congrArg (fun ts => ts[j]?) htimes
      simp only [callTimes, hleft, List.getElem?_map, List.getElem?_eq_getElem hj,
        List.getElem?_range (hcount ▸ hj)] at hget
      exact Option.some.inj hget
    · rw [Instant.nanos_after] at hended
      omega

/-- A hold that is told to stop does so, whatever fails. -/
theorem Holds.prompt {t : Instant}
    (h : Holds level pollInterval deadline? naps fan m calls ending r m')
    (hpath : '\x00' ∉ fan.path.toList) (hstops : m.StopsBy t) :
    Prompt fan.depulse m.clock t m.drift calls m'.clock ∧
      ∀ more, naps = more + 1 → t.nanos ≤ m.clock.nanos + more * pollInterval.nanos →
        ending ≠ .tired := by
  have htiming := sameTiming_startHolding fan level m
  cases h with
  | refused hstart =>
    refine ⟨⟨nofun, ?_⟩, fun _ _ _ => nofun⟩
    rw [htiming.clock]
    omega
  | held hstart hrounds =>
    have hheld : fan.Held _ := startHolding_held fan level m _ hstart
    have hstops' := (startHolding fan level).run.after_stopsBy hstops
    obtain ⟨hbefore, hended⟩ := hrounds.prompt (hheld.path_eq ▸ hpath) hstops'
    refine ⟨⟨hbefore, ?_⟩, ?_⟩
    · rw [hheld.depulse_eq, htiming.clock, Machine.drift, Machine.drift, htiming.pending] at hended
      unfold Machine.drift
      omega
    · rintro more rfl hmore
      refine hrounds.not_tired hstops' (.inl ?_)
      rwa [htiming.clock]

theorem Holds.concludes (h : Holds level pollInterval deadline? naps fan m calls ending r m') :
    Concludes pollInterval deadline? m' ending r := by
  cases h with
  | refused hstart => exact ⟨_, rfl⟩
  | held hstart hrounds => exact hrounds.concludes

theorem Holds.calls_held (h : Holds level pollInterval deadline? naps fan m calls ending r m') :
    ∀ call ∈ calls, fan.Held call.fan := by
  cases h with
  | refused hstart => exact nofun
  | held hstart hrounds =>
    have hheld : fan.Held _ := startHolding_held fan level m _ hstart
    exact fun call hcall => hheld.trans (hrounds.held call hcall)

/-- A hold follows its schedule. If nothing but its sleeps moves the clock, no signal to stop
    comes and no write to a fan that takes the level fails, then it is on time and ends well
    at its deadline. If the signal to stop comes by some time, with or without a deadline and
    whatever fails, then the hold ends promptly, and each call that lets the fan run free
    applies the level again before that. In both cases naps enough to get there are given. A
    hold ends without a result only at a nap whose end the clock cannot show. -/
theorem hold_scheduled {fan : Fan} (hpath : '\x00' ∉ fan.path.toList) (level : Level)
    {pollInterval : Duration} (hpoll : 0 < pollInterval.nanos) (deadline? : Option Instant)
    (naps : Nat) (m : Machine) :
    (hold naps fan level pollInterval deadline?).run.wp (fun r m' es => ∃ calls ending,
      Holds level pollInterval deadline? naps fan m calls ending r m' ∧
      writesIn es = writesIn ((startHolding fan level).run.trace m) ++
        calls.flatMap (·.writes level) ∧
      (∀ d deadline, m.clock.after? d = some deadline → deadline? = some deadline →
        fan.Accepts level → m.drift = 0 → m.Unstopped → (∀ w ∈ writesIn es, w.result = .ok ()) →
        d.nanos ⌈/⌉ (pollInterval.nanos + fan.depulse.nanos) < naps →
        ending = .due ∧ (∃ fan', r = .ok (fan', .ok ())) ∧
          OnTime pollInterval fan.depulse m.clock d calls m'.clock) ∧
      (∀ t, m.StopsBy t →
        Prompt fan.depulse m.clock t m.drift calls m'.clock ∧
        ∀ more, naps = more + 1 → t.nanos ≤ m.clock.nanos + more * pollInterval.nanos →
          ending ≠ .tired) ∧
      Concludes pollInterval deadline? m' ending r ∧
      (fan.depulse ≠ .zero → ∀ call ∈ calls, call.Depulses level fan)) m := by
  refine wp_mono (hold_holds naps fan level pollInterval deadline? m) ?_
  rintro r m' es ⟨calls, ending, hholds, hwrites⟩
  refine ⟨calls, ending, hholds, hwrites, ?_, fun t hstops => hholds.prompt hpath hstops,
    hholds.concludes, ?_⟩
  · rintro d deadline hdeadline rfl hlevel hdrift hrunning hok hnaps
    obtain ⟨hshown, rfl⟩ := Instant.after?_eq_some_iff.1 hdeadline
    rw [Instant.after?_isSome_iff_showable] at hshown
    rw [hwrites] at hok
    exact hholds.onTime hshown hpath hpoll hlevel hdrift hrunning hok hnaps
  · intro hdepulse call hcall
    exact KeepCall.depulses hpath hdepulse (hholds.calls_held call hcall) level

/-- A fan that runs free for two seconds in each period of seven: in twelve seconds there
    are two calls. -/
theorem depulsed_scheduled :
    let fan : Fan := .thinkpad { path := "fan", initialLevel := "auto", depulse := .ofSeconds 2 }
    let m : Machine := { files := (∅ : Registry ByteArray).set "fan" ByteArray.empty }
    let held :=
      (hold 3 fan (.numeric 3) (.ofSeconds 5) (some (m.clock.after (.ofSeconds 12)))).run
    ∃ calls fan', held.value m = .ok (fan', .ok ()) ∧ calls.length = 2 ∧
      OnTime (.ofSeconds 5) fan.depulse m.clock (.ofSeconds 12) calls (held.after m).clock := by
  intro fan m held
  have hquiet : m.Quiet := ⟨rfl, rfl, rfl⟩
  have hready : fan.Ready := ⟨by decide, rfl⟩
  have hok : ∀ w ∈ writesIn (held.trace m), w.result = .ok () := by
    intro w hw
    have hkept := hold_kept 3 hready (.numeric 3) (.ofSeconds 5)
      (some (m.clock.after (.ofSeconds 12))) m
    obtain ⟨c, hc, hpath, -⟩ := hkept.makes w hw
    have hfan : w.path = "fan" := by
      rw [hpath]
      simp only [fan, Fan.commands, List.mem_cons, List.not_mem_nil, or_false] at hc
      rcases hc with rfl | rfl | rfl <;> rfl
    refine (held.run_quiet hquiet).2.2 w hw ?_
    rw [hfan, Registry.get?_set, if_pos rfl]
    rfl
  obtain ⟨calls, ending, -, -, hdue, -⟩ := @hold_scheduled fan (by decide) (.numeric 3)
    (.ofSeconds 5) (by decide) (some (m.clock.after (.ofSeconds 12))) 3 m
  obtain ⟨-, ⟨fan', hr⟩, honTime⟩ := hdue (.ofSeconds 12) _ (if_pos (by decide)) rfl trivial rfl
    ⟨rfl, fun _ hc => absurd hc List.not_mem_nil⟩ hok (by decide)
  exact ⟨calls, fan', hr, honTime.count.trans (by decide), honTime⟩

/-- A nap of two minutes, begun 21 seconds before the end of what the clock can show. The hold
    does not end well, though no write fails and it is told to stop after a second. -/
theorem distant_nap_overflows :
    let fan : Fan := .thinkpad { path := "fan", initialLevel := "auto" }
    let m : Machine := {
      files := (∅ : Registry ByteArray).set "fan" ByteArray.empty
      clock := Instant.after ⟨0⟩ (.ofSeconds 9223372036854775786)
      pending := [(Instant.after ⟨0⟩ (.ofSeconds 9223372036854775787), .stop)] }
    let held := (hold 2 fan (.numeric 3) (.ofSeconds 120) none).run
    m.drift = 0 ∧ m.StopsBy (m.clock.after (.ofSeconds 1)) ∧
      (∀ w ∈ writesIn (held.trace m), w.result = .ok ()) ∧
      held.value m = .error .overflow := by
  intro fan m held
  refine ⟨rfl, ⟨?_, .inr ⟨[], _, [], rfl, ?_, nofun⟩⟩, ?_, ?_⟩
  · decide
  · decide
  · decide
  · decide

end Session

end Cooling
