-- SUMMARY: When the commands to a held ThinkPad fan come fast enough for its watchdog, and for which configurations they do not.
import Mathlib.Data.List.Chain
import Mathlib.Tactic.TFAE
import Cooling.Proofs.HandBack
import Cooling.Proofs.Validity

/-!
# Feeding the watchdog

A level that is written to the control file of a ThinkPad fan feeds its watchdog.
While a fan is held, a level is written in the first place, then at the end of each
nap after which the watchdog could run out before the end of the next one, and, with
depulsing, twice for each nap.

A poll interval and a depulse time that are shorter than the timeout of the watchdog
are what it takes for the levels to come in time. A configuration is checked for less:
the poll interval is only compared with the greatest timeout there is, and it may be
as long as that.
-/

namespace Cooling

open Program

/-! ## Levels that are written -/

/-- The bytes with which a command that sets a level starts. -/
def levelCommand : List UInt8 := "level ".toUTF8.data.toList

/-- The write fed the watchdog of the fan behind a control file: it set a level. -/
def Write.feeds (path : String) (w : Write) : Bool :=
  w.path == path && w.result.isOk && levelCommand.isPrefixOf w.contents.data.toList

/-- When the watchdog was fed. -/
def feedings (path : String) (ws : List Write) : List Instant :=
  (ws.filter (·.feeds path)).map (·.time)

@[simp] theorem feedings_nil (path : String) : feedings path [] = [] := rfl

@[simp] theorem feedings_append (path : String) (vs ws : List Write) :
    feedings path (vs ++ ws) = feedings path vs ++ feedings path ws := by
  simp [feedings]

theorem feedings_cons (path : String) (w : Write) (ws : List Write) :
    feedings path (w :: ws) = feedings path [w] ++ feedings path ws :=
  feedings_append path [w] ws

theorem feedings_singleton (path : String) (w : Write) :
    feedings path [w] = if w.feeds path then [w.time] else [] := by
  unfold feedings
  rw [List.filter_singleton]
  cases w.feeds path <;> rfl

theorem levelCommand_isPrefixOf (argument : String) :
    levelCommand.isPrefixOf ("level " ++ argument).toUTF8.data.toList = true := by
  simp [levelCommand]

theorem levelCommand_not_isPrefixOf (argument : String) :
    levelCommand.isPrefixOf ("watchdog " ++ argument).toUTF8.data.toList = false := by
  have hwatchdog : ("watchdog " ++ argument).toUTF8.data.toList =
      "watchdog ".toUTF8.data.toList ++ argument.toUTF8.data.toList := by
    simp
  rw [hwatchdog]
  rfl

@[simp] theorem feedings_level (t : Instant) (path argument : String) :
    feedings path [.ofText t path ("level " ++ argument) (.ok ())] = [t] := by
  have hfeeds : (Write.ofText t path ("level " ++ argument) (.ok ())).feeds path = true := by
    unfold Write.feeds Write.ofText
    rw [levelCommand_isPrefixOf, beq_self_eq_true]
    rfl
  rw [feedings_singleton, hfeeds]
  rfl

@[simp] theorem feedings_error (t : Instant) (path text : String) (e : OsError) :
    feedings path [.ofText t path text (.error e)] = [] := by
  have hfeeds : (Write.ofText t path text (.error e)).feeds path = false := by
    unfold Write.feeds Write.ofText
    rw [beq_self_eq_true]
    rfl
  rw [feedings_singleton, hfeeds]
  rfl

@[simp] theorem feedings_watchdog (t : Instant) (path argument : String)
    (result : Except OsError Unit) :
    feedings path [.ofText t path ("watchdog " ++ argument) result] = [] := by
  have hfeeds : (Write.ofText t path ("watchdog " ++ argument) result).feeds path = false := by
    unfold Write.feeds Write.ofText
    rw [levelCommand_not_isPrefixOf, Bool.and_false]
  rw [feedings_singleton, hfeeds]
  rfl

theorem Level.text_eq (level : Level) : ∃ argument, level.text = "level " ++ argument := by
  cases level with
  | numeric n => exact ⟨_, rfl⟩
  | named name => exact ⟨_, rfl⟩

@[simp] theorem feedings_text (t : Instant) (path : String) (level : Level) :
    feedings path [.ofText t path level.text (.ok ())] = [t] := by
  obtain ⟨argument, h⟩ := level.text_eq
  rw [h, feedings_level]

/-- A write to the file was refused. -/
def Refused (path : String) (ws : List Write) : Prop :=
  ∃ w ∈ ws, w.path = path ∧ ∃ e, w.result = .error e

theorem refused_error (t : Instant) (path text : String) (e : OsError) :
    Refused path [.ofText t path text (.error e)] :=
  ⟨_, .head _, rfl, e, rfl⟩

theorem Refused.append_left {path : String} {ws : List Write} (h : Refused path ws)
    (vs : List Write) : Refused path (vs ++ ws) := by
  obtain ⟨w, hw, hrefused⟩ := h
  exact ⟨w, List.mem_append_right _ hw, hrefused⟩

theorem Refused.append_right {path : String} {vs : List Write} (h : Refused path vs)
    (ws : List Write) : Refused path (vs ++ ws) := by
  obtain ⟨w, hw, hrefused⟩ := h
  exact ⟨w, List.mem_append_left _ hw, hrefused⟩

/-- On a quiet machine no write to a file that is there is refused. -/
theorem Program.not_refused (x : Program α) {m : Machine} (hm : m.Quiet) {path : String}
    (hfile : (m.files.get? path).isSome) :
    x.wp (fun _ _ es => ¬Refused path (writesIn es)) m := by
  rintro ⟨w, hw, rfl, e, he⟩
  obtain ⟨-, -, hwrites⟩ := x.run_quiet hm
  rw [hwrites w hw hfile] at he
  cases he

/-- The second instant comes less than a time after the first one. -/
def Within (gap : Nat) (s t : Instant) : Prop := t.nanos < s.nanos + gap

/-- A chain goes on from its last element. -/
theorem isChain_after {R : Instant → Instant → Prop} {t : Instant} {ts us : List Instant}
    (hts : (t :: ts).IsChain R) (hus : (ts.getLastD t :: us).IsChain R) :
    (t :: (ts ++ us)).IsChain R := by
  induction ts generalizing t with
  | nil => exact hus
  | cons s ts ih =>
    rw [List.isChain_cons_cons] at hts
    rw [List.cons_append, List.isChain_cons_cons]
    rw [List.getLastD_cons] at hus
    exact ⟨hts.1, ih hts.2 hus⟩

/-! ## Levels that come in time -/

namespace ThinkpadFan

variable {fan : ThinkpadFan} {last : Instant} {m : Machine} {drift : Nat}

/-- A watchdog that is not due outlasts the next nap. -/
theorem lt_of_not_watchdogDue {now : Instant} (hlast : fan.lastPing = some last)
    (h : fan.watchdogDue now = false) :
    now.nanos + fan.pollInterval.nanos < last.nanos + fan.watchdog.nanos := by
  unfold watchdogDue at h
  rw [hlast] at h
  simp only at h
  split at h
  · rename_i next expiry hnext hexpiry
    have hnext' := (Option.ite_none_right_eq_some.1 hnext).2
    have hexpiry' := (Option.ite_none_right_eq_some.1 hexpiry).2
    cases hnext'
    cases hexpiry'
    exact Nat.lt_of_not_le (of_decide_eq_false h)
  · cases h

/-- Keeping a level feeds the watchdog in time, and leaves it outlasting the next nap. -/
theorem keep_feeds (hpath : '\x00' ∉ fan.path.toList) (hlast : fan.lastPing = some last)
    (hpoll : fan.pollInterval.nanos < fan.watchdog.nanos)
    (hdepulse : fan.depulse.nanos < fan.watchdog.nanos) (level : Level)
    (hclock : m.clock.nanos < last.nanos + (fan.watchdog.nanos + drift))
    (hdrift : m.drift ≤ drift) :
    (fan.keep level).run.wp (fun r m' es => m'.drift ≤ drift ∧
      match r with
      | .ok fan' =>
        let next := (feedings fan.path (writesIn es)).getLastD last
        fan' = { fan with lastPing := some next } ∧
          m'.clock.nanos + fan.pollInterval.nanos < next.nanos + fan.watchdog.nanos ∧
          (last :: feedings fan.path (writesIn es)).IsChain (Within (fan.watchdog.nanos + drift))
      | .error _ =>
        (last :: (feedings fan.path (writesIn es) ++ [m'.clock])).IsChain
          (Within (fan.watchdog.nanos + drift))) m := by
  by_cases hzero : fan.depulse = .zero
  · refine wp_mono (keep_steady hpath hzero level m) ?_
    rintro r m' es ⟨htiming, h⟩
    refine ⟨Nat.le_trans htiming.elapses.drift_le hdrift, ?_⟩
    rw [htiming.clock]
    split at h
    · obtain ⟨result, hwrites, rfl⟩ := h
      rw [hwrites]
      cases result with
      | ok a =>
        rw [feedings_text]
        refine ⟨rfl, ?_, .cons_cons hclock (.singleton _)⟩
        simpa using hpoll
      | error e =>
        rw [feedings_error]
        exact .cons_cons hclock (.singleton _)
    · rename_i hdue
      obtain ⟨hwrites, rfl⟩ := h
      rw [hwrites]
      refine ⟨?_, lt_of_not_watchdogDue hlast (Bool.eq_false_iff.2 hdue), .singleton _⟩
      change fan = { fan with lastPing := some last }
      rw [← hlast]
  · refine wp_mono (keep_depulsing hpath hzero level m) ?_
    rintro r m' es (⟨e, hwrites, htiming, rfl⟩ | ⟨result, hwrites, helapses, rfl⟩)
    · refine ⟨Nat.le_trans htiming.elapses.drift_le hdrift, ?_⟩
      rw [htiming.clock, hwrites, feedings_error]
      exact .cons_cons hclock (.singleton _)
    · have hle := helapses.drift_le
      have htotal := helapses.total
      have hfree : Within (fan.watchdog.nanos + drift) m.clock m'.clock := by
        unfold Within
        omega
      refine ⟨Nat.le_trans hle hdrift, ?_⟩
      rw [hwrites, feedings_cons]
      have hfirst := feedings_level m.clock fan.path "disengaged"
      have htext : ("level disengaged" : String) = "level " ++ "disengaged" := by decide
      rw [htext, hfirst]
      cases result with
      | ok a =>
        rw [feedings_text]
        refine ⟨rfl, ?_, .cons_cons hclock (.cons_cons hfree (.singleton _))⟩
        simpa using hpoll
      | error e =>
        rw [feedings_error]
        exact .cons_cons hclock (.cons_cons hfree (.singleton _))

end ThinkpadFan

namespace Session

variable {fan : ThinkpadFan} {last : Instant} {m : Machine} {drift : Nat}

/-- While a fan is held whose watchdog outlasts the next nap, the watchdog is fed in
    time, up to the end of the hold. -/
theorem keepHolding_feeds (naps : Nat) (fan : ThinkpadFan) (hpath : '\x00' ∉ fan.path.toList)
    (hlast : fan.lastPing = some last) (hpoll : fan.pollInterval.nanos < fan.watchdog.nanos)
    (hdepulse : fan.depulse.nanos < fan.watchdog.nanos) (level : Level)
    (deadline? : Option Instant)
    (hclock : m.clock.nanos + fan.pollInterval.nanos < last.nanos + fan.watchdog.nanos)
    (hdrift : m.drift ≤ drift) :
    (keepHolding level fan.pollInterval deadline? naps (.thinkpad fan)).run.wp (fun _ m' es =>
      (last :: (feedings fan.path (writesIn es) ++ [m'.clock])).IsChain
        (Within (fan.watchdog.nanos + drift))) m := by
  induction naps generalizing fan last m with
  | zero =>
    have hend : Within (fan.watchdog.nanos + drift) last m.clock := by
      unfold Within
      omega
    exact .cons_cons hend (.singleton _)
  | succ naps ih =>
    unfold keepHolding
    rw [wp_run_bind, wp_run_lift, Program.now, wp_request]
    dsimp only
    split
    · have hend : Within (fan.watchdog.nanos + drift) last m.clock := by
        unfold Within
        omega
      exact .cons_cons hend (.singleton _)
    · rename_i nap hnap
      have hle := nap?_le hnap
      have hquiet := (asks_sleepWhileRunning nap).writesIn_eq_nil (by decide) (m.serve .now).2
      rw [wp_run_bind]
      refine wp_mono (Q := fun awake m' es => Slept nap (m.serve .now).2 awake m' es ∧
        writesIn es = []) ⟨sleepWhileRunning_slept nap _, hquiet⟩ ?_
      rintro awake m₁ es ⟨hslept, hes⟩
      have hlate : m₁.clock.nanos + m₁.drift ≤ m.clock.nanos + nap.nanos + m.drift :=
        hslept.clock_le
      have hwithin : Within (fan.watchdog.nanos + drift) last m₁.clock := by
        unfold Within
        omega
      rcases awake with b | _ | _
      · simp only [writesIn_append, writesIn_now, hes, feedings_nil, List.nil_append]
        exact .cons_cons hwithin (.singleton _)
      · simp only [Bool.false_eq_true, if_false, wp_run_pure, writesIn_append, writesIn_now, hes,
          writesIn_nil, feedings_nil, List.nil_append]
        exact .cons_cons hwithin (.singleton _)
      · dsimp only
        rw [if_pos rfl, wp_run_bind, wp_run_lift]
        have hdrift' : m₁.drift ≤ drift :=
          Nat.le_trans hslept.paused_of_ok.elapses.drift_le hdrift
        have hkeep := ThinkpadFan.keep_feeds hpath hlast hpoll hdepulse level hwithin hdrift'
        change (ExceptT.run (Fan.thinkpad <$> fan.keep level)).wp _ m₁
        rw [wp_run_map]
        refine wp_mono hkeep ?_
        rintro r m₂ fs ⟨hdrift'', h⟩
        cases r with
        | error f =>
          simp only [Except.map, wp_run_pure, writesIn_append, writesIn_now, hes, writesIn_nil,
            List.append_nil, List.nil_append]
          exact h
        | ok fan' =>
          obtain ⟨rfl, hnext, hchain⟩ := h
          simp only [Except.map]
          refine wp_mono (ih { fan with lastPing := some _ } hpath rfl hpoll hdepulse
            hnext hdrift'') fun _ m₃ gs hgs => ?_
          simp only [writesIn_append, writesIn_now, hes, List.nil_append, feedings_append,
            List.append_assoc]
          exact isChain_after hchain hgs

/-- Taking a fan over and setting its level takes no time. -/
theorem startHolding_feeds (hpath : '\x00' ∉ fan.path.toList) (level : Level) (m : Machine) :
    (startHolding (.thinkpad fan) level).run.wp (fun r m' es => m.SameTiming m' ∧
      match r with
      | .ok fan' => fan' = .thinkpad { fan with lastPing := some m.clock } ∧
          feedings fan.path (writesIn es) = [m.clock]
      | .error _ => feedings fan.path (writesIn es) = [] ∧ Refused fan.path (writesIn es)) m := by
  unfold startHolding
  rw [wp_run_bind]
  refine wp_mono (ThinkpadFan.takeOver_once hpath m) ?_
  rintro r m₁ es ⟨htiming, result, hwrites, rfl⟩
  have hes : feedings fan.path (writesIn es) = [] := by
    rw [hwrites]
    exact feedings_watchdog ..
  cases result with
  | error e => exact ⟨htiming, hes, hwrites ▸ refused_error ..⟩
  | ok a =>
    rw [mapError_ok]
    dsimp only
    rw [wp_run_bind]
    change (ExceptT.run (Fan.thinkpad <$> fan.setSpeed level)).wp _ m₁
    rw [wp_run_map]
    refine wp_mono (ThinkpadFan.setSpeed_once hpath level m₁) ?_
    rintro r m₂ fs ⟨htiming', result, hwrites', rfl⟩
    have hclock := htiming.clock
    cases result with
    | error e =>
      refine ⟨htiming.trans htiming', ?_, ?_⟩
      · rw [writesIn_append, feedings_append, hes, hwrites', feedings_error]
        rfl
      · rw [writesIn_append, hwrites']
        exact (refused_error ..).append_left _
    | ok a =>
      simp only [Except.map]
      rw [wp_run_bind, wp_run_lift, Program.log, wp_request, wp_run_pure]
      refine ⟨(htiming.trans htiming').trans (m₂.sameTiming_log _ _), by rw [hclock], ?_⟩
      simp only [writesIn_append, writesIn_log, List.append_nil, feedings_append, hes, hwrites',
        hclock, List.nil_append]
      exact feedings_text ..

/-- A hold feeds the watchdog in time, up to its end. -/
theorem hold_feeds (naps : Nat) (hpath : '\x00' ∉ fan.path.toList)
    (hpoll : fan.pollInterval.nanos < fan.watchdog.nanos)
    (hdepulse : fan.depulse.nanos < fan.watchdog.nanos) (level : Level)
    (deadline? : Option Instant) (m : Machine) :
    (hold naps (.thinkpad fan) level fan.pollInterval deadline?).run.wp (fun _ m' es =>
      (feedings fan.path (writesIn es) ++ [m'.clock]).IsChain
        (Within (fan.watchdog.nanos + m.drift))) m := by
  unfold hold
  rw [wp_run_bind, wp_run_lift]
  refine wp_mono (startHolding_feeds hpath level m) ?_
  rintro r m₁ es ⟨htiming, h⟩
  cases r with
  | error f =>
    simp only [wp_run_pure, List.append_nil]
    rw [h.1]
    exact .singleton _
  | ok fan' =>
    obtain ⟨rfl, hes⟩ := h
    have hclock : m₁.clock.nanos + fan.pollInterval.nanos <
        m.clock.nanos + fan.watchdog.nanos := by
      rw [htiming.clock]
      omega
    refine wp_mono (keepHolding_feeds naps { fan with lastPing := some m.clock } hpath rfl
      hpoll hdepulse level deadline? hclock htiming.elapses.drift_le) fun _ m₂ fs hfs => ?_
    rw [writesIn_append, feedings_append, hes]
    exact hfs

theorem holdAndHandBack_feeds (patience : Nat) (hready : Fan.Ready (.thinkpad fan))
    (hpoll : fan.pollInterval.nanos < fan.watchdog.nanos)
    (hdepulse : fan.depulse.nanos < fan.watchdog.nanos) (level : Level)
    (deadline? : Option Instant) (m : Machine) :
    (holdAndHandBack patience (.thinkpad fan) level fan.pollInterval deadline?).run.wp
      (fun _ _ es => (feedings fan.path (writesIn es)).IsChain
        (Within (fan.watchdog.nanos + m.drift))) m := by
  have hhold : List.IsChain _ _ := hold_feeds patience hready.1 hpoll hdepulse level deadline? m
  refine wp_mono (holdAndHandBack_spec patience hready level fan.pollInterval deadline? m) ?_
  rintro r m' es ⟨restored, hwrites, -⟩
  rw [hwrites, feedings_append]
  cases restored with
  | ok a =>
    have hrestore := feedings_level ((hold patience (.thinkpad fan) level fan.pollInterval
      deadline?).run.after m).clock fan.path fan.initialLevel
    exact hrestore ▸ hhold
  | error e =>
    have hrestore := feedings_error ((hold patience (.thinkpad fan) level fan.pollInterval
      deadline?).run.after m).clock fan.path (Fan.restoreText (.thinkpad fan)) e
    have hfront := (List.isChain_append.1 hhold).1
    exact hrestore.symm ▸ (List.append_nil _).symm ▸ hfront

/-! ## Levels that come too late -/

/-- After a nap of one poll interval, keeping the level is too late for a watchdog that
    is no longer than that, and depulsing for one that is no longer than the depulse time. -/
theorem keep_late (fan : ThinkpadFan) (hpath : '\x00' ∉ fan.path.toList)
    (hlast : fan.lastPing = some last)
    (hclock : last.nanos + fan.pollInterval.nanos ≤ m.clock.nanos) (level : Level)
    (hslow : fan.watchdog.nanos ≤ fan.pollInterval.nanos ∨
      fan.watchdog.nanos ≤ fan.depulse.nanos) :
    (fan.keep level).run.wp (fun r _ es => ¬Refused fan.path (writesIn es) →
      r.isOk = true ∧
        ¬(last :: feedings fan.path (writesIn es)).IsChain (Within fan.watchdog.nanos)) m := by
  by_cases hzero : fan.depulse = .zero
  · have hnap : fan.watchdog.nanos ≤ fan.pollInterval.nanos := by
      rw [hzero] at hslow
      simp only [Duration.nanos_zero] at hslow
      omega
    refine wp_mono (ThinkpadFan.keep_steady hpath hzero level m) ?_
    rintro r m' es ⟨-, h⟩ hnone
    have hdue : fan.watchdogDue m.clock = true := by
      by_contra hnot
      have hlt := ThinkpadFan.lt_of_not_watchdogDue hlast (Bool.eq_false_iff.2 hnot)
      omega
    rw [if_pos hdue] at h
    obtain ⟨result, hwrites, rfl⟩ := h
    cases result with
    | error e => exact absurd (hwrites ▸ refused_error ..) hnone
    | ok a =>
      refine ⟨rfl, fun hchain => ?_⟩
      rw [hwrites, feedings_text, List.isChain_cons_cons] at hchain
      have hwithin := hchain.1
      unfold Within at hwithin
      omega
  · refine wp_mono (ThinkpadFan.keep_depulsing hpath hzero level m) ?_
    rintro r m' es (⟨e, hwrites, -⟩ | ⟨result, hwrites, helapses, rfl⟩) hnone
    · exact absurd (hwrites ▸ refused_error ..) hnone
    · cases result with
      | error e =>
        refine absurd (hwrites ▸ ?_) hnone
        exact (refused_error ..).append_left [.ofText m.clock fan.path "level disengaged" (.ok ())]
      | ok a =>
        refine ⟨rfl, fun hchain => ?_⟩
        have htext : ("level disengaged" : String) = "level " ++ "disengaged" := by decide
        rw [hwrites, feedings_cons, htext, feedings_level, feedings_text, List.singleton_append,
          List.isChain_cons_cons, List.isChain_cons_cons] at hchain
        obtain ⟨hnap, hfree, -⟩ := hchain
        have hforward := helapses.forward
        unfold Within at hnap hfree
        omega

/-- On a quiet machine the first nap alone lets a watchdog run out that is no longer than
    a poll interval or than the depulse time. -/
theorem hold_late (hpath : '\x00' ∉ fan.path.toList) (hm : m.Quiet)
    (hfile : (m.files.get? fan.path).isSome) (hend : (m.clock.after? fan.pollInterval).isSome)
    (level : Level)
    (hslow : fan.watchdog.nanos ≤ fan.pollInterval.nanos ∨
      fan.watchdog.nanos ≤ fan.depulse.nanos) :
    (hold 1 (.thinkpad fan) level fan.pollInterval none).run.wp (fun _ _ es =>
      ¬(feedings fan.path (writesIn es)).IsChain (Within fan.watchdog.nanos)) m := by
  suffices h : (hold 1 (.thinkpad fan) level fan.pollInterval none).run.wp (fun _ _ es =>
      ¬Refused fan.path (writesIn es) →
        ¬(feedings fan.path (writesIn es)).IsChain (Within fan.watchdog.nanos)) m from
    h (Program.not_refused _ hm hfile)
  unfold hold
  rw [wp_run_bind, wp_run_lift]
  refine wp_mono (wp_and (startHolding_feeds hpath level m) (run_quiet _ hm)) ?_
  rintro r m₁ es ⟨⟨htiming, h⟩, hquiet, -⟩
  cases r with
  | error f =>
    intro hnone
    rw [writesIn_append] at hnone
    exact absurd (h.2.append_right _) hnone
  | ok fan' =>
    obtain ⟨rfl, hes⟩ := h
    unfold keepHolding
    dsimp only
    rw [wp_run_bind, wp_run_lift, Program.now, wp_request]
    dsimp only [nap?]
    rw [wp_run_bind]
    obtain ⟨hquiet', -⟩ := hquiet.serve .now
    have hsleep := (asks_sleepWhileRunning fan.pollInterval).writesIn_eq_nil (by decide)
      (m₁.serve .now).2
    refine wp_mono (wp_and (wp_and (sleepWhileRunning_slept _ _) (run_quiet _ hquiet'))
      (R := fun _ _ es => writesIn es = []) hsleep) ?_
    rintro awake m₂ fs ⟨⟨hslept, hquiet₂, -⟩, hfs⟩
    rw [← htiming.clock] at hend
    obtain ⟨awake, rfl, hpaused⟩ := hslept.paused_of_isSome hend
    obtain rfl : awake = true := hpaused.running.trans hquiet₂.running
    have hreached : m₁.clock.nanos + fan.pollInterval.nanos ≤ m₂.clock.nanos := hpaused.reached rfl
    rw [htiming.clock] at hreached
    dsimp only
    rw [if_pos rfl, wp_run_bind, wp_run_lift]
    change (ExceptT.run (Fan.thinkpad <$> ThinkpadFan.keep _ level)).wp _ m₂
    rw [wp_run_map]
    refine wp_mono (keep_late { fan with lastPing := some m.clock } hpath rfl hreached
      level hslow) ?_
    rintro r m₃ gs hgs
    have hwrites : writesIn (es ++ ([m₁.entry .now] ++ (fs ++ (gs ++ [])))) =
        writesIn es ++ writesIn gs := by
      simp only [writesIn_append, writesIn_now, hfs, List.nil_append, List.append_nil]
    cases r with
    | error f =>
      change ¬Refused fan.path (writesIn (es ++ ([m₁.entry .now] ++ (fs ++ (gs ++ []))))) → _
      rw [hwrites]
      intro hnone
      have hok := (hgs fun h => hnone (h.append_left _)).1
      cases hok
    | ok fan' =>
      change ¬Refused fan.path (writesIn (es ++ ([m₁.entry .now] ++ (fs ++ (gs ++ []))))) →
        ¬(feedings fan.path (writesIn (es ++ ([m₁.entry .now] ++ (fs ++ (gs ++ [])))))).IsChain _
      rw [hwrites, feedings_append, hes]
      intro hnone
      exact (hgs fun h => hnone (h.append_left _)).2

/-! ## Sessions -/

end Session

/-- In sessions with the configuration on such machines, the watchdog is fed in time: from
    one feeding to the next it takes less than its timeout, and what changes from outside
    move the clock. -/
def Config.FeedsInTime (c : Config) (P : Machine → Prop) : Prop :=
  ∀ (patience : Nat) (path : String) (level : Level) (seconds? : Option Nat) (m : Machine), P m →
    ∀ fan m₁, (Session.prepareFan path).run.run m = (.ok (c, fan), m₁) →
      (Session.runFan patience path level seconds?).run.wp (fun _ _ es =>
        (feedings c.fan.path (writesIn es)).IsChain (Within (c.watchdog.nanos + m.drift))) m

/-- What it takes to feed the watchdog in time. -/
structure Config.Outpaces (c : Config) : Prop where
  pollInterval : c.pollInterval.nanos < c.watchdog.nanos
  depulse : c.depulse.nanos < c.watchdog.nanos

namespace Session

/-- What a session writes that found its fan, it writes after that. -/
theorem runFan_prepared {patience : Nat} {path : String} {level : Level} {seconds? : Option Nat}
    {m m₁ : Machine} {c : Config} {fan : Fan} {Q : List Write → Prop}
    (hrun : (prepareFan path).run.run m = (.ok (c, fan), m₁)) :
    (runFan patience path level seconds?).run.wp (fun _ _ es => Q (writesIn es)) m ↔
      (deadlineAfter fan seconds? >>= fun deadline? =>
        holdAndHandBack patience fan level c.pollInterval deadline?).run.wp
          (fun _ _ es => Q (writesIn es)) m₁ := by
  have hnone : writesIn ((prepareFan path).run.trace m) = [] := (prepareFan_spec path m).2.1
  rw [runFan_eq, wp_run_bind]
  unfold wp
  rw [value, after, hrun]
  simp only [writesIn_append, hnone, List.nil_append]

theorem feedsInTime_of_outpaces {c : Config} (hkind : c.fan.kind = .thinkpad) (hc : c.Outpaces) :
    c.FeedsInTime fun _ => True := by
  intro patience path level seconds? m _ fan m₁ hrun
  have hspec := prepareFan_spec path m
  unfold wp at hspec
  rw [value, after, hrun] at hspec
  obtain ⟨htiming, -, hdescribes⟩ := hspec
  have hfan := hdescribes c fan rfl
  have hready := hfan.ready
  rw [runFan_prepared (Q := fun ws => (feedings c.fan.path ws).IsChain _) hrun, wp_run_bind]
  refine wp_mono (deadlineAfter_spec hready seconds? m₁) ?_
  rintro r m₂ es ⟨htiming', h⟩
  cases r with
  | error breakdown =>
    obtain ⟨s, -, -, -, time, restored, hes⟩ := h
    dsimp only
    rw [hes, feedings_singleton]
    split
    · exact .singleton _
    · exact .nil
  | ok deadline? =>
    cases fan with
    | pwm fan => cases hfan.1.symm.trans hkind
    | thinkpad fan =>
      obtain ⟨-, hpath, -, hwatchdog, hdepulse, hpoll, -, -⟩ := hfan
      have hdrift : m₂.drift = m.drift := by
        unfold Machine.drift
        rw [htiming'.pending, htiming.pending]
      have hfeeds := holdAndHandBack_feeds patience hready (hwatchdog ▸ hpoll ▸ hc.pollInterval)
        (hwatchdog ▸ hdepulse ▸ hc.depulse) level deadline? m₂
      rw [hpath, hwatchdog, hpoll, hdrift] at hfeeds
      refine wp_mono hfeeds fun _ m₃ fs hfs => ?_
      rw [writesIn_append, h.1, List.nil_append]
      exact hfs

/-- A quiet machine with a configuration, under the path of the fan and one more
    character, and the fan that it names. -/
def bench (text fanPath : String) : Machine :=
  { files := ((∅ : Registry ByteArray).set (fanPath ++ "_") text.toUTF8).set fanPath
      ThinkpadStatus.bare.toUTF8 }

theorem bench_quiet (text fanPath : String) : (bench text fanPath).Quiet := ⟨rfl, rfl, rfl⟩

theorem bench_status (text fanPath : String) :
    (bench text fanPath).files.get? fanPath = some ThinkpadStatus.bare.toUTF8 := by
  unfold bench
  rw [Registry.get?_set, if_pos rfl]

theorem bench_config (text fanPath : String) :
    (bench text fanPath).files.get? (fanPath ++ "_") = some text.toUTF8 := by
  have hother : fanPath ++ "_" ≠ fanPath := by
    intro h
    have hlength := congrArg String.length h
    rw [String.length_append] at hlength
    exact absurd (Nat.left_eq_add.1 hlength.symm) (by decide)
  unfold bench
  rw [Registry.get?_set, if_neg hother, Registry.get?_set, if_pos rfl]

/-- The clock of that machine can show the end of a poll interval. -/
theorem bench_shows {text fanPath : String} {c : Config} (hc : c.Valid) :
    ((bench text fanPath).clock.after? c.pollInterval).isSome := by
  have hclock : (bench text fanPath).clock.nanos = 1000000000000 := rfl
  have hpoll := hc.pollInterval.2
  rw [Instant.after?_isSome_iff, hclock, Config.pollInterval, Duration.nanos_ofSeconds,
    Instant.secondsEnd]
  omega

theorem outpaces_of_feedsInTime {text : String} {c : Config} (htext : Config.ofText text = .ok c)
    (hkind : c.fan.kind = .thinkpad) (hpath : '\x00' ∉ c.fan.path.toList)
    (hc : c.FeedsInTime Machine.Quiet) : c.Outpaces := by
  by_contra hnot
  have hslow : c.watchdog.nanos ≤ c.pollInterval.nanos ∨ c.watchdog.nanos ≤ c.depulse.nanos := by
    by_contra hfast
    rw [not_or, Nat.not_le, Nat.not_le] at hfast
    exact hnot ⟨hfast.1, hfast.2⟩
  have hquiet := bench_quiet text c.fan.path
  have hconfigPath : '\x00' ∉ (c.fan.path ++ "_").toList := by
    simp [hpath]
  obtain ⟨fan, hfan⟩ := prepareFan_quiet hquiet rfl htext hkind hconfigPath hpath
    (bench_config text c.fan.path) (bench_status text c.fan.path)
  obtain ⟨hquiet₁, hfiles, -⟩ := (prepareFan (c.fan.path ++ "_")).run.run_quiet hquiet
  obtain ⟨htiming, -, hdescribes⟩ := prepareFan_spec (c.fan.path ++ "_") (bench text c.fan.path)
  replace hdescribes := hdescribes c fan hfan
  generalize hm₁ : (prepareFan (c.fan.path ++ "_")).run.after (bench text c.fan.path) = m₁
  rw [hm₁] at hquiet₁ hfiles htiming
  have hsession := hc 1 (c.fan.path ++ "_") (.numeric 0) none _ hquiet fan m₁ (Prod.ext hfan hm₁)
  rw [runFan_prepared (Q := fun ws => (feedings c.fan.path ws).IsChain _) (Prod.ext hfan hm₁),
    hquiet.drift_eq, Nat.add_zero] at hsession
  cases fan with
  | pwm fan => exact absurd (hdescribes.1.symm.trans hkind) nofun
  | thinkpad fan =>
    obtain ⟨-, hfanPath, -, hwatchdog, hdepulse, hpoll, -, -⟩ := id hdescribes
    obtain ⟨restored, hwrites, -⟩ := holdAndHandBack_spec 1 hdescribes.ready (.numeric 0)
      c.pollInterval none m₁
    have hchain : (feedings c.fan.path (writesIn ((holdAndHandBack 1 (.thinkpad fan) (.numeric 0)
      c.pollInterval none).run.trace m₁))).IsChain (Within c.watchdog.nanos) := hsession
    rw [hwrites, feedings_append] at hchain
    have hfile : (m₁.files.get? fan.path).isSome := by
      rw [hfanPath]
      exact hfiles c.fan.path (bench_status text c.fan.path ▸ rfl)
    have hend : (m₁.clock.after? fan.pollInterval).isSome := by
      rw [htiming.clock, hpoll]
      exact bench_shows (Config.check_eq_ok.1 (Config.ofText_eq_ok.1 htext).2)
    rw [← hwatchdog, ← hpoll, ← hdepulse] at hslow
    have hlate := hold_late (hfanPath ▸ hpath) hquiet₁ hfile hend (.numeric 0) hslow
    rw [hfanPath, hpoll, hwatchdog] at hlate
    exact hlate (List.isChain_append.1 hchain).1

end Session

namespace Config

/-- The watchdog is fed in time, whatever fails and whatever changes, just if both the poll
    interval and the depulse time are shorter than its timeout. If one of them is not, it
    is not even fed in time where nothing fails and nothing changes. A path with the null
    character is left out, since no fan is ever found there. -/
theorem feedsInTime_iff_outpaces {text : String} {c : Config} (htext : ofText text = .ok c)
    (hkind : c.fan.kind = .thinkpad) (hpath : '\x00' ∉ c.fan.path.toList) :
    [c.Outpaces, c.FeedsInTime (fun _ => True), c.FeedsInTime Machine.Quiet].TFAE := by
  tfae_have 1 → 2 := Session.feedsInTime_of_outpaces hkind
  tfae_have 2 → 3 := fun h patience path level seconds? m _ =>
    h patience path level seconds? m trivial
  tfae_have 3 → 1 := Session.outpaces_of_feedsInTime htext hkind hpath
  tfae_finish

/-- A configuration that makes sense, but is too slow for its watchdog. -/
def lax : Config where
  fan := ⟨.thinkpad, "/proc/acpi/ibm/fan"⟩
  watchdogSecs := 1
  pollIntervalSecs := 2
  sensors := [⟨.hwmon, "/sys/class/hwmon/hwmon0/temp1_input", none⟩]

def laxText : String :=
  "\x7b\"fan\": \x7b\"tp_fan\": \"/proc/acpi/ibm/fan\"\x7d, \"watchdog_secs\": 1, " ++
  "\"poll_interval_secs\": 2, " ++
  "\"sensors\": [\x7b\"hwmon\": \"/sys/class/hwmon/hwmon0/temp1_input\"\x7d]\x7d"

theorem lax_not_feedsInTime :
    ofText laxText = .ok lax ∧ lax.fan.kind = .thinkpad ∧ '\x00' ∉ lax.fan.path.toList ∧
      ¬lax.FeedsInTime Machine.Quiet := by
  have htext : ofText laxText = .ok lax := eq_ok_of_toOption (by decide +kernel)
  have hpath : '\x00' ∉ lax.fan.path.toList := by decide
  refine ⟨htext, rfl, hpath, fun hfeeds => ?_⟩
  have houtpaces := ((feedsInTime_iff_outpaces htext rfl hpath).out 2 0).1 hfeeds
  exact absurd houtpaces.pollInterval (by decide)

end Config

end Cooling
