-- SUMMARY: A ThinkPad fan that is set and kept at levels at any times: when its watchdog was last fed, and that it is fed again in time.
import Cooling.Proofs.Custody
import Cooling.Proofs.Watchdog

/-!
# Steering a fan

A scheduler sets a fan to levels and keeps it there, at times of its own choice. Without
depulsing, keeping a level writes it again only if the watchdog could run out before the
next call. That is safe if no call is later than the fan was told: the calls may come in
any order and fail, the fan always knows when its watchdog was last fed, and it tries
again and again once the watchdog is due.
-/

namespace Cooling

open Program

/-! ## Calls -/

namespace Fan

/-- When the watchdog was last fed. -/
def lastPing : Fan → Option Instant
  | thinkpad fan => fan.lastPing
  | pwm _ => none

/-- Whether the watchdog would run out before the next cycle. -/
def watchdogDue : Fan → Instant → Bool
  | thinkpad fan, now => fan.watchdogDue now
  | pwm _, _ => false

/-- The level of an operation that steers the fan. -/
def Operation.level? : Operation → Option Level
  | setSpeed level | keep level => some level
  | _ => none

end Fan

namespace ThinkpadFan

variable {fan : ThinkpadFan} {m : Machine}

/-- The fan after its watchdog was fed at some times, the last of which counts. -/
def fedAt (fan : ThinkpadFan) (times : List Instant) : ThinkpadFan :=
  { fan with lastPing := times.getLast?.or fan.lastPing }

@[simp] theorem fedAt_nil (fan : ThinkpadFan) : fan.fedAt [] = fan := rfl

theorem fedAt_append (fan : ThinkpadFan) (ts us : List Instant) :
    fan.fedAt (ts ++ us) = (fan.fedAt ts).fedAt us := by
  simp only [fedAt, List.getLast?_append, Option.or_assoc]

/-- An attempt to change the speed gives the fan that it leaves, and how it went. -/
theorem wp_steered {attempt : Attempt ThinkpadFan}
    {Q : Fan × Except Failure Unit → Machine → List Entry → Prop} :
    ((Fan.thinkpad fan).steered <$> (Fan.thinkpad <$> attempt).run).wp Q m ↔
      attempt.run.wp
        (fun r m' es => Q ((Fan.thinkpad fan).steered (r.map Fan.thinkpad)) m' es) m := by
  rw [wp_map, wp_run_map]

theorem wp_perform_setSpeed {level : Level}
    {Q : Fan × Except Failure Unit → Machine → List Entry → Prop} :
    ((Fan.thinkpad fan).perform (.setSpeed level)).wp Q m ↔
      (fan.setSpeed level).run.wp
        (fun r m' es => Q ((Fan.thinkpad fan).steered (r.map Fan.thinkpad)) m' es) m :=
  wp_steered

theorem wp_perform_keep {level : Level}
    {Q : Fan × Except Failure Unit → Machine → List Entry → Prop} :
    ((Fan.thinkpad fan).perform (.keep level)).wp Q m ↔
      (fan.keep level).run.wp
        (fun r m' es => Q ((Fan.thinkpad fan).steered (r.map Fan.thinkpad)) m' es) m :=
  wp_steered

/-- A level that is written feeds the watchdog at once, and one that is refused does not. -/
theorem steered_fed {level : Level} {result : Except OsError Unit}
    {r : Except Failure ThinkpadFan}
    (hr : r = match result with
      | .ok () => .ok { fan with lastPing := some m.clock }
      | .error e => .error (Fan.levelRefused fan.path level.text e)) :
    ((Fan.thinkpad fan).steered (r.map Fan.thinkpad)).1 = .thinkpad (fan.fedAt
        (feedings fan.path [.ofText m.clock fan.path level.text result])) ∧
      (((Fan.thinkpad fan).steered (r.map Fan.thinkpad)).2 = .ok () → result = .ok ()) := by
  rw [hr]
  cases result with
  | error e =>
    rw [feedings_error]
    exact ⟨rfl, nofun⟩
  | ok a =>
    rw [feedings_text]
    exact ⟨rfl, fun _ => rfl⟩

/-- Without depulsing a call takes no time. It writes the level, unless it keeps a level and
    the watchdog is not due, and the watchdog is fed if that succeeds. -/
theorem perform_steers (hpath : '\x00' ∉ fan.path.toList) (hdepulse : fan.depulse = .zero)
    {o : Fan.Operation} {level : Level} (ho : o.level? = some level) (m : Machine) :
    ((Fan.thinkpad fan).perform o).wp (fun r m' es => m.SameTiming m' ∧
      r.1 = .thinkpad (fan.fedAt (feedings fan.path (writesIn es))) ∧
      ((∃ result, writesIn es = [.ofText m.clock fan.path level.text result] ∧
          (r.2 = .ok () → result = .ok ())) ∨
        o = .keep level ∧ fan.watchdogDue m.clock = false ∧ writesIn es = [])) m := by
  cases o with
  | setSpeed l =>
    obtain rfl : l = level := Option.some.inj ho
    rw [wp_perform_setSpeed]
    refine wp_mono (setSpeed_once hpath l m) ?_
    rintro r m' es ⟨htiming, result, hwrites, hr⟩
    obtain ⟨hfan, hok⟩ := steered_fed hr
    rw [hwrites]
    exact ⟨htiming, hfan, .inl ⟨result, rfl, hok⟩⟩
  | keep l =>
    obtain rfl : l = level := Option.some.inj ho
    rw [wp_perform_keep]
    refine wp_mono (keep_steady hpath hdepulse l m) ?_
    rintro r m' es ⟨htiming, h⟩
    refine ⟨htiming, ?_⟩
    split at h
    · obtain ⟨result, hwrites, hr⟩ := h
      obtain ⟨hfan, hok⟩ := steered_fed hr
      rw [hwrites]
      exact ⟨hfan, .inl ⟨result, rfl, hok⟩⟩
    · rename_i hdue
      obtain ⟨hwrites, rfl⟩ := h
      rw [hwrites]
      exact ⟨rfl, .inr ⟨rfl, Bool.eq_false_iff.2 hdue, rfl⟩⟩
  | _ => cases ho

/-- A watchdog is not due if it outlasts the next cycle, and the clock can show both times. -/
theorem watchdogDue_eq_false_iff {now : Instant} :
    fan.watchdogDue now = false ↔ ∃ last next expiry, fan.lastPing = some last ∧
      now.after? fan.pollInterval = some next ∧ last.after? fan.watchdog = some expiry ∧
      next.nanos < expiry.nanos := by
  unfold watchdogDue
  cases fan.lastPing with
  | none => simp
  | some last =>
    cases now.after? fan.pollInterval with
    | none => simp
    | some next => cases hexpiry : last.after? fan.watchdog <;> simp [hexpiry]

/-- A watchdog that is due stays due. -/
theorem watchdogDue_mono {now later : Instant} (hdue : fan.watchdogDue now = true)
    (hle : now.nanos ≤ later.nanos) : fan.watchdogDue later = true := by
  by_contra hnot
  rw [Bool.not_eq_true, watchdogDue_eq_false_iff] at hnot
  obtain ⟨last, next, expiry, hlast, hnext, hexpiry, hlt⟩ := hnot
  obtain ⟨hfits, hnext⟩ := Option.ite_none_right_eq_some.1 hnext
  cases hnext
  have hnow : now.after? fan.pollInterval = some (now.after fan.pollInterval) := by
    refine if_pos (Nat.lt_of_le_of_lt (Nat.div_le_div_right ?_) hfits)
    exact Nat.add_le_add_right hle _
  have hearly : (now.after fan.pollInterval).nanos < expiry.nanos :=
    Nat.lt_of_le_of_lt (Nat.add_le_add_right hle _) hlt
  rw [watchdogDue_eq_false_iff.2 ⟨last, _, expiry, hlast, hnow, hexpiry, hearly⟩] at hdue
  cases hdue

end ThinkpadFan

/-! ## Calls in a row -/

namespace Custody

/-- The operation steers the fan, or the machine changes. -/
def Event.Steers : Event → Prop
  | operation o => o.level?.isSome
  | change _ => True

/-- What is written in all operations. -/
def writes (c : Custody) (events : List Event) : List Write := c.writesOf (fun _ => true) events

/-- When the operations are called. -/
def callTimes (c : Custody) (events : List Event) : List Instant :=
  (c.performed events).map fun p => p.1.machine.clock

theorem writes_append (c : Custody) (events more : List Event) :
    c.writes (events ++ more) = c.writes events ++ (c.after events).writes more :=
  c.writesOf_append _ events more

@[simp] theorem writes_operation (c : Custody) (o : Fan.Operation) (events : List Event) :
    c.writes (.operation o :: events) =
      writesIn (c.trace o) ++ (c.step (.operation o)).writes events :=
  c.writesOf_operation _ o events

theorem writes_singleton (c : Custody) (o : Fan.Operation) :
    c.writes [.operation o] = writesIn (c.trace o) :=
  (c.writes_operation o []).trans (List.append_nil _)

/-- Time goes on from event to event. -/
theorem clock_le_after (c : Custody) (events : List Event) :
    c.machine.clock.nanos ≤ (c.after events).machine.clock.nanos := by
  induction events generalizing c with
  | nil => exact Nat.le_refl _
  | cons e events ih =>
    refine Nat.le_trans ?_ (ih (c.step e))
    cases e with
    | operation o =>
      exact Nat.le_trans (Nat.le_add_right _ _) ((c.fan.perform o).elapses c.machine).forward
    | change change =>
      have hclock := c.machine.change_clock change
      exact hclock ▸ Nat.le_add_right _ _

variable {c : Custody} {fan : ThinkpadFan}

/-- A call feeds the watchdog if it writes a level and that succeeds. -/
theorem step_fed (hfan : c.fan = .thinkpad fan) (hpath : '\x00' ∉ fan.path.toList)
    (hdepulse : fan.depulse = .zero) {e : Event} (he : e.Steers) :
    (c.step e).fan = .thinkpad (fan.fedAt (feedings fan.path (c.writes [e]))) := by
  cases e with
  | change change => exact hfan
  | operation o =>
    obtain ⟨level, ho⟩ := Option.isSome_iff_exists.1 he
    obtain ⟨-, hfed, -⟩ := ThinkpadFan.perform_steers hpath hdepulse ho c.machine
    rw [writes_singleton]
    unfold step trace
    rw [hfan]
    exact hfed

theorem after_fed (hfan : c.fan = .thinkpad fan) (hpath : '\x00' ∉ fan.path.toList)
    (hdepulse : fan.depulse = .zero) {events : List Event} (hsteers : ∀ e ∈ events, e.Steers) :
    (c.after events).fan = .thinkpad (fan.fedAt (feedings fan.path (c.writes events))) := by
  induction events generalizing c fan with
  | nil => exact hfan
  | cons e events ih =>
    obtain ⟨he, hevents⟩ := List.forall_mem_cons.1 hsteers
    have hstep := step_fed hfan hpath hdepulse he
    have hwrites : c.writes (e :: events) = c.writes [e] ++ (c.step e).writes events :=
      c.writes_append [e] events
    rw [after_cons, ih hstep hpath hdepulse hevents, hwrites, feedings_append,
      ThinkpadFan.fedAt_append]
    rfl

/-- A level that is kept while the watchdog is due is written. -/
theorem writes_of_due (hfan : c.fan = .thinkpad fan) (hpath : '\x00' ∉ fan.path.toList)
    (hdepulse : fan.depulse = .zero) (hdue : fan.watchdogDue c.machine.clock = true)
    (level : Level) :
    ∃ result, writesIn (c.trace (.keep level)) =
      [.ofText c.machine.clock fan.path level.text result] := by
  obtain ⟨-, -, hwrites⟩ :=
    ThinkpadFan.perform_steers hpath hdepulse (o := .keep level) rfl c.machine
  rw [← hfan] at hwrites
  rcases hwrites with ⟨result, hwrites, -⟩ | ⟨-, hnot, -⟩
  · exact ⟨result, hwrites⟩
  · rw [hdue] at hnot
    cases hnot

/-- A watchdog that is due stays due until it is fed. -/
theorem writes_after_due (hfan : c.fan = .thinkpad fan) (hpath : '\x00' ∉ fan.path.toList)
    (hdepulse : fan.depulse = .zero) (hdue : fan.watchdogDue c.machine.clock = true)
    {events : List Event} (hsteers : ∀ e ∈ events, e.Steers)
    (hnone : feedings fan.path (c.writes events) = []) (level : Level) :
    ∃ result, writesIn ((c.after events).trace (.keep level)) =
      [.ofText (c.after events).machine.clock fan.path level.text result] := by
  have hlater := after_fed hfan hpath hdepulse hsteers
  rw [hnone, ThinkpadFan.fedAt_nil] at hlater
  have hlate := ThinkpadFan.watchdogDue_mono hdue (c.clock_le_after events)
  exact writes_of_due hlater hpath hdepulse hlate level

/-- A level that is kept is not written only if the watchdog outlasts the next cycle. -/
theorem outlasts_of_skip (hfan : c.fan = .thinkpad fan) (hpath : '\x00' ∉ fan.path.toList)
    (hdepulse : fan.depulse = .zero) {level : Level}
    (hskip : writesIn (c.trace (.keep level)) = []) :
    ∃ last, fan.lastPing = some last ∧ (c.machine.clock.after? fan.pollInterval).isSome ∧
      (last.after? fan.watchdog).isSome ∧
      c.machine.clock.nanos + fan.pollInterval.nanos < last.nanos + fan.watchdog.nanos := by
  have hnot : fan.watchdogDue c.machine.clock = false := by
    by_contra hdue
    rw [Bool.not_eq_false] at hdue
    obtain ⟨result, hwrites⟩ := writes_of_due hfan hpath hdepulse hdue level
    rw [hskip] at hwrites
    cases hwrites
  obtain ⟨last, next, expiry, hlast, hnext, hexpiry, -⟩ :=
    ThinkpadFan.watchdogDue_eq_false_iff.1 hnot
  exact ⟨last, hlast, Option.isSome_of_eq_some hnext, Option.isSome_of_eq_some hexpiry,
    ThinkpadFan.lt_of_not_watchdogDue hlast hnot⟩

/-- The levels come in time as long as the watchdog outlasts the time to the next call. -/
theorem writes_within (hfan : c.fan = .thinkpad fan) (hpath : '\x00' ∉ fan.path.toList)
    (hdepulse : fan.depulse = .zero) (hfast : fan.pollInterval.nanos < fan.watchdog.nanos)
    {events : List Event} (hsteers : ∀ e ∈ events, e.Steers) {last t : Instant}
    (hlast : fan.lastPing = some last)
    (hnext : t.nanos + fan.pollInterval.nanos < last.nanos + fan.watchdog.nanos)
    (hcalls : (t :: c.callTimes events).IsChain
      fun t u => u.nanos ≤ t.nanos + fan.pollInterval.nanos)
    (hok : ∀ w ∈ c.writes events, w.result = .ok ()) :
    (last :: (c.writes events).map Write.time).IsChain (Within fan.watchdog.nanos) := by
  induction events generalizing c fan last t with
  | nil => exact .singleton _
  | cons e events ih =>
    obtain ⟨he, hevents⟩ := List.forall_mem_cons.1 hsteers
    have hstep := step_fed hfan hpath hdepulse he
    cases e with
    | change change =>
      have hsame : (c.step (.change change)).fan = .thinkpad fan := hfan
      exact ih hsame hpath hdepulse hfast hevents hlast hnext hcalls hok
    | operation o =>
      obtain ⟨level, ho⟩ := Option.isSome_iff_exists.1 he
      obtain ⟨hsoon, hcalls⟩ := List.isChain_cons_cons.1 hcalls
      obtain ⟨-, -, hwrites⟩ := ThinkpadFan.perform_steers hpath hdepulse ho c.machine
      rw [← hfan] at hwrites
      rw [writes_singleton] at hstep
      rw [writes_operation, List.forall_mem_append] at hok
      rw [writes_operation, List.map_append]
      rcases hwrites with ⟨result, hwrites, -⟩ | ⟨-, hnot, hwrites⟩
      · -- The level is written, so the watchdog outlasts the next call again.
        have hwrites :
            writesIn (c.trace o) = [.ofText c.machine.clock fan.path level.text result] :=
          hwrites
        rw [hwrites] at hok hstep ⊢
        obtain rfl : result = .ok () := hok.1 _ (.head _)
        rw [feedings_text] at hstep
        have hagain : c.machine.clock.nanos + fan.pollInterval.nanos <
            c.machine.clock.nanos + fan.watchdog.nanos := Nat.add_lt_add_left hfast _
        have hrest := ih hstep hpath hdepulse hfast hevents rfl hagain hcalls hok.2
        exact .cons_cons (Nat.lt_of_le_of_lt hsoon hnext) hrest
      · -- The watchdog is not due, so it outlasts the next call as it is.
        have hwrites : writesIn (c.trace o) = [] := hwrites
        rw [hwrites] at hstep ⊢
        exact ih hstep hpath hdepulse hfast hevents hlast
          (ThinkpadFan.lt_of_not_watchdogDue hlast hnot) hcalls hok.2

/-- What is known of a fan that is steered. -/
structure Tended (fan : ThinkpadFan) (start : Custody) (events : List Event) : Prop where
  /-- The levels come in time if no call is too late and none of them fails. -/
  inTime : (start.callTimes events).IsChain
      (fun t u => u.nanos ≤ t.nanos + fan.pollInterval.nanos) →
    (∀ w ∈ start.writes events, w.result = .ok ()) →
    ((start.writes events).map Write.time).IsChain (Within fan.watchdog.nanos)
  /-- The fan knows when its watchdog was last fed. Writes that fail do not count. -/
  lastPing : ∀ front, front <+: events → front ≠ [] →
    ∃ last, (start.after front).fan.lastPing = some last ∧
      (feedings fan.path (start.writes front)).getLast? = some last
  /-- Once the watchdog is due, the level is written whenever it is kept, until that
      succeeds. -/
  persistent : ∀ front more level back,
    events = front ++ more ++ .operation (.keep level) :: back →
    (start.after front).fan.watchdogDue (start.after front).machine.clock = true →
    feedings fan.path ((start.after front).writes more) = [] →
    let c := start.after (front ++ more)
    ∃ result, writesIn (c.trace (.keep level)) =
      [.ofText c.machine.clock fan.path level.text result]
  /-- Nothing is written only if the watchdog outlasts the next cycle, and the clock can
      show both times. -/
  skips : ∀ front level back, events = front ++ .operation (.keep level) :: back →
    let c := start.after front
    writesIn (c.trace (.keep level)) = [] →
    ∃ last, c.fan.lastPing = some last ∧
      (c.machine.clock.after? fan.pollInterval).isSome ∧ (last.after? fan.watchdog).isSome ∧
      c.machine.clock.nanos + fan.pollInterval.nanos < last.nanos + fan.watchdog.nanos

/-- Only the level of a fan whose path names a file can be set. -/
theorem path_of_setSpeed {m : Machine} {level : Level}
    (hset : result ⟨.thinkpad fan, m⟩ (.setSpeed level) = .ok ()) :
    '\x00' ∉ fan.path.toList := by
  intro hnul
  change (((Fan.thinkpad fan).steered <$> (Fan.thinkpad <$> fan.setSpeed level).run).value m).2 =
    .ok () at hset
  rw [ExceptT.run_map, ThinkpadFan.setSpeed_nul hnul] at hset
  cases hset

/-- A level that the fan takes is written, which feeds the watchdog. -/
theorem setSpeed_fed (hfan : c.fan = .thinkpad fan) (hpath : '\x00' ∉ fan.path.toList)
    (hdepulse : fan.depulse = .zero) {level : Level}
    (hset : c.result (.setSpeed level) = .ok ()) :
    writesIn (c.trace (.setSpeed level)) =
        [.ofText c.machine.clock fan.path level.text (.ok ())] ∧
      (c.step (.operation (.setSpeed level))).fan =
        .thinkpad (fan.fedAt [c.machine.clock]) := by
  have hwrites : writesIn (c.trace (.setSpeed level)) =
      [.ofText c.machine.clock fan.path level.text (.ok ())] := by
    have hset' : (((Fan.thinkpad fan).perform (.setSpeed level)).value c.machine).2 = .ok () := by
      rw [← hfan]
      exact hset
    unfold trace
    rw [hfan]
    obtain ⟨-, -, ⟨result, hwrites, hok⟩ | ⟨hkeep, -⟩⟩ :=
      ThinkpadFan.perform_steers hpath hdepulse (o := .setSpeed level) rfl c.machine
    · rw [hok hset'] at hwrites
      exact hwrites
    · cases hkeep
  have hstep := step_fed hfan hpath hdepulse (e := .operation (.setSpeed level)) rfl
  rw [writes_singleton, hwrites, feedings_text] at hstep
  exact ⟨hwrites, hstep⟩

/-- A fan without depulsing that takes a level and is steered from then on, is tended: its
    levels come in time, it knows when its watchdog was last fed, and it does not give up
    to feed it. -/
theorem tended_of_setSpeed (hdepulse : fan.depulse = .zero)
    (hfast : fan.pollInterval.nanos < fan.watchdog.nanos) {m : Machine} {level : Level}
    (hset : result ⟨.thinkpad fan, m⟩ (.setSpeed level) = .ok ()) {events : List Event}
    (hsteers : ∀ e ∈ events, e.Steers) :
    Tended fan ⟨.thinkpad fan, m⟩ (.operation (.setSpeed level) :: events) := by
  have hpath := path_of_setSpeed hset
  let start : Custody := ⟨.thinkpad fan, m⟩
  have hfan : start.fan = .thinkpad fan := rfl
  have hrun : ∀ e ∈ .operation (.setSpeed level) :: events, Event.Steers e :=
    List.forall_mem_cons.2 ⟨rfl, hsteers⟩
  have hafter : ∀ {front back}, .operation (.setSpeed level) :: events = front ++ back →
      (start.after front).fan = .thinkpad (fan.fedAt (feedings fan.path (start.writes front))) := by
    intro front back hsplit
    exact after_fed hfan hpath hdepulse fun e he =>
      hrun e (hsplit ▸ List.mem_append_left back he)
  obtain ⟨hfirst, hfed⟩ := setSpeed_fed hfan hpath hdepulse hset
  constructor
  · intro hcalls hok
    rw [writes_operation, hfirst] at hok ⊢
    have hnext : m.clock.nanos + fan.pollInterval.nanos < m.clock.nanos + fan.watchdog.nanos :=
      Nat.add_lt_add_left hfast _
    exact writes_within hfed hpath hdepulse hfast hsteers rfl hnext hcalls
      (List.forall_mem_append.1 hok).2
  · rintro front ⟨back, hsplit⟩ hfront
    obtain ⟨e, more, rfl⟩ := List.exists_cons_of_ne_nil hfront
    obtain rfl : e = .operation (.setSpeed level) := (List.cons.inj hsplit).1
    rw [hafter hsplit.symm]
    rw [writes_operation, hfirst, feedings_append, feedings_text]
    simp only [Fan.lastPing, ThinkpadFan.fedAt, List.getLast?_append]
    cases (feedings fan.path _).getLast? with
    | none => exact ⟨m.clock, rfl, rfl⟩
    | some last => exact ⟨last, rfl, rfl⟩
  · intro front more level' back hsplit hdue hnone
    have hmore : ∀ e ∈ more, e.Steers := fun e he =>
      hrun e (hsplit ▸ List.mem_append_left _ (List.mem_append_right _ he))
    have hheld := hafter (hsplit.trans (List.append_assoc ..))
    rw [hheld] at hdue
    rw [after_append]
    exact writes_after_due hheld hpath hdepulse hdue hmore hnone level'
  · intro front level' back hsplit c hskip
    have hheld := hafter hsplit
    rw [show c.fan = _ from hheld]
    exact outlasts_of_skip hheld hpath hdepulse hskip

/-- A fan with the settings that it is found with, which is kept at its level once. -/
theorem found_tended :
    let fan : ThinkpadFan := { path := "fan", initialLevel := "auto" }
    let m : Machine := { files := (∅ : Registry ByteArray).set "fan" ByteArray.empty }
    let level := Level.numeric 3
    result ⟨.thinkpad fan, m⟩ (.setSpeed level) = .ok () ∧
      Tended fan ⟨.thinkpad fan, m⟩ [.operation (.setSpeed level),
        .change (.advance (.ofSeconds 5)), .operation (.keep level)] := by
  intro fan m level
  have hset : result ⟨.thinkpad fan, m⟩ (.setSpeed level) = .ok () :=
    Config.eq_ok_of_toOption (by decide +kernel)
  refine ⟨hset, tended_of_setSpeed rfl (by decide) hset ?_⟩
  intro e he
  simp at he
  rcases he with rfl | rfl
  · exact trivial
  · exact rfl

end Custody

end Cooling
