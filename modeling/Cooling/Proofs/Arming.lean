-- SUMMARY: The timeout that the kernel is told when the watchdog of a ThinkPad fan is armed, against the one that its level is kept by.
import Cooling.Proofs.Steering

/-!
# Arming the watchdog

The kernel is told the timeout in whole seconds. When a level is kept, the watchdog is due
by the timeout as it was set, with its nanoseconds. A timeout that is not whole is therefore
told short, and a level that is not written may be up to a second late: the watchdog lapses
before the next call. Only a timeout that is longer than the clock can show is never relied on.
-/

namespace Cooling

open Program

/-- A duration is its whole seconds and less than one more. -/
theorem Duration.nanos_eq (d : Duration) : d.nanos = d.seconds * 1000000000 + d.subsecNanos :=
  (Nat.div_add_mod' d.nanos 1000000000).symm

namespace ThinkpadFan

variable {fan : ThinkpadFan} {m : Machine}

/-- A fan whose watchdog can be armed has a path that names a file. -/
theorem path_of_takeOver (h : fan.takeOver.run.value m = .ok ()) : '\x00' ∉ fan.path.toList := by
  have hgives : Gives fan.takeOver fun _ => '\x00' ∉ fan.path.toList :=
    gives_ofProgram fun _ _ hwritten => ControlFile.access_ok hwritten
  exact hgives m () h

/-- Arming the watchdog tells the kernel the whole seconds. -/
theorem writes_of_takeOver (h : fan.takeOver.run.value m = .ok ()) :
    writesIn (fan.takeOver.run.trace m) =
      [.ofText m.clock fan.path s!"watchdog {fan.watchdog.seconds}" (.ok ())] := by
  obtain ⟨-, result, hwrites, hvalue⟩ := fan.takeOver_once (path_of_takeOver h) m
  rw [h] at hvalue
  cases result with
  | ok a => exact hwrites
  | error e => cases hvalue

/-- The fan without depulsing, to be kept at a level every `poll`, last fed at `last`. -/
def steady (fan : ThinkpadFan) (poll : Duration) (last : Instant) : ThinkpadFan :=
  { fan with depulse := .zero, pollInterval := poll, lastPing := some last }

/-- Keeping the fan at a level does not write it. -/
def Skips (fan : ThinkpadFan) (level : Level) (m : Machine) : Prop :=
  writesIn ((fan.keep level).run.trace m) = []

/-- Whenever the level is not written, the watchdog that runs in the kernel has not lapsed
    before the next call. -/
def SkipsInTime (fan : ThinkpadFan) : Prop :=
  ∀ (poll : Duration) (last : Instant) (level : Level) (m : Machine),
    last.nanos ≤ m.clock.nanos → (fan.steady poll last).Skips level m →
    (m.clock.after poll).nanos < (last.after (.ofSeconds fan.watchdog.seconds)).nanos

/-- The level is written if the watchdog is due. -/
theorem skips_iff_not_due (hpath : '\x00' ∉ fan.path.toList) (hdepulse : fan.depulse = .zero)
    (level : Level) : fan.Skips level m ↔ fan.watchdogDue m.clock = false := by
  obtain ⟨-, h⟩ := keep_steady hpath hdepulse level m
  unfold Skips
  split at h
  · rename_i hdue
    obtain ⟨result, hwrites, -⟩ := h
    rw [hwrites, hdue]
    exact ⟨nofun, nofun⟩
  · rename_i hdue
    exact ⟨fun _ => Bool.eq_false_iff.2 hdue, fun _ => h.1⟩

/-- The level is not written just if the timeout as it was set outlasts the next call, and
    the clock can show both times. -/
theorem steady_skips_iff (hpath : '\x00' ∉ fan.path.toList) (poll : Duration) (last : Instant)
    (level : Level) (m : Machine) :
    (fan.steady poll last).Skips level m ↔
      (m.clock.after? poll).isSome ∧ (last.after? fan.watchdog).isSome ∧
        (m.clock.after poll).nanos < (last.after fan.watchdog).nanos := by
  have hdue : (fan.steady poll last).Skips level m ↔
      (fan.steady poll last).watchdogDue m.clock = false :=
    @skips_iff_not_due (fan.steady poll last) m hpath rfl level
  rw [hdue, watchdogDue_eq_false_iff]
  constructor
  · rintro ⟨_, next, expiry, ⟨⟩, hnext, hexpiry, hlt⟩
    obtain ⟨hshown, rfl⟩ := Instant.after?_eq_some_iff.1 hnext
    obtain ⟨hshown', rfl⟩ := Instant.after?_eq_some_iff.1 hexpiry
    exact ⟨hshown, hshown', hlt⟩
  · rintro ⟨hnext, hexpiry, hlt⟩
    exact ⟨last, _, _, rfl, Instant.after?_eq_some_iff.2 ⟨hnext, rfl⟩,
      Instant.after?_eq_some_iff.2 ⟨hexpiry, rfl⟩, hlt⟩

/-- A level that is not written is in time if the timeout is whole, or longer than the clock
    can show. Otherwise the time between two calls can be the seconds that the kernel was told. -/
theorem skipsInTime_iff (hpath : '\x00' ∉ fan.path.toList) :
    fan.SkipsInTime ↔
      fan.watchdog.subsecNanos = 0 ∨ Instant.secondsEnd ≤ fan.watchdog.seconds := by
  have hnanos := fan.watchdog.nanos_eq
  have hlast : fan.watchdog.subsecNanos < 1000000000 := Nat.mod_lt _ (by decide)
  constructor
  · intro hsafe
    by_contra hnot
    obtain ⟨hpart, hshort⟩ := not_or.1 hnot
    -- The fan is fed at the start of the clock, and the next call is the seconds later.
    let start : Machine := { clock := ⟨0⟩ }
    have hnext : (start.clock.after? (.ofSeconds fan.watchdog.seconds)).isSome := by
      rw [Instant.after?_isSome_iff, Duration.nanos_ofSeconds, Nat.zero_add]
      omega
    have hexpiry : (start.clock.after? fan.watchdog).isSome := by
      rw [Instant.after?_isSome_iff, Nat.zero_add]
      omega
    have hlt : (start.clock.after (.ofSeconds fan.watchdog.seconds)).nanos <
        (start.clock.after fan.watchdog).nanos := by
      rw [Instant.nanos_after, Instant.nanos_after, Duration.nanos_ofSeconds]
      omega
    have hskips := (steady_skips_iff hpath _ start.clock (.numeric 0) start).2 ⟨hnext, hexpiry, hlt⟩
    exact Nat.lt_irrefl _ (hsafe _ _ _ _ (Nat.le_refl _) hskips)
  · intro hwhole poll last level m _ hskips
    obtain ⟨-, hexpiry, hlt⟩ := (steady_skips_iff hpath poll last level m).1 hskips
    rw [Instant.after?_isSome_iff] at hexpiry
    rcases hwhole with hwhole | hlong
    · calc (m.clock.after poll).nanos < last.nanos + fan.watchdog.nanos := hlt
        _ = last.nanos + fan.watchdog.seconds * 1000000000 := by rw [hnanos, hwhole, Nat.add_zero]
    · omega

/-- A fan whose watchdog was set and then armed: the kernel was told whole seconds, and a
    level that is not written leaves the watchdog running until the next call just if the
    timeout is whole or the clock cannot show it. The fan goes by the timeout as it was set. -/
theorem armed_skipsInTime_iff {watchdog : Duration} {armed : ThinkpadFan}
    (hset : armed = fan.adjust (.watchdog watchdog))
    (harmed : armed.takeOver.run.value m = .ok ()) :
    writesIn (armed.takeOver.run.trace m) =
        [.ofText m.clock fan.path s!"watchdog {watchdog.seconds}" (.ok ())] ∧
      (armed.SkipsInTime ↔ watchdog.subsecNanos = 0 ∨ Instant.secondsEnd ≤ watchdog.seconds) ∧
      ∀ (poll : Duration) (last : Instant) (level : Level) (m' : Machine),
        (armed.steady poll last).Skips level m' ↔
          (m'.clock.after? poll).isSome ∧ (last.after? watchdog).isSome ∧
            (m'.clock.after poll).nanos < (last.after watchdog).nanos := by
  have hpath := path_of_takeOver harmed
  have hwrites := writes_of_takeOver harmed
  subst hset
  exact ⟨hwrites, skipsInTime_iff hpath, steady_skips_iff hpath⟩

/-- A second and a half is armed as one second, and the next call may be later than that. -/
theorem fractional_not_skipsInTime :
    let fan : ThinkpadFan := { path := "fan", initialLevel := "auto" }
    let armed := fan.adjust (.watchdog (.ofMillis 1500))
    let m : Machine := { files := (∅ : Registry ByteArray).set "fan" ByteArray.empty }
    armed.takeOver.run.value m = .ok () ∧
      writesIn (armed.takeOver.run.trace m) = [.ofText m.clock "fan" "watchdog 1" (.ok ())] ∧
      ¬ armed.SkipsInTime := by
  intro fan armed m
  have harmed : armed.takeOver.run.value m = .ok () := Config.eq_ok_of_toOption (by decide +kernel)
  have hset : armed = fan.adjust (.watchdog (.ofMillis 1500)) := rfl
  obtain ⟨hwrites, hiff, -⟩ := armed_skipsInTime_iff hset harmed
  exact ⟨harmed, hwrites, fun hsafe => absurd (hiff.1 hsafe) (by decide)⟩

end ThinkpadFan

end Cooling
