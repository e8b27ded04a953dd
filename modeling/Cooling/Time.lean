-- SUMMARY: Durations and instants in whole nanoseconds, and the instants that a clock can represent.

/-!
# Time

Durations and instants count nanoseconds. A clock keeps the seconds of an
instant in a signed 64-bit word, so an instant may have no successor after a
given duration; `Instant.after?` is none then.
-/

namespace Cooling

/-! ## Durations -/

/-- A length of time. -/
@[ext] structure Duration where
  nanos : Nat
  deriving DecidableEq, Repr, Inhabited

namespace Duration

def zero : Duration := ⟨0⟩

def ofSeconds (s : Nat) : Duration := ⟨s * 1000000000⟩

def ofMillis (ms : Nat) : Duration := ⟨ms * 1000000⟩

/-- Whole seconds, rounded down. -/
def seconds (d : Duration) : Nat := d.nanos / 1000000000

/-- The nanoseconds beyond the whole seconds. -/
def subsecNanos (d : Duration) : Nat := d.nanos % 1000000000

def min (d e : Duration) : Duration := if d.nanos ≤ e.nanos then d else e

@[simp] theorem nanos_zero : zero.nanos = 0 := rfl
@[simp] theorem nanos_ofSeconds (s : Nat) : (ofSeconds s).nanos = s * 1000000000 := rfl
@[simp] theorem nanos_ofMillis (ms : Nat) : (ofMillis ms).nanos = ms * 1000000 := rfl

@[simp] theorem seconds_ofSeconds (s : Nat) : (ofSeconds s).seconds = s := by
  simp [seconds]

theorem nanos_min (d e : Duration) : (d.min e).nanos = Nat.min d.nanos e.nanos := by
  simp only [min, Nat.min_def]; split <;> rfl

end Duration

/-! ## Instants -/

/-- A point on the clock. -/
@[ext] structure Instant where
  nanos : Nat
  deriving DecidableEq, Repr, Inhabited

namespace Instant

/-- One more than the greatest number of seconds that a clock can show. -/
def secondsEnd : Nat := 9223372036854775808

/-- The instant `d` after `t`. -/
def after (t : Instant) (d : Duration) : Instant := ⟨t.nanos + d.nanos⟩

/-- The instant `d` after `t`, if the clock can show it. -/
def after? (t : Instant) (d : Duration) : Option Instant :=
  if (t.nanos + d.nanos) / 1000000000 < secondsEnd then some (t.after d) else none

/-- The time from `t` to a later instant `u`. -/
def timeTo (t u : Instant) : Duration := ⟨u.nanos - t.nanos⟩

@[simp] theorem nanos_after (t : Instant) (d : Duration) : (t.after d).nanos = t.nanos + d.nanos :=
  rfl

@[simp] theorem nanos_timeTo (t u : Instant) : (t.timeTo u).nanos = u.nanos - t.nanos := rfl

end Instant

end Cooling
