-- SUMMARY: Sleeping for a while, or until the program is told to stop.
import Cooling.Session.Stage

/-!
# Sleeping while running

A long sleep is cut into slices, so that the signal to stop is noticed in time.
-/

namespace Cooling.Session

/-- The longest time for which the signal to stop can go unnoticed. -/
def slice : Duration := .ofMillis 100

/-- How many slices a duration takes. -/
def slices (d : Duration) : Nat := (d.nanos + slice.nanos - 1) / slice.nanos

/-- Sleeps until a deadline, in at most `n` slices, and tells whether the program
    still runs then. The deadline has come when no slices are left. -/
def sleepUntil (deadline : Instant) : (n : Nat) → Program Bool
  | 0 => Program.running
  | n + 1 => do
    if ← Program.running then
      let now ← Program.now
      if deadline.nanos ≤ now.nanos then return true
      Program.sleep (slice.min (now.timeTo deadline))
      sleepUntil deadline n
    else return false

/-- Sleeps for a duration, or until the program is told to stop. Tells whether it
    still runs. If the clock cannot show the end of the sleep, there is none, even if
    the program was told to stop before. -/
def sleepWhileRunning (d : Duration) : Stage Bool := do
  let now ← Program.now
  match now.after? d with
  | some deadline => sleepUntil deadline (slices d)
  | none => throw .overflow

end Cooling.Session
