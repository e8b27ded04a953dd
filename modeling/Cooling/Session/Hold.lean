-- SUMMARY: Holding a fan at a level until a deadline or the signal to stop.
import Cooling.Fan
import Cooling.Session.Sleep

/-!
# Holding a level

The fan is taken over, set to the level, and then kept there in naps of one poll
interval, the last of which ends at the deadline.
-/

namespace Cooling.Session

def holding (fan : Fan) (level : Level) : String := s!"{fan.path}: holding {level.text}"

/-- The time to nap, or none if the deadline has come. -/
def nap? (pollInterval : Duration) (deadline? : Option Instant) (now : Instant) : Option Duration :=
  match deadline? with
  | none => some pollInterval
  | some deadline =>
    if deadline.nanos ≤ now.nanos then none else some (pollInterval.min (now.timeTo deadline))

/-- Keeps a fan at a level, for at most `naps` naps. Gives the fan as it is then, and
    the failure that ended the hold, if there was one. -/
def keepHolding (level : Level) (pollInterval : Duration) (deadline? : Option Instant) :
    (naps : Nat) → Fan → Stage (Fan × Except Failure Unit)
  | 0, fan => return (fan, .ok ())
  | naps + 1, fan => do
    let now ← Program.now
    match nap? pollInterval deadline? now with
    | none => return (fan, .ok ())
    | some nap =>
      if ← sleepWhileRunning nap then
        match ← (fan.keep level).run with
        | .ok fan => keepHolding level pollInterval deadline? naps fan
        | .error f => return (fan, .error f)
      else return (fan, .ok ())

/-- Takes a fan over and sets its level. -/
def startHolding (fan : Fan) (level : Level) : Attempt Fan := do
  fan.takeOver
  let fan ← fan.setSpeed level
  Program.log .info (holding fan level)
  return fan

/-- Holds a fan at a level until the deadline, or until the program is told to stop. -/
def hold (naps : Nat) (fan : Fan) (level : Level) (pollInterval : Duration)
    (deadline? : Option Instant) : Stage (Fan × Except Failure Unit) := do
  match ← (startHolding fan level).run with
  | .error f => return (fan, .error f)
  | .ok fan => keepHolding level pollInterval deadline? naps fan

end Cooling.Session
