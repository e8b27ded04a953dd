-- SUMMARY: Reading sensors in cycles and printing the temperatures of each.
import Cooling.Sensor
import Cooling.Session.Sleep

/-!
# Cycles

In each cycle the temperatures of all sensors are printed on a line. A cycle in
which a sensor fails prints none. One list of temperatures is handed on from
cycle to cycle, and each cycle clears it before it reads.
-/

namespace Cooling.Session

/-- Reads all sensors anew, onto temperatures that are cleared first. Gives the
    temperatures, and how the reads went. They leave the sensors as they are. -/
def readCycle (sensors : List Sensor) (temperatures : optParam Temperatures .empty) :
    Program (Temperatures × Except Failure Unit) := do
  let (_, temperatures, outcome) ← Sensor.readAll sensors temperatures.cleared
  return (temperatures, outcome)

def discarding (cycle : Nat) (f : Failure) : String := s!"Discarding cycle {cycle}: {f.message}"

/-- Reads all sensors and prints their temperatures, or logs why it cannot. Hands the
    temperatures on. -/
def showCycle (sensors : List Sensor) (cycle : Nat) (temperatures : Temperatures) :
    Program Temperatures := do
  let (temperatures, outcome) ← readCycle sensors temperatures
  match outcome with
  | .ok () => Program.print temperatures.json
  | .error f => Program.log .warn (discarding cycle f)
  return temperatures

/-- Runs cycles from number `cycle` on, at most `left` of them, with a pause after
    each but the last. No number of cycles means to go on until the program is told
    to stop. -/
def runCycles (sensors : List Sensor) (pollInterval : Duration) (cycles? : Option Nat) :
    (left : Nat) → (cycle : Nat) → Temperatures → Stage Unit
  | 0, _, _ => return ()
  | left + 1, cycle, temperatures => do
    let temperatures ← showCycle sensors cycle temperatures
    if cycles?.any (· ≤ cycle + 1) then return ()
    if ← sleepWhileRunning pollInterval then
      runCycles sensors pollInterval cycles? left (cycle + 1) temperatures

def notEnded (sensor : Sensor) (f : Failure) : String := s!"{sensor.path}: {f.message}"

/-- Shuts sensors down, in order, whatever comes of it. -/
def shutDownAll : List Sensor → Program Unit
  | [] => return ()
  | sensor :: rest => do
    sensor.shutdown.orLog (notEnded sensor)
    shutDownAll rest

end Cooling.Session
