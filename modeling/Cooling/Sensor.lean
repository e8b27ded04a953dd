-- SUMMARY: What a scheduler can do with a sensor of any kind, and one cycle over several sensors.
import Cooling.Sensor.Hwmon
import Cooling.Sensor.Thermal
import Cooling.Sensor.Disk
import Cooling.Sensor.Gpu

/-!
# Sensors

A cycle reads sensors in order and appends what they give. It ends at the first
failure, with the temperatures of that sensor from before its failure.
-/

namespace Cooling

inductive Sensor where
  | hwmon (sensor : HwmonSensor)
  | thermal (sensor : ThermalSensor)
  | disk (sensor : DiskSensor)
  | gpu (sensor : GpuSensor)
  deriving DecidableEq, Repr

namespace Sensor

def base : Sensor → SensorBase
  | hwmon s => s.base
  | thermal s => s.base
  | disk s => s.base
  | gpu s => s.base

def withBase (base : SensorBase) : Sensor → Sensor
  | hwmon s => hwmon { s with base := base }
  | thermal s => thermal { s with base := base }
  | disk s => disk { s with base := base }
  | gpu s => gpu { s with base := base }

@[simp] theorem base_withBase (b : SensorBase) (s : Sensor) : (s.withBase b).base = b := by
  cases s <;> rfl

def path (s : Sensor) : String := s.base.path

/-- How many temperatures the sensor gives in a cycle. -/
def count (s : Sensor) : Nat := s.base.count

/-- Sets the number of temperatures. -/
def withCount (s : Sensor) (n : Nat) : Sensor := s.withBase (s.base.withCount n)

/-- Sets the corrections, at most one for each temperature. -/
def correct (s : Sensor) (corrections : List Int) : Attempt Sensor := do
  let base ← s.base.correct corrections
  return s.withBase base

def read : Sensor → Program Reading
  | hwmon s => s.read
  | thermal s => s.read
  | disk s => s.read
  | gpu s => s.read

/-- Lets go what the sensor holds of a vendor library. Only a GPU sensor does that. -/
def shutdown : Sensor → Attempt Unit
  | gpu s => s.shutdown
  | _ => return ()

/-- The sensor after an attempt to shut it down, whatever came of that. -/
def ended : Sensor → Sensor
  | gpu s => gpu s.ended
  | s => s

/-- Lets the sensor go, with all that it holds. -/
def release : Sensor → Program Unit
  | disk s => s.release
  | gpu s => s.release
  | _ => return ()

/-- Reads the sensor. Gives the sensor as it is then, the temperatures with those that it
    appended, and how it went. -/
def readOnto (s : Sensor) (before : Temperatures) :
    Program (Sensor × Temperatures × Except Failure Unit) := do
  let reading ← s.read
  return (s, before.append reading.temperatures, reading.outcome)

/-! ## Several sensors -/

/-- Reads sensors in order, up to the first failure. Gives the sensors as they are then,
    the temperatures with those that were appended, and how it went. -/
def readAll : List Sensor → Temperatures →
    Program (List Sensor × Temperatures × Except Failure Unit)
  | [], before => return ([], before, .ok ())
  | s :: rest, before => do
    match ← s.readOnto before with
    | (s, temperatures, .error f) => return (s :: rest, temperatures, .error f)
    | (s, temperatures, .ok ()) =>
      let (rest, temperatures, outcome) ← readAll rest temperatures
      return (s :: rest, temperatures, outcome)

/-- Lets sensors go, in order. -/
def releaseAll : List Sensor → Program Unit
  | [] => return ()
  | s :: rest => do
    s.release
    releaseAll rest

end Sensor

end Cooling
