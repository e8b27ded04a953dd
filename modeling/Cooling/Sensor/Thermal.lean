-- SUMMARY: The thermal file of a ThinkPad: a header and a row of temperatures, of which there are as many as were found at the start.
import Cooling.Sensor.Base
import Cooling.Text.Blank

/-!
# ThinkPad thermal files

    temperatures:   52 0 0 0 38 0 32 0

Whole degrees, after a header. How many there are depends on the model, and they
are counted once, at the start.
-/

namespace Cooling

structure ThermalSensor where
  base : SensorBase
  deriving DecidableEq, Repr

namespace ThermalSensor

def header : String := "temperatures:"

/-- The bytes of the header, which reads skip. -/
def headerSize : Nat := 13

def unreadable (path : String) (e : OsError) : Failure :=
  .io s!"Failed to read temperatures from {path}" e

def unknownFormat (path : String) : Failure :=
  .system s!"{path}: Unknown file format, expected it to start with \"{header}\""

def noTemperatures (path : String) : Failure :=
  .system s!"{path}: No temperatures found"

/-- How many temperatures the fields after the header begin with. -/
def countFields (fields : List (List Char)) : Nat :=
  (fields.takeWhile (fun field => (Text.signed32? field).isSome)).length

/-- How many temperatures the contents of a thermal file hold. -/
def countTemperatures (path contents : String) : Except Failure Nat :=
  match Text.afterStart? header.toList contents.toList with
  | none => .error (unknownFormat path)
  | some rest =>
    let count := countFields (Text.words rest)
    if count = 0 then .error (noTemperatures path) else .ok count

def find (path : String) : Attempt ThermalSensor := do
  let base ← SensorBase.find path
  let contents ← .ofProgram (ControlFile.read path) (unreadable path)
  let count ← ExceptT.mk (pure (countTemperatures path contents))
  Program.log .debug s!"{path}: {count} temperatures"
  return { base := base.withCount count }

def tooFew (base : SensorBase) (found : Nat) : Failure :=
  unreadable base.path (.other s!"expected {base.count} values, got {found}")

/-- Reads `n` temperatures from fields, the first of which is that with index `i`. -/
def readFields (base : SensorBase) : (n i : Nat) → List (List Char) → Reading
  | 0, _, _ => .ok []
  | _ + 1, i, [] => .failed (tooFew base i)
  | n + 1, i, field :: fields =>
    match Text.signed32? field with
    | none => .failed (tooFew base i)
    | some t =>
      match base.corrected i t with
      | .error f => .failed f
      | .ok t => .cons t (readFields base n (i + 1) fields)

def read (sensor : ThermalSensor) : Program Reading := do
  match ← ControlFile.readFrom sensor.base.path headerSize with
  | .ok rest => return readFields sensor.base sensor.base.count 0 (Text.words rest.toList)
  | .error e => return .failed (unreadable sensor.base.path e)

end ThermalSensor

end Cooling
