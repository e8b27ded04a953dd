-- SUMMARY: A hwmon sensor: one temperature, as thousandths of a degree in a file.
import Cooling.Sensor.Base
import Cooling.Text.Blank

/-!
# Hwmon sensors

The file holds one whole number, in thousandths of a degree. The thousandths
are dropped, toward zero.
-/

namespace Cooling

structure HwmonSensor where
  base : SensorBase
  deriving DecidableEq, Repr

namespace HwmonSensor

def find (path : String) : Attempt HwmonSensor := do
  let base ← SensorBase.find path
  return { base := base.withCount 1 }

def unreadable (path : String) (e : OsError) : Failure :=
  .io s!"Failed to read temperature from {path}" e

def notANumber (path : String) (text : List Char) : Failure :=
  unreadable path (.other s!"not a number: {Text.quoted (String.ofList text)}")

/-- The temperature that the contents of the file stand for. -/
def interpret (sensor : HwmonSensor) (contents : String) : Except Failure Int :=
  let text := Text.trim contents.toList
  match Text.signed32? text with
  | some millidegrees => sensor.base.corrected 0 (millidegrees.tdiv 1000)
  | none => .error (notANumber sensor.base.path text)

def read (sensor : HwmonSensor) : Program Reading := do
  match ← ControlFile.read sensor.base.path with
  | .ok contents => return .ofExcept (sensor.interpret contents)
  | .error e => return .failed (unreadable sensor.base.path e)

end HwmonSensor

end Cooling
