-- SUMMARY: A PWM fan: a duty cycle in one file, its mode in another, and restoring the mode found.
import Cooling.Level
import Cooling.Fan.Write

/-!
# PWM fans

A PWM channel takes a duty cycle from 0 to 255 in one file and its mode in a
second one: 0 is full speed, 1 is manual, and what greater numbers mean depends
on the chip. The mode found at the start is written back once, at the latest
when the fan is released.
-/

namespace Cooling

structure PwmFan where
  path : String
  /-- The mode found at the start. -/
  initialMode : String
  restorePending : Bool := true
  deriving DecidableEq, Repr

namespace PwmFan

/-- The file with the mode of a channel. -/
def modePathFor (path : String) : String := path ++ "_enable"

def modePath (fan : PwmFan) : String := modePathFor fan.path

/-- The mode that a mode file shows: its first line, without the blanks around it. -/
def mode (contents : String) : String :=
  String.ofList (Text.trim ((Text.lines contents.toList).headD []))

def manual : String := "1"

def unreadable (path : String) (e : OsError) : Failure :=
  .io s!"Failed to read PWM mode from {path}" e

def notManual (path : String) (e : OsError) : Failure :=
  .io s!"Failed to enable manual PWM control on {path}" e

def notNumeric (path : String) (level : Level) : Failure :=
  .config s!"{path} needs a numeric PWM value, got \"{level.text}\""

def notRestored (mode path : String) (e : OsError) : Failure :=
  .io s!"Failed to restore PWM mode {mode} on {path}" e

/-- Finds the channel behind a file and takes down its mode. -/
def find (path : String) : Attempt PwmFan := do
  let modePath := modePathFor path
  let contents ← .ofProgram (ControlFile.read modePath) (unreadable modePath)
  let mode := mode contents
  Program.log .debug s!"{modePath}: initial PWM mode is {Text.quoted mode}"
  return { path, initialMode := mode }

/-- Takes over: switches to manual mode. -/
def takeOver (fan : PwmFan) : Attempt Unit :=
  .ofProgram (ControlFile.write fan.modePath manual) (notManual fan.modePath)

def suspected (path : String) (f : Failure) : String :=
  s!"{path}: PWM write rejected ({f.message}), re-enabling manual mode. Resumed from suspend?"

/-- Sets the duty cycle. Some chips leave manual mode when the computer resumes,
    and then refuse a duty cycle as invalid; manual mode is switched on again
    and the duty cycle written once more. -/
def setSpeed (fan : PwmFan) (level : Level) : Attempt Unit :=
  match level.number? with
  | none => throw (notNumeric fan.path level)
  | some n => ExceptT.mk do
    let value := toString n.toNat
    match ← (Fan.writeLevel fan.path value).run with
    | .ok () => return .ok ()
    | .error f =>
      if f.code? = some 22 then
        Program.log .debug (suspected fan.path f)
        match ← fan.takeOver.run with
        | .ok () => (Fan.writeLevel fan.path value).run
        | .error f => return .error f
      else return .error f

/-- Hands the channel back in the mode found at the start. Only the first time writes. -/
def restore (fan : PwmFan) : Attempt Unit := do
  if fan.restorePending then
    .ofProgram (ControlFile.write fan.modePath fan.initialMode)
      (notRestored fan.initialMode fan.modePath)

/-- The channel after an attempt to restore it, whatever came of that. -/
def restored (fan : PwmFan) : PwmFan := { fan with restorePending := false }

/-- Lets the channel go. It is restored if that has not been tried yet. -/
def release (fan : PwmFan) : Program Unit := fan.restore.orLog Failure.message

end PwmFan

end Cooling
