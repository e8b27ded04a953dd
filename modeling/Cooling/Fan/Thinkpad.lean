-- SUMMARY: The fan of a ThinkPad: its status text, the kernel watchdog that must be fed, depulsing, and restoring the level found.
import Cooling.Level
import Cooling.Fan.Write

/-!
# ThinkPad fans

The control file of a ThinkPad fan reads like

    status:         enabled
    speed:          2900
    level:          auto
    commands:       level <level> (<level> is 0-7, auto, disengaged, full-speed)
    commands:       watchdog <timeout> (<timeout> is 0 (off), 1-120 (seconds))

and takes the commands `level` and `watchdog`. Once armed, the watchdog of the
kernel puts the fan back into automatic mode when no level arrives within its
timeout. The driver therefore repeats the level in time. Depulsing lets the fan
run free for a while before the level is applied again.

The level found at the start is written back once, at the latest when the fan
is released.
-/

namespace Cooling

/-! ## The status text -/

namespace ThinkpadStatus

/-- The value of a line that shows the level: what follows its last space or tabulator. -/
def levelValue? (line : List Char) : Option (List Char) :=
  if Text.hasInfix "level:".toList line then
    some ((Text.trimEnd line).reverse.takeWhile (fun c => c != ' ' && c != '\t')).reverse
  else none

/-- Whether a line says that the file takes levels. -/
def offersLevels (line : List Char) : Bool :=
  !Text.hasInfix "level:".toList line && Text.hasInfix "commands:".toList line &&
    Text.hasInfix "level <level>".toList line

/-- The level for a status text without one. -/
def fallback : String := "auto"

/-- The level that a status text shows. The last line with one counts. -/
def level (status : String) : String :=
  match ((Text.lines status.toList).filterMap levelValue?).getLast? with
  | none | some [] => fallback
  | some value => String.ofList value

/-- Whether the control file takes levels. -/
def takesLevels (status : String) : Bool := (Text.lines status.toList).any offersLevels

end ThinkpadStatus

/-! ## The driver -/

structure ThinkpadFan where
  path : String
  /-- The level found at the start. -/
  initialLevel : String
  watchdog : Duration := .ofSeconds 120
  /-- How long the fan runs free in each cycle. Zero disables depulsing. -/
  depulse : Duration := .zero
  /-- The time between two cycles. -/
  pollInterval : Duration := .ofSeconds 5
  /-- When the watchdog was last fed. -/
  lastPing : Option Instant := none
  restorePending : Bool := true
  deriving DecidableEq, Repr

namespace ThinkpadFan

def unreadable (path : String) (e : OsError) : Failure :=
  .io s!"Failed to initialize fan driver {path}" e

def takesNoLevels (path : String) : Failure :=
  .system s!"{path} does not accept level commands. Is thinkpad_acpi loaded with fan_control=1?"

def notArmed (path : String) (e : OsError) : Failure :=
  .io s!"Failed to arm fan watchdog on {path}" e

def notRestored (path level : String) (e : OsError) : Failure :=
  .io s!"Failed to reset fan {path} to level {level}" e

/-- Finds the fan behind a control file and takes down its level. -/
def find (path : String) : Attempt ThinkpadFan := do
  let status ← .ofProgram (ControlFile.read path) (unreadable path)
  if !ThinkpadStatus.takesLevels status then throw (takesNoLevels path)
  let level := ThinkpadStatus.level status
  Program.log .debug s!"{path}: initial fan level is {level}"
  return { path, initialLevel := level }

/-- Takes over: arms the watchdog. -/
def takeOver (fan : ThinkpadFan) : Attempt Unit :=
  .ofProgram (ControlFile.write fan.path s!"watchdog {fan.watchdog.seconds}") (notArmed fan.path)

/-- Sets the level, which feeds the watchdog. -/
def setSpeed (fan : ThinkpadFan) (level : Level) : Attempt ThinkpadFan := do
  Fan.writeLevel fan.path level.text
  let now ← Program.now
  return { fan with lastPing := some now }

/-- Whether the watchdog would run out before the next cycle. A time that the
    clock cannot show counts as too late. -/
def watchdogDue (fan : ThinkpadFan) (now : Instant) : Bool :=
  match fan.lastPing with
  | none => true
  | some last =>
    match now.after? fan.pollInterval, last.after? fan.watchdog with
    | some next, some expiry => decide (expiry.nanos ≤ next.nanos)
    | _, _ => true

/-- Keeps the level for another cycle: lets the fan run free and applies the
    level again, or, without depulsing, feeds the watchdog if that is due. -/
def keep (fan : ThinkpadFan) (level : Level) : Attempt ThinkpadFan := do
  if fan.depulse ≠ .zero then
    Fan.writeLevel fan.path "level disengaged"
    Program.sleep fan.depulse
    fan.setSpeed level
  else
    let now ← Program.now
    if fan.watchdogDue now then fan.setSpeed level else return fan

/-- Hands the fan back in the level found at the start. Only the first time writes. -/
def restore (fan : ThinkpadFan) : Attempt Unit := do
  if fan.restorePending then
    .ofProgram (ControlFile.write fan.path s!"level {fan.initialLevel}")
      (notRestored fan.path fan.initialLevel)
    Program.log .debug s!"{fan.path}: restored fan level {fan.initialLevel}"

/-- The fan after an attempt to restore it, whatever came of that. -/
def restored (fan : ThinkpadFan) : ThinkpadFan := { fan with restorePending := false }

/-- Lets the fan go. It is restored if that has not been tried yet. -/
def release (fan : ThinkpadFan) : Program Unit := fan.restore.orLog Failure.message

end ThinkpadFan

end Cooling
