-- SUMMARY: A driver configuration: which fan and which sensors to build, how to set them up, and which configurations make sense.
import Cooling.Binary64.Basic
import Cooling.Failure
import Cooling.Text.Blank
import Cooling.Text.Quoted
import Cooling.Time

/-!
# Configurations

A configuration names one fan and any number of sensors. `Config.check` accepts
the ones that can be used, and reports the first thing that is wrong with any
other.
-/

namespace Cooling

/-! ## Fans and sensors -/

inductive FanKind where
  | thinkpad | pwm
  deriving DecidableEq, Repr

/-- The name of a kind of fan in a configuration. -/
def FanKind.name : FanKind → String
  | thinkpad => "tp_fan"
  | pwm => "pwm_fan"

def FanKind.all : List FanKind := [thinkpad, pwm]

structure FanSpec where
  kind : FanKind
  path : String
  deriving DecidableEq, Repr

inductive SensorKind where
  | hwmon | thermal | disk | gpu
  deriving DecidableEq, Repr

/-- The name of a kind of sensor in a configuration. -/
def SensorKind.name : SensorKind → String
  | hwmon => "hwmon"
  | thermal => "tp_thermal"
  | disk => "atasmart"
  | gpu => "nvml"

def SensorKind.all : List SensorKind := [hwmon, thermal, disk, gpu]

structure SensorSpec where
  kind : SensorKind
  /-- A path, or the PCI bus id of a GPU. -/
  path : String
  /-- The corrections for its temperatures, if any are given. -/
  correction? : Option (List Int32) := none
  deriving DecidableEq, Repr

/-! ## Configurations -/

structure Config where
  fan : FanSpec
  watchdogSecs : UInt64 := 120
  /-- Zero disables depulsing. -/
  depulseSecs : Binary64 := .zero
  pollIntervalSecs : UInt64 := 5
  /-- Leave sleeping disks alone. -/
  dndDisk : Bool := false
  sensors : List SensorSpec
  deriving DecidableEq, Repr

namespace Config

def watchdog (c : Config) : Duration := .ofSeconds c.watchdogSecs.toNat

def pollInterval (c : Config) : Duration := .ofSeconds c.pollIntervalSecs.toNat

/-- A magnitude in seconds, to the nearest nanosecond. -/
def secondsToNanos (s : Scaled) : Nat :=
  if 0 ≤ s.q then s.m * powTwo s.q.toNat * 1000000000
  else roundDiv (s.m * 1000000000) (powTwo (-s.q).toNat)

end Config

namespace Duration

/-- One more than the greatest number of seconds that a duration can have. -/
def secondsEnd : Nat := 18446744073709551616

/-- The duration of a number of seconds, to the nearest nanosecond. There is none for what is
    not a number, is below zero, or is more than a duration can have. -/
def ofBinary64? (x : Binary64) : Option Duration :=
  match x.value with
  | .finite negative s =>
    if (!negative || s.m == 0) && (s.compareNat secondsEnd).isLT then
      some ⟨Config.secondsToNanos s⟩
    else none
  | _ => none

end Duration

namespace Config

/-- How long to depulse. Only a checked configuration gives a meaningful duration. -/
def depulse (c : Config) : Duration := (Duration.ofBinary64? c.depulseSecs).getD .zero

/-! ## What makes sense -/

/-- The greatest timeout that the kernel accepts. -/
def maxWatchdogSecs : Nat := 120

def maxDepulseSecs : Nat := 10

/-- A longer pause would let the watchdog of the fan run out. -/
def maxPollIntervalSecs : Nat := maxWatchdogSecs

/-- What can be wrong with a configuration. -/
inductive Violation where
  /-- A path does not start at the root. -/
  | relativePath (what path : String)
  | watchdog
  | depulse
  | pollInterval
  | noSensors
  /-- The GPU sensor at a position has no bus id. -/
  | blankBus (position : Nat)
  deriving DecidableEq, Repr

def Violation.message : Violation → String
  | relativePath what path => s!"{what} path must be absolute, got {Text.quoted path}"
  | watchdog => s!"watchdog_secs must be within 1..={maxWatchdogSecs}"
  | depulse => s!"depulse_secs must be within 0..={maxDepulseSecs}"
  | pollInterval => s!"poll_interval_secs must be within 1..={maxPollIntervalSecs}"
  | noSensors => "at least one sensor is required"
  | blankBus position => s!"sensor #{position} has an empty PCI bus id"

def Violation.failure (v : Violation) : Failure := .config v.message

/-- Whether a path starts at the root. -/
def isAbsolute (path : String) : Bool := path.toList.head? == some '/'

def checkPath (what path : String) : Except Violation Unit :=
  if isAbsolute path then .ok () else .error (.relativePath what path)

/-- Whether a number of seconds is from 1 up to a limit. -/
def inSeconds (limit : Nat) (n : UInt64) : Bool := 1 ≤ n.toNat && n.toNat ≤ limit

/-- Whether a magnitude is at most a whole number. -/
def atMost (s : Scaled) (n : Nat) : Bool := (s.compareNat n).isLE

/-- Whether a double is a number from 0 up to a limit. Zero may have a sign. -/
def inRange (limit : Nat) (x : Binary64) : Bool :=
  match x.value with
  | .finite negative s => (!negative || s.m == 0) && atMost s limit
  | _ => false

/-- Checks the sensor at a position, which counts from one. -/
def checkSensor (position : Nat) (s : SensorSpec) : Except Violation Unit :=
  match s.kind with
  | .gpu =>
    if Text.trim s.path.toList = [] then .error (.blankBus position) else .ok ()
  | kind => checkPath kind.name s.path

/-- Checks sensors, the first of which is at a position. -/
def checkSensors (position : Nat) : List SensorSpec → Except Violation Unit
  | [] => .ok ()
  | s :: rest => do
    checkSensor position s
    checkSensors (position + 1) rest

/-- Finds the first thing that is wrong with a configuration. -/
def check (c : Config) : Except Violation Unit := do
  checkPath c.fan.kind.name c.fan.path
  if !inSeconds maxWatchdogSecs c.watchdogSecs then throw .watchdog
  if !inRange maxDepulseSecs c.depulseSecs then throw .depulse
  if !inSeconds maxPollIntervalSecs c.pollIntervalSecs then throw .pollInterval
  if c.sensors = [] then throw .noSensors
  checkSensors 1 c.sensors

end Config

end Cooling
