-- SUMMARY: Finding and loading a configuration, and building the drivers that it describes.
import Cooling.Config.Document
import Cooling.Fan
import Cooling.Sensor

/-!
# Loading configurations and building drivers

Sensors are built in order. If one cannot be built, or has fewer temperatures
than corrections are given, those built before it are let go.
-/

namespace Cooling.Config

/-! ## Loading -/

/-- Where a configuration is if the environment does not say so. -/
def defaultPath : String := "/etc/fanhal/config.json"

/-- The path that the environment gives, or the default one. -/
def pathFrom (environment? : Option ByteArray) : ByteArray :=
  match environment? with
  | some path => if path.isEmpty then defaultPath.toUTF8 else path
  | none => defaultPath.toUTF8

def unreadable (path : String) (e : OsError) : Failure :=
  .io s!"Failed to read config {path}" e

/-- The configuration that a document describes, if it makes sense. -/
def ofText (text : String) : Except Failure Config := do
  let config ← (ofDocument text).mapError (fun e => Failure.json e.message)
  config.check.mapError Violation.failure
  return config

/-- Loads the configuration in a file. -/
def load (path : String) : Attempt Config := do
  let text ← .ofProgram (ControlFile.read path) (unreadable path)
  let config ← ExceptT.mk (pure (ofText text))
  Program.log .debug s!"Loaded {path} with {config.sensors.length} sensor(s)"
  return config

/-! ## Building -/

/-- Whether depulsing is asked for. -/
def wantsDepulse (c : Config) : Bool :=
  match c.depulseSecs.value with
  | .finite negative s => !negative && s.m != 0
  | .infinite negative => !negative
  | .notANumber => false

def depulseIgnored (path : String) : String :=
  s!"depulse_secs only applies to tp_fan, ignoring it for {path}"

def buildFan (c : Config) : Attempt Fan :=
  match c.fan.kind with
  | .thinkpad => do
    let fan ← ThinkpadFan.find c.fan.path
    return .thinkpad { fan with
      watchdog := c.watchdog, depulse := c.depulse, pollInterval := c.pollInterval }
  | .pwm => do
    if c.wantsDepulse then Program.log .warn (depulseIgnored c.fan.path)
    .pwm <$> PwmFan.find c.fan.path

/-- Finds the sensor that a specification names. -/
def findSensor (dndDisk : Bool) (spec : SensorSpec) : Attempt Sensor :=
  match spec.kind with
  | .hwmon => .hwmon <$> HwmonSensor.find spec.path
  | .thermal => .thermal <$> ThermalSensor.find spec.path
  | .disk => do
    let sensor ← DiskSensor.find spec.path
    return .disk { sensor with doNotDisturb := dndDisk }
  | .gpu => .gpu <$> GpuSensor.find spec.path

/-- Finds a sensor and sets its corrections. -/
def buildSensor (dndDisk : Bool) (spec : SensorSpec) : Attempt Sensor := do
  let sensor ← findSensor dndDisk spec
  match spec.correction? with
  | none => return sensor
  | some corrections =>
    (sensor.correct (corrections.map Int32.toInt)).elseFirst sensor.release

/-- Builds sensors in order, after those that are built already. -/
def buildSensorsAfter (dndDisk : Bool) (built : List Sensor) :
    List SensorSpec → Attempt (List Sensor)
  | [] => return built
  | spec :: specs => do
    let sensor ← (buildSensor dndDisk spec).elseFirst (Sensor.releaseAll built)
    buildSensorsAfter dndDisk (built ++ [sensor]) specs

/-- Builds every sensor in order. The first failure is the failure of all. -/
def buildSensors (c : Config) : Attempt (List Sensor) :=
  buildSensorsAfter c.dndDisk [] c.sensors

end Cooling.Config
