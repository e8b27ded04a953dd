-- SUMMARY: The core temperature of an NVIDIA GPU, through a session with the management library.
import Cooling.Sensor.Base
import Cooling.Vendor.Nvml

/-!
# GPU sensors

A GPU sensor holds a session with the management library until it is shut down.
Its temperature is given as it is: no correction is added.
-/

namespace Cooling

structure GpuSensor where
  base : SensorBase
  /-- The session and the GPU in it, until the sensor is shut down. -/
  backend? : Option (NvmlSession × NvmlDevice)
  deriving DecidableEq, Repr

namespace GpuSensor

def foundName (bus name : String) : String := s!"{bus}: Initialized NVML sensor on {name}"

def foundNameless (bus : String) (f : Failure) : String :=
  s!"{bus}: Initialized NVML sensor, device name unknown: {f.message}"

/-- Logs which GPU was found. A GPU that does not tell its name will do. -/
def announce (session : NvmlSession) (device : NvmlDevice) : Program Unit := do
  match ← (session.deviceName device).run with
  | .ok name => Program.log .debug (foundName device.bus name)
  | .error f => Program.log .warn (foundNameless device.bus f)

/-- Finds the GPU with a PCI bus id. -/
def find (bus : String) : Attempt GpuSensor := do
  let session ← NvmlSession.start
  let device ← (session.device bus).elseFirst session.drop
  announce session device
  return { base := SensorBase.withCount { path := bus } 1, backend? := some (session, device) }

def alreadyShutDown (bus : String) : Failure := .system s!"{bus}: NVML has been shut down"

def outOfRange (bus : String) (t : Nat) : Failure :=
  .system s!"{bus}: GPU temperature {t} is out of range"

/-- The temperature of the GPU, if it is a number of 32 bits with a sign. -/
def measure (sensor : GpuSensor) : Attempt Int :=
  match sensor.backend? with
  | none => throw (alreadyShutDown sensor.base.path)
  | some (session, device) => do
    let t ← session.temperature device
    if t < 2147483648 then return t else throw (outOfRange sensor.base.path t)

def read (sensor : GpuSensor) : Program Reading := Reading.ofExcept <$> sensor.measure.run

/-- Ends the session and unloads the library. Only the first time does anything. -/
def shutdown (sensor : GpuSensor) : Attempt Unit :=
  match sensor.backend? with
  | none => return ()
  | some (session, _) => session.shutdown.thenAlways session.ended.drop

/-- The sensor after an attempt to shut it down, whatever came of that. -/
def ended (sensor : GpuSensor) : GpuSensor := { sensor with backend? := none }

/-- Lets the sensor go. It is shut down if that has not been tried yet. -/
def release (sensor : GpuSensor) : Program Unit :=
  sensor.shutdown.orLog NvmlSession.notShutDown

end GpuSensor

end Cooling
