-- SUMMARY: The temperature of a disk from its S.M.A.R.T. data, and leaving a sleeping disk alone.
import Cooling.Sensor.Base
import Cooling.Vendor.Smart
import Cooling.Binary64.Basic

/-!
# Disk sensors

The disk library gives millikelvin, which are turned into degrees in
double-precision arithmetic and cut off toward zero. With do-not-disturb a disk
that sleeps is not woken; it reads as 0 then.
-/

namespace Cooling

structure DiskSensor where
  base : SensorBase
  disk : SmartDisk
  /-- Leave the disk alone while it sleeps. -/
  doNotDisturb : Bool := false
  deriving DecidableEq, Repr

namespace DiskSensor

def find (path : String) : Attempt DiskSensor := do
  let disk ← SmartDisk.acquire path
  return { base := SensorBase.withCount { path } 1, disk }

/-- Millikelvin as degrees Celsius, rounded to a double at each step. -/
def celsius (mkelvin : Nat) : Rat :=
  let kelvin := Binary64.nearest (Binary64.nearest mkelvin - 273150)
  Binary64.nearest (kelvin / 1000)

/-- Millikelvin as whole degrees Celsius, toward zero, if that is a number of 32 bits. -/
def wholeCelsius? (mkelvin : Nat) : Option Int :=
  let c := celsius mkelvin
  if c < -2147483648 ∨ 2147483647 < c then none else some (c.num.tdiv c.den)

def outOfRange (path : String) (mkelvin : Nat) : Failure :=
  .system s!"{path}: Temperature of {mkelvin} mK is out of range"

/-- Whether the disk is to be left alone in this cycle. -/
def resting (sensor : DiskSensor) : Attempt Bool :=
  if sensor.doNotDisturb then sensor.disk.sleeping else return false

/-- The temperature of a disk that may be disturbed. -/
def measure (sensor : DiskSensor) : Attempt Int := do
  sensor.disk.refresh
  let mkelvin ← sensor.disk.mkelvin
  match wholeCelsius? mkelvin with
  | none => throw (outOfRange sensor.base.path mkelvin)
  | some t => ExceptT.mk (pure (sensor.base.corrected 0 t))

def read (sensor : DiskSensor) : Program Reading :=
  Reading.ofExcept <$> ExceptT.run do
    if ← sensor.resting then return 0
    sensor.measure

/-- Lets the disk and its library go. -/
def release (sensor : DiskSensor) : Program Unit := sensor.disk.close

end DiskSensor

end Cooling
