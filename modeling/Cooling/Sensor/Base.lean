-- SUMMARY: What every sensor carries: its path, how many temperatures it gives, and the corrections for them; and what a read gives.
import Cooling.ControlFile
import Cooling.Temperatures
import Cooling.Text.Digits
import Cooling.Text.Quoted

/-!
# Sensor bases

A sensor gives a fixed number of temperatures in each cycle, and a correction
is added to each of them. The list of corrections may be shorter than that
number; the temperatures past its end are left as they are.
-/

namespace Cooling

structure SensorBase where
  path : String
  count : Nat := 0
  corrections : List Int := []
  deriving DecidableEq, Repr

namespace SensorBase

def unopened (path : String) (e : OsError) : Failure :=
  .io s!"Failed to open sensor {path}" e

/-- A base for a file that can be opened for reading. -/
def find (path : String) : Attempt SensorBase := do
  .ofProgram (ControlFile.check path) (unopened path)
  return { path }

/-- Sets the number of temperatures. Corrections past it are dropped, and new
    temperatures are left as they are. -/
def withCount (base : SensorBase) (n : Nat) : SensorBase :=
  { base with
    count := n
    corrections := base.corrections.take n ++ List.replicate (n - base.corrections.length) 0 }

@[simp] theorem count_withCount (base : SensorBase) (n : Nat) : (base.withCount n).count = n := rfl
@[simp] theorem path_withCount (base : SensorBase) (n : Nat) :
    (base.withCount n).path = base.path := rfl

def tooManyCorrections (base : SensorBase) (given : Nat) : Failure :=
  .config s!"Sensor {base.path} has {base.count} temperatures but {given} correction values were given"

def fewCorrections (base : SensorBase) (given : Nat) : String :=
  s!"Sensor {base.path} has {base.count} temperatures but only {given} correction values. The rest are left uncorrected."

/-- Sets the corrections, at most one for each temperature. -/
def correct (base : SensorBase) (corrections : List Int) : Attempt SensorBase := do
  if base.count < corrections.length then throw (base.tooManyCorrections corrections.length)
  if corrections.length < base.count then
    Program.log .warn (base.fewCorrections corrections.length)
  return { base with corrections := corrections }

/-- The correction for a temperature. -/
def correction (base : SensorBase) (i : Nat) : Int := (base.corrections[i]?).getD 0

def outOfRange (base : SensorBase) (i : Nat) (t : Int) : Failure :=
  .system s!"{base.path}: Temperature {t} with correction {base.correction i} is out of range"

/-- A temperature with its correction, if that is still a number of 32 bits. -/
def corrected (base : SensorBase) (i : Nat) (t : Int) : Except Failure Int :=
  let sum := t + base.correction i
  if Text.fits32 sum then .ok sum else .error (base.outOfRange i t)

end SensorBase

/-! ## Readings -/

/-- What a sensor gave in one read: temperatures, and the failure that ended the
    read, if there was one. -/
structure Reading where
  temperatures : List Int
  failure? : Option Failure
  deriving DecidableEq, Repr

namespace Reading

def ok (ts : List Int) : Reading := ⟨ts, none⟩

def failed (f : Failure) : Reading := ⟨[], some f⟩

/-- The reading of a sensor with one temperature. -/
def ofExcept : Except Failure Int → Reading
  | .ok t => ok [t]
  | .error f => failed f

/-- How the read went. -/
def outcome (r : Reading) : Except Failure Unit :=
  match r.failure? with
  | none => .ok ()
  | some f => .error f

/-- A reading with one more temperature in front. -/
def cons (t : Int) (r : Reading) : Reading := { r with temperatures := t :: r.temperatures }

@[simp] theorem temperatures_ok (ts : List Int) : (ok ts).temperatures = ts := rfl
@[simp] theorem failure?_ok (ts : List Int) : (ok ts).failure? = none := rfl
@[simp] theorem temperatures_failed (f : Failure) : (failed f).temperatures = [] := rfl
@[simp] theorem failure?_failed (f : Failure) : (failed f).failure? = some f := rfl
@[simp] theorem temperatures_cons (t : Int) (r : Reading) :
    (cons t r).temperatures = t :: r.temperatures := rfl
@[simp] theorem failure?_cons (t : Int) (r : Reading) : (cons t r).failure? = r.failure? := rfl

end Reading

end Cooling
