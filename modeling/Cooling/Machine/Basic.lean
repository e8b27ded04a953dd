-- SUMMARY: The in-memory machine: files with scheduled faults, a clock with scheduled changes, vendor libraries and devices.
import Cooling.Machine.Registry
import Cooling.Request

/-!
# The machine

A machine answers every request of a program from its own state and notes the
request and the answer in its journal. Files hold bytes under exact paths.
Faults make chosen operations on a file fail. An operation that fails because it
was interrupted is made again, so a program never learns of it: only the journal
tells how often that happened. The clock moves when a program sleeps, and
changes that are due by then happen at the end of that sleep: this is how files,
devices and the stop signal change during a run.
-/

namespace Cooling

/-! ## Faults -/

/-- The steps of accessing a file that can fail. -/
inductive FileStep where
  | openRead | openWrite | read | write
  deriving DecidableEq, Repr

/-- A step on a file that fails with an error number: not the first `skip`
    times, and then `times` times, or for ever. -/
structure Fault where
  path : String
  step : FileStep
  errno : Int
  skip : Nat := 0
  times : Option Nat := none
  deriving DecidableEq, Repr

/-- Asks the faults, in order, whether a step on a file fails. -/
def Fault.consult (path : String) (step : FileStep) : List Fault → Option Int × List Fault
  | [] => (none, [])
  | f :: fs =>
    if f.path = path ∧ f.step = step then
      match f.skip, f.times with
      | skip + 1, _ =>
        let (e, fs') := consult path step fs
        (e, { f with skip := skip } :: fs')
      | 0, some 0 =>
        let (e, fs') := consult path step fs
        (e, f :: fs')
      | 0, some (n + 1) => (some f.errno, { f with times := some n } :: fs)
      | 0, none => (some f.errno, f :: fs)
    else
      let (e, fs') := consult path step fs
      (e, f :: fs')

/-- How a step ends that is made again whenever it is interrupted. -/
structure StepOutcome where
  interruptions : Nat := 0
  /-- The error number with which the step fails, if it does. -/
  errno? : Option Int := none
  /-- The faults that are left. -/
  faults : List Fault

/-- Asks the faults about a step until the answer is not that it was interrupted, at
    most as often as the first number says. -/
def Fault.persist (path : String) (step : FileStep) : Nat → List Fault → StepOutcome
  | 0, fs => { errno? := some OsError.interruption, faults := fs }
  | n + 1, fs =>
    match consult path step fs with
    | (none, fs) => { faults := fs }
    | (some e, fs) =>
      if e = OsError.interruption then
        let o := persist path step n fs
        { o with interruptions := o.interruptions + 1 }
      else { errno? := some e, faults := fs }

/-- A bound on how often the faults can answer before they answer the same for ever:
    every answer of a fault that ends takes from its `skip` or its `times`. -/
def Fault.patience (fs : List Fault) : Nat :=
  fs.foldl (fun n f => n + f.skip + f.times.getD 0) 1

/-- How a step on a file ends. A step that is interrupted for ever fails as such. -/
def Fault.outcome (path : String) (step : FileStep) (fs : List Fault) : StepOutcome :=
  persist path step (patience fs) fs

@[simp] theorem Fault.outcome_nil (path : String) (step : FileStep) :
    outcome path step [] = { faults := [] } := rfl

/-! ## Libraries and devices -/

/-- Which functions a library file offers. -/
inductive LibraryApi where
  | nvml | smart | other
  deriving DecidableEq, Repr

def LibraryApi.symbols : LibraryApi → List String
  | nvml => ["nvmlInit_v2", "nvmlDeviceGetHandleByPciBusId_v2", "nvmlDeviceGetName",
      "nvmlDeviceGetTemperature", "nvmlShutdown"]
  | smart => ["sk_disk_open", "sk_disk_check_sleep_mode", "sk_disk_smart_read_data",
      "sk_disk_smart_get_temperature", "sk_disk_free"]
  | other => []

structure LibraryFile where
  api : LibraryApi
  /-- Functions that this file lacks. -/
  missing : List String := []
  /-- Why the file does not load, if it does not: the text of the loader, if it
      has one. -/
  refusal : Option (Option String) := none

def LibraryFile.hasSymbol (l : LibraryFile) (symbol : String) : Bool :=
  l.api.symbols.contains symbol && !l.missing.contains symbol

/-- A disk behind the disk library: the return code of each call, and what the
    calls store. -/
structure Disk where
  openCode : Int := 0
  /-- Opening stores no handle. -/
  noHandle : Bool := false
  sleepCode : Int := 0
  awake : Bool := true
  readCode : Int := 0
  temperatureCode : Int := 0
  mkelvin : Nat := 0
  errno : Int := 5

/-- A GPU behind the management library: the return code of each call, and what
    the calls store. -/
structure Gpu where
  handleCode : Nat := 0
  nameCode : Nat := 0
  name : ByteArray := "GPU".toUTF8
  temperatureCode : Nat := 0
  temperature : Nat := 0

/-! ## Changes from outside -/

/-- What can happen to a machine that no program asked for. -/
inductive Change where
  | put (path : String) (contents : ByteArray)
  | remove (path : String)
  | fault (f : Fault)
  | clearFaults
  | advance (d : Duration)
  | user (id : Nat)
  | library (name : String) (file : LibraryFile)
  | disk (path : String) (d : Disk)
  | gpu (bus : String) (g : Gpu)
  | nvmlCodes (init shutdown : Nat)
  /-- The signal to stop. -/
  | stop

/-! ## The machine -/

/-- A request, the time at which it was made, how often it was interrupted and made
    again, and its answer. -/
structure Entry where
  time : Instant
  request : Request
  answer : request.Answer
  interruptions : Nat := 0

structure Machine where
  files : Registry ByteArray := ∅
  faults : List Fault := []
  clock : Instant := ⟨1000000000000⟩
  userId : Nat := 0
  libraries : Registry LibraryFile := ∅
  disks : Registry Disk := ∅
  gpus : Registry Gpu := ∅
  nvmlInitCode : Nat := 0
  nvmlShutdownCode : Nat := 0
  running : Bool := true
  /-- The changes to come, in the order of their times. -/
  pending : List (Instant × Change) := []
  /-- Every request so far with its answer, the last one first. -/
  journal : List Entry := []

namespace Machine

def change (m : Machine) : Change → Machine
  | .put path contents => { m with files := m.files.set path contents }
  | .remove path => { m with files := m.files.remove path }
  | .fault f => { m with faults := m.faults ++ [f] }
  | .clearFaults => { m with faults := [] }
  | .advance d => { m with clock := m.clock.after d }
  | .user id => { m with userId := id }
  | .library name file => { m with libraries := m.libraries.set name file }
  | .disk path d => { m with disks := m.disks.set path d }
  | .gpu bus g => { m with gpus := m.gpus.set bus g }
  | .nvmlCodes i s => { m with nvmlInitCode := i, nvmlShutdownCode := s }
  | .stop => { m with running := false }

/-- Makes the changes that are due. -/
def settle (m : Machine) : List (Instant × Change) → Machine
  | [] => { m with pending := [] }
  | (t, c) :: rest =>
    if t.nanos ≤ m.clock.nanos then settle (m.change c) rest
    else { m with pending := (t, c) :: rest }

/-! ## Files -/

/-- The error number with which a step on a file fails, if it does. -/
def tries (m : Machine) (path : String) (step : FileStep) : Option Int × Machine :=
  let o := Fault.outcome path step m.faults
  (o.errno?, { m with faults := o.faults })

/-- Like `tries`, for a step that a fault can interrupt only once: when it is made
    again, it does not fail. -/
def triesOnce (m : Machine) (path : String) (step : FileStep) : Option Int × Machine :=
  let (e, faults) := Fault.consult path step m.faults
  (if e = some OsError.interruption then none else e, { m with faults := faults })

def openFile (m : Machine) (path : String) : Except OsError ByteArray × Machine :=
  match m.tries path .openRead with
  | (some e, m) => (.error (.errno e), m)
  | (none, m) =>
    match m.files.get? path with
    | none => (.error .noEntry, m)
    | some contents => (.ok contents, m)

def readFile (m : Machine) (path : String) : Except OsError ByteArray × Machine :=
  match m.openFile path with
  | (.error e, m) => (.error e, m)
  | (.ok contents, m) =>
    match m.triesOnce path .read with
    | (some e, m) => (.error (.errno e), m)
    | (none, m) => (.ok contents, m)

/-- Opening for writing empties the file. Writing nothing does not write. -/
def writeFile (m : Machine) (path : String) (contents : ByteArray) :
    Except OsError Unit × Machine :=
  match m.tries path .openWrite with
  | (some e, m) => (.error (.errno e), m)
  | (none, m) =>
    match m.files.get? path with
    | none => (.error .noEntry, m)
    | some _ =>
      let m := { m with files := m.files.set path ByteArray.empty }
      if contents.isEmpty then (.ok (), m)
      else match m.tries path .write with
        | (some e, m) => (.error (.errno e), m)
        | (none, m) => (.ok (), { m with files := m.files.set path contents })

/-! ## Vendor libraries -/

def loadLibrary (m : Machine) (name : String) : Except (Option String) Unit :=
  match m.libraries.get? name with
  | none => .error (some s!"{name}: cannot open shared object file: No such file or directory")
  | some file =>
    match file.refusal with
    | some text => .error text
    | none => .ok ()

def hasSymbol (m : Machine) (library symbol : String) : Bool :=
  match m.libraries.get? library with
  | none => false
  | some file => file.hasSymbol symbol

def gpu (m : Machine) (bus : String) : Gpu := (m.gpus.get? bus).getD {}

def nvmlHandle (m : Machine) (bus : String) : Nat :=
  match m.gpus.get? bus with
  | none => 6
  | some g => g.handleCode

def nvmlName (m : Machine) (bus : String) (capacity : Nat) : NvmlReply ByteArray :=
  let g := m.gpu bus
  if g.nameCode ≠ 0 then ⟨g.nameCode, ByteArray.empty⟩
  else if capacity < g.name.size + 1 then ⟨7, ByteArray.empty⟩
  else ⟨0, g.name⟩

def nvmlTemperature (m : Machine) (bus : String) : NvmlReply Nat :=
  let g := m.gpu bus
  ⟨g.temperatureCode, if g.temperatureCode = 0 then g.temperature else 0⟩

def disk (m : Machine) (path : String) : Disk := (m.disks.get? path).getD {}

def diskOpen (m : Machine) (path : String) : DiskReply Bool :=
  match m.disks.get? path with
  | none => ⟨-1, 2, false⟩
  | some d => ⟨d.openCode, d.errno, !d.noHandle⟩

def diskAwake (m : Machine) (path : String) : DiskReply Bool :=
  let d := m.disk path
  ⟨d.sleepCode, d.errno, if 0 ≤ d.sleepCode then d.awake else true⟩

def diskRead (m : Machine) (path : String) : DiskReply Unit :=
  let d := m.disk path
  ⟨d.readCode, d.errno, ()⟩

def diskTemperature (m : Machine) (path : String) : DiskReply Nat :=
  let d := m.disk path
  ⟨d.temperatureCode, d.errno, if 0 ≤ d.temperatureCode then d.mkelvin else 0⟩

/-! ## Answering -/

/-- The answer to a request, and the machine after it. -/
def answer (m : Machine) : (r : Request) → r.Answer × Machine
  | .openFile path =>
    match m.openFile path with
    | (.ok _, m) => (.ok (), m)
    | (.error e, m) => (.error e, m)
  | .readFile path => m.readFile path
  | .writeFile path contents => m.writeFile path contents
  | .now => (m.clock, m)
  | .sleep d => ((), { m with clock := m.clock.after d }.settle m.pending)
  | .running => (m.running, m)
  | .userId => (m.userId, m)
  | .log _ _ => ((), m)
  | .print _ => ((), m)
  | .loadLibrary name => (m.loadLibrary name, m)
  | .unloadLibrary _ => ((), m)
  | .hasSymbol library symbol => (m.hasSymbol library symbol, m)
  | .nvmlInit => (m.nvmlInitCode, m)
  | .nvmlShutdown => (m.nvmlShutdownCode, m)
  | .nvmlHandle bus => (m.nvmlHandle bus, m)
  | .nvmlName bus capacity => (m.nvmlName bus capacity, m)
  | .nvmlTemperature bus => (m.nvmlTemperature bus, m)
  | .diskOpen path => (m.diskOpen path, m)
  | .diskAwake path => (m.diskAwake path, m)
  | .diskRead path => (m.diskRead path, m)
  | .diskTemperature path => (m.diskTemperature path, m)
  | .diskFree _ => ((), m)

/-- How often a step on a file is interrupted and made again. -/
def interruptions (m : Machine) (path : String) (step : FileStep) : Nat :=
  (Fault.outcome path step m.faults).interruptions

/-- How often a request to write is interrupted and made again, while the file is
    opened and while it is written. -/
def writeInterruptions (m : Machine) (path : String) (contents : ByteArray) : Nat :=
  let n := m.interruptions path .openWrite
  match m.tries path .openWrite with
  | (some _, _) => n
  | (none, m) =>
    if (m.files.get? path).isNone || contents.isEmpty then n
    else n + m.interruptions path .write

/-- How often a request is interrupted and made again. -/
def requestInterruptions (m : Machine) : Request → Nat
  | .openFile path | .readFile path => m.interruptions path .openRead
  | .writeFile path contents => m.writeInterruptions path contents
  | _ => 0

/-- Answers a request and notes it in the journal. -/
def serve (m : Machine) (r : Request) : r.Answer × Machine :=
  let (a, m') := m.answer r
  (a, { m' with journal := ⟨m.clock, r, a, m.requestInterruptions r⟩ :: m'.journal })

end Machine

end Cooling
