-- SUMMARY: Running a program on the machine, and the effects that its journal shows.
import Cooling.Machine.Basic
import Cooling.Program

/-!
# Running programs

`Program.run` is the value of a program on a machine together with the machine
after it. An effect is a journal entry that shows outside: a write, a sleep, a
call into a vendor library, a log message, or a printed line. Questions (the
clock, the contents of a file, the symbols of a library) are no effects.
-/

namespace Cooling

/-! ## Running -/

def Program.run : Program α → Machine → α × Machine
  | .done a, m => (a, m)
  | .ask r next, m => let (a, m') := m.serve r; (next a).run m'

namespace Program

@[simp] theorem run_done (a : α) (m : Machine) : (done a).run m = (a, m) := rfl

@[simp] theorem run_pure (a : α) (m : Machine) : (pure a : Program α).run m = (a, m) := rfl

@[simp] theorem run_ask (r : Request) (next : r.Answer → Program α) (m : Machine) :
    (ask r next).run m = (next (m.serve r).1).run (m.serve r).2 := rfl

@[simp] theorem run_request (r : Request) (m : Machine) : (request r).run m = m.serve r := rfl

@[simp] theorem run_bind (x : Program α) (k : α → Program β) (m : Machine) :
    (x >>= k).run m = (k (x.run m).1).run (x.run m).2 := by
  induction x generalizing m with
  | done a => rfl
  | ask r next ih => exact ih _ _

end Program

/-! ## Effects -/

inductive Effect where
  | wrote (path : String) (contents : ByteArray)
  | writeFailed (path : String) (errno : Int)
  | slept (d : Duration)
  /-- A call into a vendor library, by the name of its function. -/
  | called (function : String) (argument : Option String)
  | logged (severity : Severity) (message : String)
  | printed (line : String)

/-- The effect of an answered request, if it has one. -/
def Effect.ofAnswer? : (r : Request) → r.Answer → Option Effect
  | .writeFile path contents, .ok () => some (.wrote path contents)
  | .writeFile path _, .error (.errno n) => some (.writeFailed path n)
  | .sleep d, _ => some (.slept d)
  | .log severity message, _ => some (.logged severity message)
  | .print line, _ => some (.printed line)
  | .loadLibrary name, _ => some (.called "dlopen" name)
  | .unloadLibrary name, _ => some (.called "dlclose" name)
  | .nvmlInit, _ => some (.called "nvmlInit_v2" none)
  | .nvmlShutdown, _ => some (.called "nvmlShutdown" none)
  | .nvmlHandle bus, _ => some (.called "nvmlDeviceGetHandleByPciBusId_v2" bus)
  | .nvmlName bus _, _ => some (.called "nvmlDeviceGetName" bus)
  | .nvmlTemperature bus, _ => some (.called "nvmlDeviceGetTemperature" bus)
  | .diskOpen path, _ => some (.called "sk_disk_open" path)
  | .diskAwake path, _ => some (.called "sk_disk_check_sleep_mode" path)
  | .diskRead path, _ => some (.called "sk_disk_smart_read_data" path)
  | .diskTemperature path, _ => some (.called "sk_disk_smart_get_temperature" path)
  | .diskFree path, _ => some (.called "sk_disk_free" path)
  | _, _ => none

/-- The attempts of a request to write that were interrupted. -/
def Entry.interrupted (e : Entry) : List Effect :=
  match e.request with
  | .writeFile path _ => List.replicate e.interruptions (.writeFailed path OsError.interruption)
  | _ => []

/-- The effects of an answered request: first the attempts that were interrupted. -/
def Entry.effects (e : Entry) : List Effect :=
  e.interrupted ++ (Effect.ofAnswer? e.request e.answer).toList

/-- What has happened on the machine, in order. -/
def Machine.history (m : Machine) : List Entry := m.journal.reverse

/-- The effects of everything that has happened, in order. -/
def Machine.effects (m : Machine) : List Effect := m.history.flatMap Entry.effects

end Cooling
