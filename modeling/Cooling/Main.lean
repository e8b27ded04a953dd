-- SUMMARY: The command line program: answers the requests of a session on a real computer.
import Cooling.Session.Run

/-!
# The program

The real computer answers requests on files, the clock and the streams. It has
no loader for vendor libraries, so a sensor that needs one is not found. Nothing
catches the signal to stop: it ends the process, and the watchdog of the kernel
takes a ThinkPad fan back.
-/

namespace Cooling.Main

/-! ## Answering requests -/

/-- The error of an operation on a file. -/
def osError : IO.Error → OsError
  | .noFileOrDirectory _ n _ | .interrupted _ n _ => .errno n.toNat
  | .alreadyExists _ n _ | .invalidArgument _ n _ | .permissionDenied _ n _
  | .resourceExhausted _ n _ | .inappropriateType _ n _ | .noSuchThing _ n _ => .errno n.toNat
  | .otherError n _ | .resourceBusy n _ | .resourceVanished n _ | .unsupportedOperation n _
  | .hardwareFault n _ | .unsatisfiedConstraints n _ | .illegalOperation n _
  | .protocolError n _ | .timeExpired n _ => .errno n.toNat
  | .unexpectedEof => .other "unexpected end of file"
  | .userError text => .other text

/-- The answer of an operation on a file, which is made again whenever it is interrupted. -/
def onFile (operation : IO α) : IO (Except OsError α) := do
  repeat
    try return .ok (← operation)
    catch e =>
      let e := osError e
      if e ≠ .errno OsError.interruption then return .error e
  return .error (.errno OsError.interruption)

/-- Replaces the contents of a file that exists already. -/
def replaceContents (path : String) (contents : ByteArray) : IO Unit := do
  let _ ← IO.FS.Handle.mk path .readWrite
  IO.FS.writeBinFile path contents

/-- The effective user of this process, or a user that is not root if it cannot be told. -/
def effectiveUser : IO Nat := do
  match ← onFile (IO.FS.readFile "/proc/self/status") with
  | .error _ => return 65534
  | .ok status =>
    let rows := (Text.lines status.toList).map Text.words
    match rows.find? (fun row => row.head? == some "Uid:".toList) with
    | some (_ :: _ :: user :: _) => return (Text.natural? user).getD 65534
    | _ => return 65534

/-- How much a log shows: 0 for errors alone, 4 for everything. -/
def verbosity (level : String) : Nat :=
  match level with
  | "error" => 0
  | "warn" => 1
  | "debug" => 3
  | "trace" => 4
  | _ => 2

/-- The place of a message in the order of severities, and its name. -/
def rank : Severity → Nat × String
  | .error => (0, "ERROR")
  | .warn => (1, "WARN")
  | .info => (2, "INFO")
  | .debug => (3, "DEBUG")
  | .trace => (4, "TRACE")

/-- The answer of the real computer to a request. -/
def answer (shown : Nat) : (r : Request) → IO r.Answer
  | .openFile path => onFile do let _ ← IO.FS.Handle.mk path .read
  | .readFile path => onFile (IO.FS.readBinFile path)
  | .writeFile path contents => onFile (replaceContents path contents)
  | .now => return ⟨← IO.monoNanosNow⟩
  | .sleep d => IO.sleep (UInt32.ofNat ((d.nanos + 999999) / 1000000))
  | .running => return true
  | .userId => effectiveUser
  | .log severity message => do
    let (place, name) := rank severity
    if place ≤ shown then IO.eprintln s!"{name} {message}"
  | .print line => IO.println line
  | .loadLibrary name =>
    return .error (some s!"{name}: cannot open shared object file: No such file or directory")
  | .unloadLibrary _ => return ()
  | .hasSymbol _ _ => return false
  | .nvmlInit => return 1
  | .nvmlShutdown => return 1
  | .nvmlHandle _ => return 1
  | .nvmlName _ _ => return ⟨1, ByteArray.empty⟩
  | .nvmlTemperature _ => return ⟨1, 0⟩
  | .diskOpen _ => return ⟨-1, 2, false⟩
  | .diskAwake _ => return ⟨-1, 2, true⟩
  | .diskRead _ => return ⟨-1, 2, ()⟩
  | .diskTemperature _ => return ⟨-1, 2, 0⟩
  | .diskFree _ => return ()

/-- Runs a program on the real computer. -/
def perform (shown : Nat) : Program α → IO α
  | .done a => return a
  | .ask r next => do
    let a ← answer shown r
    perform shown (next a)

/-! ## The command line -/

def usage : String :=
  "Usage: fanhal [--log-level LEVEL] sensors [--config PATH] [--cycles N]\n" ++
  "       fanhal [--log-level LEVEL] fan --level LEVEL [--config PATH] [--seconds N]"

/-- What a user is told instead of starting a session. -/
def explanation : UsageError → String
  | .help | .helpInstead => usage
  | .version => "fanhal 0.1.0"
  | .missingSubcommand => "error: a subcommand is required\n\n" ++ usage
  | .unknownSubcommand => "error: unrecognized subcommand\n\n" ++ usage
  | .unknownArgument => "error: unexpected argument\n\n" ++ usage
  | .noValue => "error: a value is required\n\n" ++ usage
  | .badValue => "error: invalid value\n\n" ++ usage
  | .surplusValue => "error: unexpected value\n\n" ++ usage
  | .missingOption => "error: the option --level is required\n\n" ++ usage
  | .repeatedOption => "error: an option cannot be used multiple times\n\n" ++ usage

/-- The last words of a session that broke down. -/
def lastWords (messages : List String) : String :=
  "Error: " ++ "\n\nCaused by:\n    ".intercalate messages

/-- The status of a process whose session broke down. -/
def exitStatus : Session.Breakdown → UInt32
  | .overflow => 101
  | _ => 1

/-- More cycles or naps than any process lives through. -/
def patience : Nat := 1000000000000000000

end Cooling.Main

open Cooling Cooling.Main in
def main (args : List String) : IO UInt32 := do
  match CommandLine.parse ("fanhal" :: args) with
  | .error e =>
    if e.exitCode = 0 then IO.println (explanation e) else IO.eprintln (explanation e)
    return UInt32.ofNat e.exitCode
  | .ok invocation =>
    let config? := (← IO.getEnv "FANHAL_CONFIG").map String.toUTF8
    let logLevel? := (← IO.getEnv "FANHAL_LOG").map String.toUTF8
    let shown := verbosity (Session.logLevel invocation.logLevel? logLevel?)
    match ← perform shown (Session.run patience { config?, logLevel? } invocation).run with
    | .ok () => return 0
    | .error breakdown =>
      IO.eprintln (lastWords breakdown.chain)
      return exitStatus breakdown
