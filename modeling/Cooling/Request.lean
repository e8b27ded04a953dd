-- SUMMARY: What drivers ask of the computer they run on: files, the clock, logging, and the calls into vendor libraries.
import Cooling.Time
import Cooling.Failure

/-!
# Requests

Everything that a driver does to its surroundings is a request to the host, and
every request has a type of answers. The drivers themselves only decide what to
ask next. A host that is interrupted while it works on a file tries again, so no
driver has to.
-/

namespace Cooling

/-! ## Log messages -/

inductive Severity where
  | error | warn | info | debug | trace
  deriving DecidableEq, Repr

/-! ## Answers of vendor libraries -/

/-- The answer of the GPU management library: its return code, which is 0 on
    success, and what it stored. -/
structure NvmlReply (α : Type) where
  code : Nat
  value : α

/-- The answer of the disk library: its return code, which is negative on
    failure, the error number it left behind, and what it stored. -/
structure DiskReply (α : Type) where
  code : Int
  errno : Int
  value : α

/-! ## Requests -/

inductive Request where
  /-- Open a file for reading, and do nothing with it. -/
  | openFile (path : String)
  /-- The whole contents of a file. -/
  | readFile (path : String)
  /-- Replace the contents of an existing file. -/
  | writeFile (path : String) (contents : ByteArray)
  | now
  | sleep (d : Duration)
  /-- Whether the program has not been told to stop. -/
  | running
  /-- The effective user. -/
  | userId
  | log (severity : Severity) (message : String)
  /-- Print a line on the standard output. -/
  | print (line : String)
  /-- Load a shared library. The error is the text of the loader, if it has one. -/
  | loadLibrary (name : String)
  | unloadLibrary (name : String)
  | hasSymbol (library symbol : String)
  | nvmlInit
  | nvmlShutdown
  /-- Look a GPU up by its PCI bus id. -/
  | nvmlHandle (bus : String)
  /-- The name of a GPU, if it fits into a buffer of `capacity` bytes. -/
  | nvmlName (bus : String) (capacity : Nat)
  | nvmlTemperature (bus : String)
  /-- Open a disk. The value says whether there is a handle. -/
  | diskOpen (path : String)
  /-- Whether a disk is awake. Does not wake it. -/
  | diskAwake (path : String)
  /-- Make a disk read its S.M.A.R.T. data. -/
  | diskRead (path : String)
  /-- The temperature in the data read last, in millikelvin. -/
  | diskTemperature (path : String)
  | diskFree (path : String)

namespace Request

@[reducible] def Answer : Request → Type
  | openFile _ => Except OsError Unit
  | readFile _ => Except OsError ByteArray
  | writeFile _ _ => Except OsError Unit
  | now => Instant
  | sleep _ => Unit
  | running => Bool
  | userId => Nat
  | log _ _ => Unit
  | print _ => Unit
  | loadLibrary _ => Except (Option String) Unit
  | unloadLibrary _ => Unit
  | hasSymbol _ _ => Bool
  | nvmlInit => Nat
  | nvmlShutdown => Nat
  | nvmlHandle _ => Nat
  | nvmlName _ _ => NvmlReply ByteArray
  | nvmlTemperature _ => NvmlReply Nat
  | diskOpen _ => DiskReply Bool
  | diskAwake _ => DiskReply Bool
  | diskRead _ => DiskReply Unit
  | diskTemperature _ => DiskReply Nat
  | diskFree _ => Unit

end Request

end Cooling
