-- SUMMARY: Disks behind the S.M.A.R.T. library: opening one, asking whether it sleeps, and reading its temperature.
import Cooling.Vendor.Library

/-!
# S.M.A.R.T. disks

The disk library reports a failed call by a negative return code and leaves an
error number behind. An open disk holds the library that it was opened with: the
disk is freed first, and the library is unloaded after that.
-/

namespace Cooling

/-- An open disk. -/
structure SmartDisk where
  path : String
  library : Library
  deriving DecidableEq, Repr

namespace SmartDisk

def libraryNames : List String := ["libatasmart.so.4", "libatasmart.so"]

/-- The functions that are needed, in the order in which they are looked up. -/
def symbols : List String :=
  ["sk_disk_open", "sk_disk_check_sleep_mode", "sk_disk_smart_read_data",
    "sk_disk_smart_get_temperature", "sk_disk_free"]

def incompatible (library symbol : String) : Failure :=
  .system s!"Incompatible libatasmart: {library} does not export {symbol}"

def invalidPath (path : String) : Failure :=
  .config s!"Invalid device path: {Text.quoted path}"

def callFailed (function path : String) (errno : Int) : Failure :=
  let reason := (OsError.errno errno).message
  .system s!"{function}({path}): {reason}"

/-- Opens the disk in a library that is already loaded. -/
def acquireIn (library : Library) (path : String) : Attempt SmartDisk := do
  library.requireAll (incompatible library.name) symbols
  if '\x00' ∈ path.toList then throw (invalidPath path)
  let reply ← Program.request (.diskOpen path)
  if reply.code < 0 ∨ reply.value = false then
    throw (callFailed "sk_disk_open" path reply.errno)
  Program.log .trace s!"Opened {path} via libatasmart"
  return { path, library }

/-- Opens a block device. -/
def acquire (path : String) : Attempt SmartDisk := do
  let library ← Library.loadAny libraryNames
  (acquireIn library path).elseFirst library.unload

/-- Whether the disk is in a low-power state. Does not wake it. -/
def sleeping (disk : SmartDisk) : Attempt Bool := do
  let reply ← Program.request (.diskAwake disk.path)
  if reply.code < 0 then throw (callFailed "sk_disk_check_sleep_mode" disk.path reply.errno)
  return !reply.value

/-- Makes the disk read its S.M.A.R.T. data. -/
def refresh (disk : SmartDisk) : Attempt Unit := do
  let reply ← Program.request (.diskRead disk.path)
  if reply.code < 0 then throw (callFailed "sk_disk_smart_read_data" disk.path reply.errno)

/-- The temperature in the data read last, in millikelvin. -/
def mkelvin (disk : SmartDisk) : Attempt Nat := do
  let reply ← Program.request (.diskTemperature disk.path)
  if reply.code < 0 then throw (callFailed "sk_disk_smart_get_temperature" disk.path reply.errno)
  return reply.value

/-- Frees the disk, and then unloads the library. -/
def close (disk : SmartDisk) : Program Unit := do
  Program.request (.diskFree disk.path)
  Program.log .trace s!"Closed {disk.path}"
  disk.library.unload

end SmartDisk

end Cooling
