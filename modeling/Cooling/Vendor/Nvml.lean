-- SUMMARY: Sessions with the NVIDIA management library: starting one, looking GPUs up, their names and temperatures, and ending it.
import Cooling.Vendor.Library
import Cooling.Text.Utf8

/-!
# Sessions with the NVIDIA management library

The management library answers every call with a code, which is 0 on success. A
session holds the library that it was started with. It is ended once, at the
latest when it is dropped, and the library is unloaded after that.
-/

namespace Cooling

/-- A session, which stays usable until it is shut down. -/
structure NvmlSession where
  library : Library
  initialized : Bool := true
  deriving DecidableEq, Repr

/-- A GPU that a session has looked up. -/
structure NvmlDevice where
  bus : String
  deriving DecidableEq, Repr

namespace NvmlSession

def libraryNames : List String := ["libnvidia-ml.so", "libnvidia-ml.so.1"]

/-- The functions that are needed, in the order in which they are looked up. -/
def symbols : List String :=
  ["nvmlInit_v2", "nvmlDeviceGetHandleByPciBusId_v2", "nvmlDeviceGetName",
    "nvmlDeviceGetTemperature", "nvmlShutdown"]

def notLoaded (f : Failure) : Failure := .system s!"Failed to load NVML driver: {f.message}"

def incompatible (library symbol : String) : Failure :=
  .system s!"Incompatible NVML driver: {library} does not export {symbol}"

def alreadyShutDown : Failure := .system "NVML session has already been shut down"

def invalidBus (bus : String) : Failure :=
  .config s!"Invalid PCI bus id: {Text.quoted bus}"

/-! ## Starting and ending -/

/-- Starts a session in a library that is already loaded. -/
def startIn (library : Library) : Attempt NvmlSession := do
  library.requireAll (incompatible library.name) symbols
  let code ← Program.request .nvmlInit
  if code ≠ 0 then throw (.vendor "nvmlInit_v2" code)
  Program.log .debug s!"Initialized NVML from {library.name}"
  return { library }

def start : Attempt NvmlSession := do
  let library ← .ofProgram (Library.loadAny libraryNames).run notLoaded
  (startIn library).elseFirst library.unload

/-- Ends the session. Only the first time asks the library. -/
def shutdown (session : NvmlSession) : Attempt Unit := do
  if session.initialized then
    let code ← Program.request .nvmlShutdown
    if code ≠ 0 then throw (.vendor "nvmlShutdown" code)
    Program.log .debug "NVML shut down"

/-- The session after an attempt to end it, whatever came of that. -/
def ended (session : NvmlSession) : NvmlSession := { session with initialized := false }

def notShutDown (f : Failure) : String := s!"Failed to shut down NVML driver: {f.message}"

/-- Drops the session: ends it if that has not been tried yet, and unloads the library. -/
def drop (session : NvmlSession) : Program Unit := do
  session.shutdown.orLog notShutDown
  session.library.unload

/-! ## Devices -/

/-- Fails once the session has been shut down. -/
def ensureInitialized (session : NvmlSession) : Attempt Unit :=
  if session.initialized then return () else throw alreadyShutDown

/-- Looks a GPU up by its PCI bus id. -/
def device (session : NvmlSession) (bus : String) : Attempt NvmlDevice := do
  session.ensureInitialized
  if '\x00' ∈ bus.toList then throw (invalidBus bus)
  let code ← Program.request (.nvmlHandle bus)
  if code ≠ 0 then throw (.vendor s!"nvmlDeviceGetHandleByPciBusId_v2({bus})" code)
  return { bus }

/-- The bytes that a name may take, with the null character that ends it. -/
def nameCapacity : Nat := 255

/-- The name of a GPU. -/
def deviceName (session : NvmlSession) (device : NvmlDevice) : Attempt String := do
  session.ensureInitialized
  let reply ← Program.request (.nvmlName device.bus nameCapacity)
  if reply.code ≠ 0 then throw (.vendor "nvmlDeviceGetName" reply.code)
  return Text.lossy ⟨(reply.value.data.toList.takeWhile (· != 0)).toArray⟩

/-- The core temperature of a GPU in whole degrees Celsius. -/
def temperature (session : NvmlSession) (device : NvmlDevice) : Attempt Nat := do
  session.ensureInitialized
  let reply ← Program.request (.nvmlTemperature device.bus)
  if reply.code ≠ 0 then throw (.vendor "nvmlDeviceGetTemperature" reply.code)
  return reply.value

end NvmlSession

end Cooling
