-- SUMMARY: Shared libraries that are loaded while the program runs, and the functions that they export.
import Cooling.Program
import Cooling.Text.Quoted

/-!
# Shared libraries

Vendor libraries are not there on every computer, so they are loaded when a
driver needs them. A missing library is a failure of the driver that needs it.
-/

namespace Cooling

/-- A loaded library. -/
structure Library where
  name : String
  deriving DecidableEq, Repr

namespace Library

def invalidName (name : String) : Failure :=
  .system s!"Invalid library name: {Text.quoted name}"

def notLoaded (name : String) (reason : Option String) : Failure :=
  let reason := reason.getD "unknown error"
  .system s!"Failed to load {name}: {reason}"

def noNames : Failure := .system "No library names given"

/-- Loads a library by its file name or path. -/
def load (name : String) : Attempt Library := do
  if '\x00' ∈ name.toList then throw (invalidName name)
  .ofProgram (Program.request (.loadLibrary name)) (notLoaded name)
  Program.log .trace s!"Loaded shared library {name}"
  return { name }

/-- Loads the first library that loads. The failure is that of the last name, or
    `failed` if there is no name. -/
def loadFirst (failed : Failure) : List String → Attempt Library
  | [] => throw failed
  | name :: names => ExceptT.mk do
    match ← (load name).run with
    | .ok library => return .ok library
    | .error f => (loadFirst f names).run

/-- Loads the first of several libraries that loads. -/
def loadAny (names : List String) : Attempt Library := loadFirst noNames names

/-- Whether the library exports a function. -/
def exports (library : Library) (symbol : String) : Program Bool := do
  if '\x00' ∈ symbol.toList then return false
  if ← Program.request (.hasSymbol library.name symbol) then return true
  Program.log .trace s!"Symbol {symbol} not found in {library.name}"
  return false

/-- The size of a function pointer in bytes. -/
def pointerSize : Nat := 8

/-- Whether the library exports a symbol as a value of a size. Only values of the
    size of a pointer are looked up. -/
def exportsSized (library : Library) (symbol : String) (size : Nat) : Program Bool :=
  if size = pointerSize then library.exports symbol else return false

/-- Asks for functions in order, up to the first that is missing. -/
def requireAll (library : Library) (missing : String → Failure) : List String → Attempt Unit
  | [] => return ()
  | symbol :: symbols => do
    if ← library.exports symbol then library.requireAll missing symbols
    else throw (missing symbol)

def unload (library : Library) : Program Unit := do
  Program.request (.unloadLibrary library.name)
  Program.log .trace s!"Unloaded shared library {library.name}"

end Library

end Cooling
