-- SUMMARY: Reading and writing the text files through which the kernel offers its sensors and fans.
import Cooling.Program

/-!
# Control files

A control file is read whole, as text, and a write replaces its contents. A path
with the null character names no file, so the host is not asked about it.
-/

namespace Cooling.ControlFile

/-- Asks the host about a path, unless the path cannot name a file. -/
def access (path : String) (program : Program (Except OsError α)) : Program (Except OsError α) :=
  if '\x00' ∈ path.toList then return .error .nulInPath else program

/-- Whether the file can be opened for reading. -/
def check (path : String) : Program (Except OsError Unit) :=
  access path (.request (.openFile path))

/-- Bytes as text. -/
def decode (bytes : ByteArray) : Except OsError String :=
  match String.fromUTF8? bytes with
  | some text => .ok text
  | none => .error .notUtf8

/-- The text of the file from a byte on. -/
def readFrom (path : String) (offset : Nat) : Program (Except OsError String) :=
  access path do
    match ← Program.request (.readFile path) with
    | .ok bytes => return decode (bytes.extract offset bytes.size)
    | .error e => return .error e

/-- The text of the file. -/
def read (path : String) : Program (Except OsError String) :=
  access path do
    match ← Program.request (.readFile path) with
    | .ok bytes => return decode bytes
    | .error e => return .error e

/-- Replaces the contents of the file, which must exist. -/
def write (path text : String) : Program (Except OsError Unit) :=
  access path (.request (.writeFile path text.toUTF8))

end Cooling.ControlFile
