-- SUMMARY: Why an operation failed: the errors of the operating system, and the failures that drivers report, with their texts.

/-!
# Failures

A driver fails in one of a few ways: an operation on a file failed, the
hardware or a vendor library does not behave as expected, or the configuration
is wrong. `Failure.kind` is the coarse classification, `Failure.message` the
text, and `Failure.code` the error number of the operating system, if there is
one.
-/

namespace Cooling

/-! ## Errors of the operating system -/

/-- An error of the operating system, or of the layer between it and a driver. -/
inductive OsError where
  /-- An error number of the operating system. -/
  | errno (n : Int)
  /-- An error without a number. -/
  | other (text : String)
  deriving DecidableEq, Repr

namespace OsError

/-- The texts of the C library for error numbers. -/
def errnoText : Int → String
  | 0 => "Success"
  | 1 => "Operation not permitted"
  | 2 => "No such file or directory"
  | 4 => "Interrupted system call"
  | 5 => "Input/output error"
  | 6 => "No such device or address"
  | 11 => "Resource temporarily unavailable"
  | 12 => "Cannot allocate memory"
  | 13 => "Permission denied"
  | 14 => "Bad address"
  | 16 => "Device or resource busy"
  | 17 => "File exists"
  | 19 => "No such device"
  | 20 => "Not a directory"
  | 21 => "Is a directory"
  | 22 => "Invalid argument"
  | 24 => "Too many open files"
  | 25 => "Inappropriate ioctl for device"
  | 27 => "File too large"
  | 28 => "No space left on device"
  | 30 => "Read-only file system"
  | 32 => "Broken pipe"
  | 34 => "Numerical result out of range"
  | 36 => "File name too long"
  | 40 => "Too many levels of symbolic links"
  | 61 => "No data available"
  | 62 => "Timer expired"
  | 71 => "Protocol error"
  | 75 => "Value too large for defined data type"
  | 95 => "Operation not supported"
  | 110 => "Connection timed out"
  | 125 => "Operation canceled"
  | n => s!"Unknown error {n}"

def message : OsError → String
  | errno n => s!"{errnoText n} (os error {n})"
  | other text => text

def code? : OsError → Option Int
  | errno n => some n
  | other _ => none

/-- The error number of a call that was interrupted before it did anything. -/
def interruption : Int := 4

/-- No such file or directory. -/
def noEntry : OsError := errno 2

/-- The path holds the null character, which ends a path. -/
def nulInPath : OsError := other "file name contained an unexpected NUL byte"

/-- The contents are not text. -/
def notUtf8 : OsError := other "stream did not contain valid UTF-8"

@[simp] theorem code?_errno (n : Int) : (errno n).code? = some n := rfl
@[simp] theorem code?_other (text : String) : (other text).code? = none := rfl

end OsError

/-! ## Failures -/

/-- What a scheduler can tell failures apart by. -/
inductive FailureKind where
  /-- An operation on a control or data file failed. -/
  | io
  /-- The hardware, a kernel module or a vendor library does not behave as
      expected. Trying again will not help. -/
  | system
  /-- The calibration or the configuration is wrong. -/
  | config
  deriving DecidableEq, Repr

inductive Failure where
  /-- An operation on a file failed. The context says what was attempted. -/
  | io (context : String) (cause : OsError)
  | system (description : String)
  /-- A call into a vendor library answered with an error code. -/
  | vendor (call : String) (code : Nat)
  | config (description : String)
  /-- A document is not JSON, or does not describe what it should. -/
  | json (description : String)
  deriving DecidableEq, Repr

namespace Failure

def kind : Failure → FailureKind
  | io .. => .io
  | system _ | vendor .. => .system
  | config _ | json _ => .config

def message : Failure → String
  | io context cause => s!"{context}: {cause.message}"
  | system description => description
  | vendor call code => s!"{call} failed. Error code (cf. nvml.h): {code}"
  | config description => s!"Invalid config: {description}"
  | json description => s!"Failed to parse JSON: {description}"

/-- The error number of the operating system. -/
def code? : Failure → Option Int
  | io _ cause => cause.code?
  | _ => none

/-- The error of the operating system below the failure. -/
def cause? : Failure → Option OsError
  | io _ cause => some cause
  | _ => none

@[simp] theorem kind_io (context : String) (cause : OsError) : (io context cause).kind = .io := rfl
@[simp] theorem kind_system (d : String) : (system d).kind = .system := rfl
@[simp] theorem kind_vendor (call : String) (code : Nat) : (vendor call code).kind = .system := rfl
@[simp] theorem kind_config (d : String) : (config d).kind = .config := rfl
@[simp] theorem kind_json (d : String) : (json d).kind = .config := rfl

end Failure

end Cooling
