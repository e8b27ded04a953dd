-- SUMMARY: Programs that ask the host and go on with its answers, and attempts, which may also give up with a failure.
import Cooling.Request

/-!
# Programs

A `Program α` is a tree: either it is done with a value, or it asks the host
and has a continuation for every answer. The same program runs on an in-memory
machine, where its behaviour can be stated and proved, and on a real computer.

An `Attempt α` may also give up with a `Failure`. What it asked before stays
done.
-/

namespace Cooling

inductive Program (α : Type) where
  | done (a : α)
  | ask (r : Request) (next : r.Answer → Program α)

namespace Program

protected def bind : Program α → (α → Program β) → Program β
  | done a, k => k a
  | ask r next, k => ask r (fun x => (next x).bind k)

instance : Monad Program where
  pure := done
  bind := Program.bind

@[simp] theorem pure_eq_done (a : α) : (pure a : Program α) = done a := rfl
@[simp] theorem done_bind (a : α) (k : α → Program β) : done a >>= k = k a := rfl
@[simp] theorem ask_bind (r : Request) (next : r.Answer → Program α) (k : α → Program β) :
    ask r next >>= k = ask r (fun x => next x >>= k) := rfl

theorem bind_done (x : Program α) : x.bind done = x := by
  induction x with
  | done a => rfl
  | ask r next ih => exact congrArg (ask r) (funext ih)

theorem bind_bind (x : Program α) (f : α → Program β) (g : β → Program γ) :
    (x.bind f).bind g = x.bind (fun a => (f a).bind g) := by
  induction x with
  | done a => rfl
  | ask r next ih => exact congrArg (ask r) (funext ih)

instance : LawfulMonad Program :=
  LawfulMonad.mk' Program (fun x => bind_done x) (fun _ _ => rfl) (fun x f g => bind_bind x f g)

/-! ## Asking -/

/-- Ask the host, and be done with its answer. -/
def request (r : Request) : Program r.Answer := ask r done

def now : Program Instant := request .now

def sleep (d : Duration) : Program Unit := request (.sleep d)

def running : Program Bool := request .running

def userId : Program Nat := request .userId

def log (severity : Severity) (message : String) : Program Unit :=
  request (.log severity message)

def print (line : String) : Program Unit := request (.print line)

end Program

/-! ## Attempts -/

/-- A program that may give up with a failure. -/
abbrev Attempt (α : Type) := ExceptT Failure Program α

namespace Attempt

/-- Reports what goes wrong in a program as a failure. -/
def ofProgram (program : Program (Except ε α)) (failure : ε → Failure) : Attempt α :=
  ExceptT.mk do
    match ← program with
    | .ok a => return .ok a
    | .error e => return .error (failure e)

/-- Logs the failure of an attempt that has no one to report to. -/
def orLog (attempt : Attempt Unit) (text : Failure → String) : Program Unit := do
  match ← attempt.run with
  | .ok () => pure ()
  | .error f => Program.log .error (text f)

/-- Runs a last step whatever the outcome of the attempt. -/
def thenAlways (attempt : Attempt α) (last : Program Unit) : Attempt α :=
  ExceptT.mk do
    let result ← attempt.run
    last
    return result

/-- Runs a last step if the attempt fails. -/
def elseFirst (attempt : Attempt α) (last : Program Unit) : Attempt α :=
  ExceptT.mk do
    match ← attempt.run with
    | .ok a => return .ok a
    | .error f => do
      last
      return .error f

end Attempt

end Cooling
