-- SUMMARY: How sessions and their parts break down: with a failure, with a demand that cannot be met, or when the clock gives out.
import Cooling.Program

/-!
# Stages

A session is made of stages. A stage that breaks down ends the session, and what
was built for it before is let go. A failure comes with what was attempted.
-/

namespace Cooling.Session

/-! ## How sessions fail -/

/-- Why a session ended: a failure, with what was attempted, a demand that cannot be
    met, or a clock that cannot show the end of a sleep. -/
inductive Breakdown where
  | failure (context? : Option String) (f : Failure)
  | refused (reason : String)
  /-- No one expects that, so no one logs it, and drivers are let go as they are. -/
  | overflow
  deriving DecidableEq, Repr

namespace Breakdown

/-- The kind of the failure, if there is one. -/
def kind? : Breakdown → Option FailureKind
  | failure _ f => some f.kind
  | refused _ | overflow => none

/-- The messages of a breakdown, from what was attempted down to the first cause. -/
def chain : Breakdown → List String
  | failure context? f =>
    context?.toList ++ f.message :: f.cause?.toList.map OsError.message
  | refused reason => [reason]
  | overflow => ["overflow when adding duration to instant"]

end Breakdown

/-- A part of a session, which may break down. -/
abbrev Stage (α : Type) := ExceptT Breakdown Program α

/-- An attempt as part of a session. -/
def attempting (context : String) (attempt : Attempt α) : Stage α :=
  ExceptT.mk do
    match ← attempt.run with
    | .ok a => return .ok a
    | .error f => return .error (.failure (some context) f)

end Cooling.Session
