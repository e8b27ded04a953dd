-- SUMMARY: Fan levels: a number, or one of the names that the ThinkPad firmware knows, and the text form of both.
import Cooling.Failure
import Cooling.Text.Blank
import Cooling.Text.Digits
import Cooling.Text.Quoted

/-!
# Levels

A level is the target speed of a fan. A ThinkPad fan is sent its text, such as
`level 4` or `level auto`; a PWM fan is sent its number, which a named level
does not have.
-/

namespace Cooling

inductive Level where
  | numeric (n : UInt32)
  | named (name : String)
  deriving DecidableEq, Repr

namespace Level

/-- The text sent to a ThinkPad fan. -/
def text : Level → String
  | numeric n => s!"level {n.toNat}"
  | named name => s!"level {name}"

/-- The number sent to a PWM fan. -/
def number? : Level → Option UInt32
  | numeric n => some n
  | named _ => none

@[simp] theorem number?_numeric (n : UInt32) : (numeric n).number? = some n := rfl
@[simp] theorem number?_named (name : String) : (named name).number? = none := rfl

/-- A named level. The name may already carry the word `level` and a space, and
    blanks around it do not count. -/
def ofName (name : String) : Level :=
  let cs := name.toList
  named (String.ofList (Text.trim ((Text.afterStart? "level ".toList cs).getD cs)))

/-! ## Reading -/

/-- The names that the ThinkPad firmware knows. -/
def names : List String := ["auto", "full-speed", "disengaged"]

/-- The part of a trimmed text that says which level is meant. -/
def bare (cs : List Char) : List Char :=
  match Text.afterStart? "level".toList cs with
  | some rest => Text.trimStart rest
  | none => cs

/-- The level that a word means: a number of 32 bits, or a name. -/
def ofWord? (word : List Char) : Option Level :=
  match Text.unsigned? 4294967296 word with
  | some n => some (numeric (UInt32.ofNat n))
  | none =>
    if String.ofList word ∈ names then some (named (String.ofList word)) else none

/-- The failure for a text that means no level. -/
def unknown (cs : List Char) : Failure :=
  let known := ", ".intercalate names
  let given := Text.quoted (String.ofList cs)
  .config s!"unknown fan level {given} (expected a number or one of {known})"

/-- Reads a level: a number or a name, with or without the word `level` before it. -/
def parse (s : String) : Except Failure Level :=
  let cs := Text.trim s.toList
  match ofWord? (bare cs) with
  | some level => .ok level
  | none => .error (unknown cs)

end Level

end Cooling
