-- SUMMARY: What can be wrong with a JSON document, and reading a JSON number into a whole number or a double.
import Cooling.Binary64.Shortest
import Cooling.Text.Digits

/-!
# JSON numbers

A number without a point and an exponent stays a whole number while it fits 64
bits. Any other number becomes a double: as many digits as fit 64 bits are read
as a whole number, which is rounded to a double and then multiplied with, or
divided by, a power of ten, with a rounding at each step.
-/

namespace Cooling.Json

/-! ## Errors -/

/-- Why a document was not read. -/
inductive Error where
  /-- It is not JSON. -/
  | malformed
  /-- It ends too early. -/
  | unfinished
  /-- It does not describe what it should. -/
  | mismatch (description : String)
  deriving DecidableEq, Repr

def Error.message : Error → String
  | malformed => "<syntax>"
  | unfinished => "<eof>"
  | mismatch description => description

/-! ## Numbers -/

inductive Number where
  /-- A whole number of 64 bits, not negative. -/
  | natural (n : Nat)
  /-- The whole number `-n` of 64 bits, where `n` is not zero. -/
  | negative (n : Nat)
  | float (x : Binary64)
  deriving DecidableEq, Repr

/-- How error messages call a number. -/
def Number.description : Number → String
  | natural n => s!"integer `{n}`"
  | negative n => s!"integer `-{n}`"
  | float x => s!"floating point `{x.text}`"

/-- One more than the greatest whole number of 64 bits. -/
def wordEnd : Nat := 18446744073709551616

/-- The greatest power of ten that is one step. -/
def greatestStep : Nat := 308

/-- The double nearest to a power of ten. -/
def powerOfTen (k : Nat) : Rat := Binary64.nearest (powTen k : Rat)

/-- Multiplies a double with a power of ten, in steps. `none` if it gets too great. -/
def scale : Nat → Rat → Int → Option Rat
  | 0, x, _ => some x
  | n + 1, x, e =>
    if e.natAbs ≤ greatestStep then
      if 0 ≤ e then
        let y := Binary64.nearest (x * powerOfTen e.toNat)
        if y < Binary64.overflow then some y else none
      else some (Binary64.nearest (x / powerOfTen (-e).toNat))
    else if x = 0 then some 0
    else if 0 ≤ e then none
    else scale n (Binary64.nearest (x / powerOfTen greatestStep)) (e + greatestStep)

/-- The double for `significand · 10^exponent`. -/
def double? (negative : Bool) (significand : Nat) (exponent : Int) : Option Binary64 :=
  (scale (exponent.natAbs / greatestStep + 1) (Binary64.nearest significand) exponent).map
    (Binary64.ofMagnitude negative)

/-- Adds digits to a number while it fits 64 bits, and counts the digits left over. -/
def addDigits (n : Nat) : List Nat → Nat × Nat
  | [] => (n, 0)
  | d :: ds => if 10 * n + d < wordEnd then addDigits (10 * n + d) ds else (n, ds.length + 1)

/-- The parts of a number: digits before the point, digits after it, and an exponent. -/
structure Parts where
  whole : List Nat
  fraction : List Nat := []
  /-- The sign and the digits of the exponent. -/
  exponent? : Option (Bool × List Nat) := none

/-- The value of the parts, with the sign before them. -/
def Parts.value (p : Parts) (negative : Bool) : Option Number :=
  let (n, dropped) := addDigits 0 p.whole
  if dropped = 0 ∧ p.fraction = [] ∧ p.exponent?.isNone then
    if !negative then some (.natural n)
    else if n = 0 ∨ 9223372036854775808 < n then
      (double? true n 0).map .float
    else some (.negative n)
  else
    let (m, unread) := addDigits n p.fraction
    let exponent : Int := (dropped : Int) - ((p.fraction.length - unread : Nat) : Int)
    match p.exponent? with
    | none => (double? negative m exponent).map .float
    | some (down, ds) =>
      let e : Nat := ds.foldl (fun e d => 10 * e + d) 0
      if e ≤ 2147483647 then
        (double? negative m (if down then exponent - (e : Int) else exponent + (e : Int))).map .float
      else if m = 0 ∨ down then (double? negative 0 0).map .float
      else none

/-! ## Reading -/

/-- The digits that a text begins with, and the rest. -/
def spanDigits : List Char → List Nat × List Char
  | [] => ([], [])
  | c :: cs =>
    match Text.digit? c with
    | some d => let (ds, rest) := spanDigits cs; (d :: ds, rest)
    | none => ([], c :: cs)

/-- Digits, of which there must be one. -/
def someDigits (cs : List Char) : Except Error (List Nat × List Char) :=
  match spanDigits cs with
  | ([], []) => .error .unfinished
  | ([], _) => .error .malformed
  | digits => .ok digits

/-- The digits before the point: no zero stands before another digit. -/
def wholeDigits (cs : List Char) : Except Error (List Nat × List Char) := do
  let (ds, rest) ← someDigits cs
  match ds with
  | 0 :: _ :: _ => .error .malformed
  | _ => .ok (ds, rest)

/-- A point and the digits after it, if there is one. -/
def fractionDigits : List Char → Except Error (List Nat × List Char)
  | '.' :: cs => someDigits cs
  | cs => .ok ([], cs)

/-- The digits of an exponent, after its sign. -/
def exponentDigits : List Char → Except Error ((Bool × List Nat) × List Char)
  | '+' :: cs => (someDigits cs).map (fun (ds, rest) => ((false, ds), rest))
  | '-' :: cs => (someDigits cs).map (fun (ds, rest) => ((true, ds), rest))
  | cs => (someDigits cs).map (fun (ds, rest) => ((false, ds), rest))

/-- An exponent, if there is one. -/
def exponentPart : List Char → Except Error (Option (Bool × List Nat) × List Char)
  | c :: cs =>
    if c = 'e' ∨ c = 'E' then (exponentDigits cs).map (fun (e, rest) => (some e, rest))
    else .ok (none, c :: cs)
  | [] => .ok (none, [])

/-- The number that a text begins with, after its sign, and the rest. -/
def readNumber (negative : Bool) (cs : List Char) : Except Error (Number × List Char) := do
  let (whole, cs) ← wholeDigits cs
  let (fraction, cs) ← fractionDigits cs
  let (exponent?, cs) ← exponentPart cs
  match Parts.value { whole, fraction, exponent? } negative with
  | some n => .ok (n, cs)
  | none => .error .malformed

end Cooling.Json
