-- SUMMARY: Whole numbers in decimal: reading them within bounds, with the signs a number may carry, and writing them.

/-!
# Decimal numbers

A number is one or more ASCII digits. An unsigned number may carry a plus sign,
a signed one a plus or a minus. A number out of bounds is not read at all.
-/

namespace Cooling.Text

/-! ## Reading -/

/-- The value of a digit of ASCII. -/
def digit? (c : Char) : Option Nat :=
  if '0' ≤ c ∧ c ≤ '9' then some (c.toNat - '0'.toNat) else none

/-- Reads on after digits of value `n`. -/
def digitsFrom? (n : Nat) : List Char → Option Nat
  | [] => some n
  | c :: cs => do
    let d ← digit? c
    digitsFrom? (10 * n + d) cs

/-- The value of one or more digits. -/
def natural? : List Char → Option Nat
  | [] => none
  | cs => digitsFrom? 0 cs

/-- One or more digits, after an optional plus sign. -/
def withPlus? : List Char → Option Nat
  | '+' :: digits => natural? digits
  | digits => natural? digits

/-- One or more digits, after an optional sign. -/
def withSign? : List Char → Option Int
  | '+' :: digits => (natural? digits).map Int.ofNat
  | '-' :: digits => (natural? digits).map (fun n => -Int.ofNat n)
  | digits => (natural? digits).map Int.ofNat

/-- A number below `bound`, after an optional plus sign. -/
def unsigned? (bound : Nat) (cs : List Char) : Option Nat :=
  (withPlus? cs).filter (· < bound)

/-- Whether a number is one of 32 bits, with a sign. -/
def fits32 (n : Int) : Bool := decide (-2147483648 ≤ n ∧ n ≤ 2147483647)

theorem fits32_iff {n : Int} : fits32 n = true ↔ -2147483648 ≤ n ∧ n ≤ 2147483647 := by
  simp [fits32]

/-- A number of 32 bits, after an optional sign. -/
def signed32? (cs : List Char) : Option Int := (withSign? cs).filter fits32

end Cooling.Text
