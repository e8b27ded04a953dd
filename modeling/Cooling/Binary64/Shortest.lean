-- SUMMARY: The decimal text of a double: the fewest digits that read back as the same double.
import Cooling.Binary64.Basic

/-!
# Shortest decimal text

Every double is written with the fewest decimal digits that still read back as
that double, and of those with the nearest ones. Numbers from 1e-5 up to below
1e16 are written positionally, with a point in every case; others get an
exponent with its sign.
-/

namespace Cooling.Binary64

/-! ## Digits -/

/-- The number `digits · 10^exponent`. -/
structure Decimal where
  digits : Nat
  exponent : Int
  deriving DecidableEq, Repr

/-- A positive rational number as a quotient. -/
structure Quotient where
  num : Nat
  den : Nat

/-- Four times a magnitude, plus a correction, over 4. -/
def quarter (s : Scaled) (add sub : Nat) : Quotient :=
  let n := 4 * s.m + add - sub
  if 0 ≤ s.q then ⟨n * powTwo s.q.toNat, 4⟩ else ⟨n, 4 * powTwo (-s.q).toNat⟩

/-- Whether a quotient is at most a decimal number, or less. -/
def Quotient.below (x : Quotient) (strict : Bool) (d : Nat) (k : Int) : Bool :=
  let (a, b) :=
    if 0 ≤ k then (x.num, d * powTen k.toNat * x.den) else (x.num * powTen (-k).toNat, d * x.den)
  if strict then a < b else a ≤ b

/-- Whether a decimal number is at most a quotient, or less. -/
def Quotient.above (x : Quotient) (strict : Bool) (d : Nat) (k : Int) : Bool :=
  let (a, b) :=
    if 0 ≤ k then (x.num, d * powTen k.toNat * x.den) else (x.num * powTen (-k).toNat, d * x.den)
  if strict then b < a else b ≤ a

/-- Whether a decimal number reads back as the double: whether it lies between
    the points halfway to the neighbours. Those points count for an even
    significand. -/
def readsBack (s : Scaled) (d : Nat) (k : Int) : Bool :=
  let strict := s.m % 2 == 1
  let near := s.m == exponentBit && s.q != Scaled.leastExponent
  (quarter s 0 (if near then 1 else 2)).below strict d k && (quarter s 2 0).above strict d k

/-- The whole part of a magnitude over `10^k`, and whether the next whole number is nearer. -/
def onGrid (s : Scaled) (k : Int) : Nat × Bool :=
  let x := quarter s 0 0
  let num := if 0 ≤ k then x.num else x.num * powTen (-k).toNat
  let den := if 0 ≤ k then x.den * powTen k.toNat else x.den
  let d := num / den
  let r := num % den
  (d, den < 2 * r || (den == 2 * r && d % 2 == 1))

/-- The exponent of the leading decimal digit of a magnitude, or one less. -/
def leadingExponent (s : Scaled) : Int :=
  ((s.m.log2 : Int) + s.q) * 30103 / 100000 - 1

/-- Looks for a decimal number that reads back, on finer and finer grids. -/
def search (s : Scaled) : Nat → Int → Decimal
  | 0, k => ⟨(onGrid s k).1, k⟩
  | n + 1, k =>
    let (d, up) := onGrid s k
    let (first, second) := if up then (d + 1, d) else (d, d + 1)
    if first ≠ 0 && readsBack s first k then ⟨first, k⟩
    else if second ≠ 0 && readsBack s second k then ⟨second, k⟩
    else search s n (k - 1)

/-- Moves zeros at the end of the digits into the exponent. -/
def dropZeros : Nat → Decimal → Decimal
  | 0, x => x
  | n + 1, x =>
    if x.digits ≠ 0 ∧ x.digits % 10 = 0 then dropZeros n ⟨x.digits / 10, x.exponent + 1⟩ else x

/-- The fewest digits that read back as a magnitude. -/
def shortest (s : Scaled) : Decimal :=
  let k := leadingExponent s
  dropZeros 20 (search s 20 (k + 2))

/-! ## Text -/

/-- An exponent, with its sign in any case. -/
def exponentText (e : Int) : String :=
  (if e < 0 then "e-" else "e+") ++ toString e.natAbs

/-- A decimal number with a point, or with an exponent if it is very great or small. -/
def decimalText (x : Decimal) : String :=
  let ds := (toString x.digits).toList
  let e : Int := x.exponent + ds.length - 1
  if -5 ≤ e ∧ e ≤ 15 then
    if 0 ≤ x.exponent then
      String.ofList (ds ++ List.replicate x.exponent.toNat '0' ++ ['.', '0'])
    else if 0 ≤ e then
      let whole := (e + 1).toNat
      String.ofList (ds.take whole ++ '.' :: ds.drop whole)
    else
      String.ofList ('0' :: '.' :: (List.replicate (-e - 1).toNat '0' ++ ds))
  else
    let rest := ds.drop 1
    let point := if rest.isEmpty then [] else '.' :: rest
    String.ofList (ds.take 1 ++ point) ++ exponentText e

/-- The text of a double. -/
def text (x : Binary64) : String :=
  match x.value with
  | .notANumber => "NaN"
  | .infinite false => "inf"
  | .infinite true => "-inf"
  | .finite negative s =>
    let body := if s.m = 0 then "0.0" else decimalText (shortest s)
    if negative then "-" ++ body else body

end Cooling.Binary64
