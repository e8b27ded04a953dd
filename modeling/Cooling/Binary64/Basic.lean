-- SUMMARY: Double-precision numbers as bits and as exact values, and rounding to the nearest of them.

/-!
# Double-precision numbers

A double is 64 bits: a sign, an exponent and a significand. `Binary64.value`
takes it apart into its sign and the exact value m · 2^q of its magnitude.
`Binary64.nearest` rounds a rational number to the nearest value of a double, a
tie to the even significand, as if there were no greatest double.
-/

namespace Cooling

/-! ## Powers and quotients -/

def powTwo (k : Nat) : Nat := Nat.pow 2 k

def powTen (k : Nat) : Nat := Nat.pow 10 k

/-- The whole number nearest to `num / den`. A half goes to the even neighbour. -/
def roundDiv (num den : Nat) : Nat :=
  let q := num / den
  let r := num % den
  if 2 * r < den then q
  else if den < 2 * r then q + 1
  else if q % 2 = 0 then q else q + 1

/-- Rounding moves by half a unit at most. -/
theorem roundDiv_near (num : Nat) {den : Nat} (hd : 0 < den) :
    2 * num ≤ (2 * roundDiv num den + 1) * den ∧ 2 * roundDiv num den * den ≤ 2 * num + den := by
  have hdiv := Nat.div_add_mod num den
  have hlt := Nat.mod_lt num hd
  rw [Nat.mul_comm] at hdiv
  simp only [roundDiv]
  split
  · constructor <;> grind
  · split
    · constructor <;> grind
    · split
      · constructor <;> grind
      · constructor <;> grind

/-! ## Values m · 2^q -/

/-- The number `m · 2^q`. -/
structure Scaled where
  m : Nat
  q : Int
  deriving DecidableEq, Repr

namespace Scaled

def two : Rat := 2

def toRat (s : Scaled) : Rat := (s.m : Rat) * two ^ s.q

/-- How the number compares with a whole one. -/
def compareNat (s : Scaled) (n : Nat) : Ordering :=
  if 0 ≤ s.q then compare (s.m * powTwo s.q.toNat) n else compare s.m (n * powTwo (-s.q).toNat)

/-- The exponent of the last place of a double. -/
def leastExponent : Int := -1074

/-- The whole part of the binary logarithm of `num / den`. -/
def logTwo (num den : Nat) : Int :=
  let a : Int := (num.log2 : Int) - (den.log2 : Int)
  let reached := if 0 ≤ a then den * powTwo a.toNat ≤ num else den ≤ num * powTwo (-a).toNat
  if reached then a else a - 1

/-- The nearest double to `num / den`: 53 binary digits, fewer for the least
    ones. A tie goes to the even significand. -/
def nearest (num den : Nat) : Scaled :=
  if num = 0 then ⟨0, leastExponent⟩
  else
    let q := max leastExponent (logTwo num den - 52)
    if 0 ≤ q then ⟨roundDiv num (den * powTwo q.toNat), q⟩
    else ⟨roundDiv (num * powTwo (-q).toNat) den, q⟩

end Scaled

/-! ## Doubles -/

structure Binary64 where
  bits : UInt64
  deriving DecidableEq, Repr

namespace Binary64

/-- What the bits of a double stand for. -/
inductive Value where
  | notANumber
  | infinite (negative : Bool)
  | finite (negative : Bool) (magnitude : Scaled)
  deriving DecidableEq, Repr

/-- The sign is the highest of 64 bits. -/
def signBit : Nat := 9223372036854775808

/-- The exponent stands above the 52 bits of the fraction. A significand that is not
    subnormal has this bit as well. -/
def exponentBit : Nat := 4503599627370496

def value (x : Binary64) : Value :=
  let n := x.bits.toNat
  let negative := decide (signBit ≤ n)
  let fraction : Nat := n % exponentBit
  let exponent : Nat := n / exponentBit % 2048
  if exponent = 2047 then if fraction = 0 then .infinite negative else .notANumber
  else if exponent = 0 then .finite negative ⟨fraction, Scaled.leastExponent⟩
  else .finite negative ⟨exponentBit + fraction, (exponent : Int) - 1075⟩

/-- The bits of a magnitude that is a double, or of infinity if it is too great. -/
def magnitudeBits (s : Scaled) : Nat :=
  min ((s.q - Scaled.leastExponent).toNat * exponentBit + s.m) (2047 * exponentBit)

/-- The double with a sign and a magnitude that is one. -/
def ofScaled (negative : Bool) (s : Scaled) : Binary64 :=
  ⟨UInt64.ofNat (magnitudeBits s + if negative then signBit else 0)⟩

def zero : Binary64 := ⟨0⟩

/-- The double nearest to a natural number. -/
def ofNat (n : Nat) : Binary64 := ofScaled false (Scaled.nearest n 1)

/-- The double nearest to a whole number. -/
def ofInt (n : Int) : Binary64 := ofScaled (decide (n < 0)) (Scaled.nearest n.natAbs 1)

/-! ## Arithmetic on values -/

/-- The nearest value of a double, as if there were no greatest one. -/
def nearest (x : Rat) : Rat :=
  let r := (Scaled.nearest x.num.natAbs x.den).toRat
  if x.num < 0 then -r else r

/-- One more than the greatest value of a double, rounded up to a power of two. -/
def overflow : Rat := Scaled.two ^ (1024 : Int)

/-- The double with a sign and a magnitude, rounded to the nearest. -/
def ofMagnitude (negative : Bool) (x : Rat) : Binary64 :=
  ofScaled negative (Scaled.nearest x.num.natAbs x.den)

end Binary64

end Cooling
