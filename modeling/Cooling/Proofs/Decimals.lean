-- SUMMARY: Decimal numbers that are read as the double nearest to them.
import Cooling.Json.Reader
import Cooling.Proofs.Rounding

/-!
# Decimal numbers

A number with a point or an exponent is read in three steps, each of which may round: its
digits as a double, a power of ten as a double, and their product or quotient. With few
digits and a small exponent only the last step rounds, so the double that is read is the
one nearest to the number.
-/

namespace Cooling

namespace Json

/-! ## Reading -/

theorem powerOfTen_eq {k : Nat} (h : k ≤ 22) : powerOfTen k = 10 ^ k := by
  have hall : ∀ k ≤ 22, powerOfTen k = 10 ^ k := by decide +kernel
  exact hall k h

/-- With few digits and a small exponent, only the last step rounds. -/
theorem double?_eq {m : Nat} {e : Int} (hm : m < 2 ^ 53) (he : e.natAbs ≤ 22) (negative : Bool) :
    double? negative m e =
      some (Binary64.ofMagnitude negative (Binary64.nearest (m * 10 ^ e))) := by
  have hsteps : e.natAbs / greatestStep = 0 := Nat.div_eq_of_lt (Nat.lt_of_le_of_lt he (by decide))
  have hle : e.natAbs ≤ greatestStep := Nat.le_trans he (by decide)
  rw [double?, hsteps, Binary64.nearest_natCast hm, scale, if_pos hle]
  split
  · rename_i hpos
    obtain ⟨k, rfl⟩ := Int.eq_ofNat_of_zero_le hpos
    have hk : k ≤ 22 := by simpa using he
    have hlt : Binary64.nearest (m * 10 ^ k) < Binary64.overflow := by
      have hm' : (m : Rat) ≤ 2 ^ 53 := by exact_mod_cast hm.le
      have hpow : (10 : Rat) ^ k ≤ 10 ^ 22 := by gcongr; norm_num
      have hle : (m * 10 ^ k : Rat) ≤ 1 * 2 ^ (127 : Int) := by
        calc (m * 10 ^ k : Rat) ≤ 2 ^ 53 * 10 ^ 22 := by gcongr
          _ ≤ 1 * 2 ^ (127 : Int) := by norm_num
      have hdouble : Scaled.IsDouble (1 * 2 ^ (127 : Int)) :=
        ⟨1, 127, by decide, by decide, by norm_num⟩
      calc Binary64.nearest (m * 10 ^ k) ≤ 1 * 2 ^ (127 : Int) :=
            (Binary64.nearest_rounds _).ge_of_ge hdouble hle
        _ < Binary64.overflow := by decide +kernel
    rw [Int.toNat_natCast, powerOfTen_eq hk, zpow_natCast]
    simp [hlt]
  · rename_i hneg
    obtain ⟨k, rfl⟩ : ∃ k : Nat, e = -k := ⟨(-e).toNat, by omega⟩
    have hk : k ≤ 22 := by simpa using he
    rw [neg_neg, Int.toNat_natCast, powerOfTen_eq hk, zpow_neg, zpow_natCast, div_eq_mul_inv]
    rfl

/-- The value of decimal digits that follow digits with a value of `n`. -/
def digitsFrom (n : Nat) (ds : List Nat) : Nat := ds.foldl (fun n d => 10 * n + d) n

theorem le_digitsFrom (n : Nat) (ds : List Nat) : n ≤ digitsFrom n ds := by
  induction ds generalizing n with
  | nil => exact Nat.le_refl n
  | cons d ds ih => exact Nat.le_trans (by omega) (ih (10 * n + d))

/-- Digits are added up as long as their value fits. -/
theorem addDigits_eq {n : Nat} {ds : List Nat} (h : digitsFrom n ds < wordEnd) :
    addDigits n ds = (digitsFrom n ds, 0) := by
  induction ds generalizing n with
  | nil => rfl
  | cons d ds ih =>
    have hlt : 10 * n + d < wordEnd := Nat.lt_of_le_of_lt (le_digitsFrom _ ds) h
    rw [addDigits, if_pos hlt]
    exact ih h

namespace Parts

/-- All the digits, as a whole number. -/
def significand (p : Parts) : Nat := digitsFrom 0 (p.whole ++ p.fraction)

/-- The exponent that is written. -/
def written (p : Parts) : Int :=
  match p.exponent? with
  | none => 0
  | some (down, ds) => if down then -digitsFrom 0 ds else digitsFrom 0 ds

/-- The exponent of the last digit. -/
def exponent (p : Parts) : Int := p.written - p.fraction.length

/-- What the number says, without its sign. -/
def toRat (p : Parts) : Rat := p.significand * 10 ^ p.exponent

/-- Few digits and a small exponent, which is not written in an odd way. -/
structure Ordinary (p : Parts) : Prop where
  significand : p.significand < 2 ^ 53
  exponent : p.exponent.natAbs ≤ 22
  written : p.written.natAbs ≤ 2147483647

/-- A number with neither a fraction nor an exponent is whole. -/
theorem Ordinary.value_whole {p : Parts} (h : p.Ordinary) (hfraction : p.fraction = [])
    (hexponent : p.exponent? = none) (negative : Bool) :
    ∃ n, p.value negative = some n ∧
      n.toBinary64 = Binary64.ofMagnitude negative (Binary64.nearest p.toRat) := by
  obtain ⟨whole, fraction, exponent?⟩ := p
  subst hfraction hexponent
  have hlt : digitsFrom 0 whole < 2 ^ 53 := by simpa [Parts.significand] using h.significand
  have hread : addDigits 0 whole = (digitsFrom 0 whole, 0) :=
    addDigits_eq (Nat.lt_trans hlt (by decide))
  have hrat : Parts.toRat { whole } = digitsFrom 0 whole := by
    simp [Parts.toRat, Parts.significand, Parts.exponent, Parts.written]
  have hnearest := Binary64.nearest_natCast hlt
  generalize digitsFrom 0 whole = n at *
  rw [hrat, hnearest]
  cases negative with
  | false =>
    refine ⟨.natural n, by simp [Parts.value, hread], ?_⟩
    simp [Number.toBinary64, Binary64.ofNat, Binary64.ofMagnitude]
  | true =>
    by_cases hn : n = 0
    · have hzero := double?_eq (e := 0) hlt (by decide) true
      rw [zpow_zero, mul_one, hnearest] at hzero
      refine ⟨.float (Binary64.ofMagnitude true n), ?_, rfl⟩
      subst hn
      simp [Parts.value, hread, hzero]
    · have hsmall : ¬ (n = 0 ∨ 9223372036854775808 < n) := by omega
      refine ⟨.negative n, by simp [Parts.value, hread, hsmall], ?_⟩
      simp [Number.toBinary64, Binary64.ofInt, Binary64.ofMagnitude, Nat.pos_of_ne_zero hn]

/-- A number with a fraction or an exponent is scaled. -/
theorem Ordinary.value_scaled {p : Parts} (h : p.Ordinary)
    (hscaled : ¬ (p.fraction = [] ∧ p.exponent? = none)) (negative : Bool) :
    p.value negative = (double? negative p.significand p.exponent).map .float := by
  obtain ⟨whole, fraction, exponent?⟩ := p
  have hnot : ¬ (fraction = [] ∧ exponent?.isNone = true) := by simpa using hscaled
  have hsignificand : Parts.significand { whole, fraction, exponent? } =
      digitsFrom (digitsFrom 0 whole) fraction := List.foldl_append
  have hlt : digitsFrom (digitsFrom 0 whole) fraction < wordEnd :=
    hsignificand ▸ Nat.lt_trans h.significand (by decide)
  have hwhole := addDigits_eq (Nat.lt_of_le_of_lt (le_digitsFrom _ fraction) hlt)
  have hwritten := h.written
  simp only [Parts.value, hwhole, addDigits_eq hlt, true_and, if_neg hnot, hsignificand]
  cases exponent? with
  | none => simp [Parts.exponent, Parts.written]
  | some written =>
    obtain ⟨down, ds⟩ := written
    have hle : digitsFrom 0 ds ≤ 2147483647 := by
      cases down <;> simpa [Parts.written] using hwritten
    have hexponent : Parts.exponent { whole, fraction, exponent? := some (down, ds) } =
        if down then (0 : Int) - (fraction.length - 0 : Nat) - digitsFrom 0 ds
        else (0 : Int) - (fraction.length - 0 : Nat) + digitsFrom 0 ds := by
      cases down <;> simp only [Parts.exponent, Parts.written] <;> simp <;> omega
    rw [hexponent]
    exact if_pos hle

/-- An ordinary number is read as the double nearest to what it says. -/
theorem Ordinary.value {p : Parts} (h : p.Ordinary) (negative : Bool) :
    ∃ n, p.value negative = some n ∧
      n.toBinary64 = Binary64.ofMagnitude negative (Binary64.nearest p.toRat) := by
  by_cases hwhole : p.fraction = [] ∧ p.exponent? = none
  · exact h.value_whole hwhole.1 hwhole.2 negative
  · rw [h.value_scaled hwhole, double?_eq h.significand h.exponent]
    exact ⟨_, rfl, rfl⟩

end Parts

end Json

end Cooling
