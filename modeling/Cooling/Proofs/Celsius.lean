-- SUMMARY: The temperature of a disk in degrees: three roundings to a double give what exact arithmetic gives.
import Mathlib.Algebra.Order.Floor.Ring
import Mathlib.Data.Rat.Floor
import Cooling.Sensor.Disk
import Cooling.Proofs.Rounding

/-!
# Degrees from millikelvin

The conversion to a double and the subtraction are exact as far as a number of 32 bits
reaches, so the quotient alone is rounded. It is at least 1/1000 away from the next whole
number, and there is a double between the two, so the whole degrees come out as they are.
Beyond that each step may round, but never below a double that is too great already.
-/

namespace Cooling

open Binary64
open Scaled (Rounds isDouble_intCast isDouble_div)

namespace DiskSensor

/-- The part before the point is what is left when a number is cut off toward zero. -/
theorem tdiv_eq_of_le_of_lt {c : Rat} {t : Nat} (hle : t ≤ c) (hlt : c < t + 1) :
    c.num.tdiv c.den = t := by
  have hnonneg : 0 ≤ c.num := Rat.num_nonneg.2 (le_trans (Nat.cast_nonneg t) hle)
  rw [Int.tdiv_eq_ediv_of_nonneg hnonneg, ← Rat.floor_def]
  exact Int.floor_eq_iff.2 ⟨by exact_mod_cast hle, by exact_mod_cast hlt⟩

/-- Thousandths are not rounded up to the next whole number: 1023/1024 is between them and it. -/
theorem thousandths_of_nat {n : Nat} (h : n ≤ 2147483647000) :
    (nearest (n / 1000)).num.tdiv (nearest (n / 1000)).den = (n / 1000 : Nat) := by
  have hrounds := nearest_rounds (n / 1000)
  have hdiv : 1000 * (n / 1000) + n % 1000 = n := Nat.div_add_mod n 1000
  have hmod : n % 1000 ≤ 999 := by omega
  generalize n % 1000 = s at hdiv hmod
  generalize n / 1000 = t at hdiv ⊢
  have hquotient : (n / 1000 : Rat) = t + s / 1000 := by
    rw [← hdiv]
    push_cast
    field_simp
  have hs : (s : Rat) ≤ 999 := by exact_mod_cast hmod
  have hlow : (t : Rat) ≤ n / 1000 := by
    rw [hquotient]
    exact le_add_of_nonneg_right (by positivity)
  have hhigh : (n / 1000 : Rat) ≤ ((1024 * t + 1023 : Int) : Rat) / 2 ^ 10 := by
    rw [hquotient]
    push_cast
    linarith
  have hle := hrounds.le_of_le (isDouble_intCast (n := t) (by omega)) (by exact_mod_cast hlow)
  have hge := hrounds.ge_of_ge (isDouble_div (by omega) (by decide)) hhigh
  refine tdiv_eq_of_le_of_lt (by exact_mod_cast hle) (lt_of_le_of_lt hge ?_)
  push_cast
  linarith

/-- Nor are they rounded away from zero. -/
theorem thousandths {n : Int} (h : n.natAbs ≤ 2147483647000) :
    (nearest (n / 1000)).num.tdiv (nearest (n / 1000)).den = n.tdiv 1000 := by
  obtain ⟨k, rfl | rfl⟩ := n.eq_nat_or_neg
  · rw [Int.natAbs_natCast] at h
    rw [Int.cast_natCast, thousandths_of_nat h]
    rfl
  · rw [Int.natAbs_neg, Int.natAbs_natCast] at h
    rw [Int.cast_neg, Int.cast_natCast, neg_div, nearest_neg, Rat.num_neg_eq_neg_num,
      Rat.den_neg_eq_den, Int.neg_tdiv, thousandths_of_nat h, Int.neg_tdiv]
    rfl

theorem celsius_of_le {mkelvin : Nat} (h : mkelvin ≤ 2147483920150) :
    celsius mkelvin = nearest (((mkelvin - 273150 : Int) : Rat) / 1000) := by
  have hconvert : nearest (mkelvin : Rat) = mkelvin := nearest_natCast (by omega)
  have hsubtract : nearest ((mkelvin : Rat) - 273150) = ((mkelvin - 273150 : Int) : Rat) := by
    have hcast : (mkelvin : Rat) - 273150 = ((mkelvin - 273150 : Int) : Rat) := by push_cast; rfl
    rw [hcast]
    exact (nearest_rounds _).eq_of_isDouble (isDouble_intCast (by omega))
  rw [celsius, hconvert, hsubtract]

theorem celsius_mem {mkelvin : Nat} (h : mkelvin ≤ 2147483920150) :
    ¬ (celsius mkelvin < -2147483648 ∨ 2147483647 < celsius mkelvin) := by
  have hrounds := nearest_rounds (((mkelvin - 273150 : Int) : Rat) / 1000)
  rw [← celsius_of_le h] at hrounds
  have hlow := hrounds.le_of_le (isDouble_intCast (n := -2147483648) (by decide)) (by
    push_cast
    have : (0 : Rat) ≤ mkelvin := Nat.cast_nonneg _
    linarith)
  have hhigh := hrounds.ge_of_ge (isDouble_intCast (n := 2147483647) (by decide)) (by
    push_cast
    have : (mkelvin : Rat) ≤ 2147483920150 := by exact_mod_cast h
    linarith)
  rw [not_or, not_lt, not_lt]
  exact ⟨by exact_mod_cast hlow, by exact_mod_cast hhigh⟩

/-- One millikelvin too many is too many after three roundings. -/
theorem lt_celsius {mkelvin : Nat} (h : 2147483920150 < mkelvin) :
    2147483647 < celsius mkelvin := by
  have hmkelvin : ((2147483920151 : Int) : Rat) ≤ mkelvin := by exact_mod_cast h
  have hconvert := (nearest_rounds mkelvin).le_of_le (isDouble_intCast (by decide)) hmkelvin
  have hsubtract := (nearest_rounds (nearest mkelvin - 273150)).le_of_le
    (isDouble_intCast (n := 2147483647001) (by decide)) (by push_cast at hconvert ⊢; linarith)
  have hdivide := (nearest_rounds (nearest (nearest mkelvin - 273150) / 1000)).le_of_le
    (isDouble_div (n := 2147483647 * 1024 + 1) (k := 10) (by decide) (by decide))
    (by push_cast at hsubtract ⊢; linarith)
  rw [celsius]
  push_cast at hdivide
  linarith

/-- The degrees of a disk are what three roundings to the nearest double give, and their whole
    part is that of the exact quotient, toward zero. -/
theorem wholeCelsius?_exact (mkelvin : Nat) :
    (∀ c, c = celsius mkelvin ↔
      ∃ a b, Rounds mkelvin a ∧ Rounds (a - 273150) b ∧ Rounds (b / 1000) c) ∧
    wholeCelsius? mkelvin =
      if 2147483920150 < mkelvin then none else some ((mkelvin - 273150 : Int).tdiv 1000) := by
  constructor
  · simp [rounds_iff, celsius]
  · unfold wholeCelsius?
    dsimp only
    split_ifs with hrange hgreat hgreat
    · rfl
    · exact absurd hrange (celsius_mem (not_lt.1 hgreat))
    · exact absurd (.inr (lt_celsius hgreat)) hrange
    · rw [celsius_of_le (not_lt.1 hgreat), thousandths (by omega)]

/-- Below zero the whole part is the greater one. -/
example : wholeCelsius? 272151 = some 0 := by decide +kernel

end DiskSensor

end Cooling
