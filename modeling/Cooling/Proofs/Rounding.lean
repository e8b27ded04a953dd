-- SUMMARY: The nearest double to a rational number: no double is nearer, a tie is even, and it is the only one.
import Mathlib.Tactic.FieldSimp
import Mathlib.Tactic.Linarith
import Mathlib.Tactic.NormNum
import Mathlib.Tactic.Positivity
import Mathlib.Tactic.Ring
import Mathlib.Algebra.Order.Field.Power
import Mathlib.Data.Rat.Lemmas
import Cooling.Binary64.Basic

/-!
# Rounding to doubles

A double is m · 2^q with a significand `m` of 53 binary digits and an exponent `q` that is
not below the least one. `Rounds x r` says what rounding to the nearest means: `r` is a
double, no double is nearer to `x`, and if another one is as near then the significand of
`r` is even. There is just one such `r`, and it is what `Binary64.nearest` gives.
-/

namespace Cooling

/-! ## Whole numbers -/

/-- A number in the middle between two whole numbers goes to the even one. -/
theorem even_roundDiv (num : Nat) {den : Nat} (hd : 0 < den)
    (h : 2 * num = (2 * roundDiv num den + 1) * den ∨ 2 * roundDiv num den * den = 2 * num + den) :
    Even (roundDiv num den) := by
  have hdiv := Nat.div_add_mod num den
  have hlt := Nat.mod_lt num hd
  rw [Nat.even_iff]
  simp only [roundDiv] at h ⊢
  generalize num / den = k at *
  generalize num % den = r at *
  subst hdiv
  split_ifs at h ⊢ with hdown hup heven
  · rcases h with h | h <;> linarith
  · rcases h with h | h <;> linarith
  · exact heven
  · omega

/-- The nearest whole number is half a unit away at most, and even if it is just that far. -/
theorem abs_sub_roundDiv_le {num den : Nat} (hd : 0 < den) {x : Rat} (hx : x * den = num) :
    |x - roundDiv num den| ≤ 1 / 2 ∧
      (|x - roundDiv num den| = 1 / 2 → Even (roundDiv num den)) := by
  have hden : (0 : Rat) < den := by exact_mod_cast hd
  obtain ⟨hlow, hhigh⟩ := roundDiv_near num hd
  have heven := even_roundDiv num hd
  generalize roundDiv num den = r at *
  have hlow' : 2 * (x * den) ≤ (2 * r + 1) * den := by rw [hx]; exact_mod_cast hlow
  have hhigh' : 2 * r * den ≤ 2 * (x * den) + den := by rw [hx]; exact_mod_cast hhigh
  have hle : 2 * x ≤ 2 * r + 1 := le_of_mul_le_mul_right (by linarith) hden
  have hge : 2 * r ≤ 2 * x + 1 := le_of_mul_le_mul_right (by linarith) hden
  refine ⟨abs_le.2 ⟨by linarith, by linarith⟩, fun htie => heven ?_⟩
  rcases (abs_eq (by norm_num)).1 htie with h | h
  · left
    have hup : 2 * (x * den) = (2 * r + 1) * den := by rw [sub_eq_iff_eq_add.1 h]; ring
    rw [hx] at hup
    exact_mod_cast hup
  · right
    have hdown : 2 * r * den = 2 * (x * den) + den := by rw [sub_eq_iff_eq_add.1 h]; ring
    rw [hx] at hdown
    exact_mod_cast hdown

namespace Scaled

theorem toRat_natCast (m k : Nat) : toRat ⟨m, (k : Int)⟩ = m * 2 ^ k := by
  simp [toRat, two]

theorem toRat_neg_natCast (m k : Nat) : toRat ⟨m, -(k : Int)⟩ = m / 2 ^ k := by
  simp [toRat, two, div_eq_mul_inv]

/-! ## The binary logarithm -/

theorem two_zpow_add (a b : Int) : (2 : Rat) ^ (a + b) = 2 ^ a * 2 ^ b :=
  zpow_add₀ two_ne_zero a b

/-- A power of two is compared with a quotient in whole numbers. -/
theorem two_zpow_mul_le_iff (a : Int) (num den : Nat) :
    (2 : Rat) ^ a * den ≤ num ↔
      if 0 ≤ a then den * powTwo a.toNat ≤ num else den ≤ num * powTwo (-a).toNat := by
  split
  · rename_i ha
    obtain ⟨k, rfl⟩ := Int.eq_ofNat_of_zero_le ha
    rw [Int.toNat_natCast, zpow_natCast, mul_comm]
    exact_mod_cast Iff.rfl
  · rename_i ha
    obtain ⟨k, rfl⟩ : ∃ k : Nat, a = -k := ⟨(-a).toNat, by omega⟩
    have hpow : (0 : Rat) < 2 ^ k := by positivity
    rw [neg_neg, Int.toNat_natCast, zpow_neg, zpow_natCast, inv_mul_le_iff₀ hpow, mul_comm]
    exact_mod_cast Iff.rfl

/-- The binary logarithm of a quotient is rounded down. -/
theorem logTwo_spec {num den : Nat} (hnum : num ≠ 0) (hden : den ≠ 0) :
    (2 : Rat) ^ logTwo num den * den ≤ num ∧ (num : Rat) < 2 ^ (logTwo num den + 1) * den := by
  have hnumLow : (2 : Rat) ^ (num.log2 : Int) ≤ num := by
    exact_mod_cast Nat.log2_self_le hnum
  have hnumHigh : (num : Rat) < 2 ^ ((num.log2 : Int) + 1) := by
    exact_mod_cast Nat.lt_log2_self
  have hdenLow : (2 : Rat) ^ (den.log2 : Int) ≤ den := by
    exact_mod_cast Nat.log2_self_le hden
  have hdenHigh : (den : Rat) < 2 ^ ((den.log2 : Int) + 1) := by
    exact_mod_cast Nat.lt_log2_self
  have hhigh : (num : Rat) < 2 ^ ((num.log2 : Int) - den.log2 + 1) * den := by
    calc (num : Rat) < 2 ^ ((num.log2 : Int) - den.log2 + 1 + den.log2) := by
          convert hnumHigh using 2; ring
      _ = 2 ^ ((num.log2 : Int) - den.log2 + 1) * 2 ^ (den.log2 : Int) := two_zpow_add _ _
      _ ≤ 2 ^ ((num.log2 : Int) - den.log2 + 1) * den := by gcongr
  have hlow : (2 : Rat) ^ ((num.log2 : Int) - den.log2 - 1) * den ≤ num := by
    calc (2 : Rat) ^ ((num.log2 : Int) - den.log2 - 1) * den
        ≤ 2 ^ ((num.log2 : Int) - den.log2 - 1) * 2 ^ ((den.log2 : Int) + 1) := by gcongr
      _ = 2 ^ ((num.log2 : Int) - den.log2 - 1 + (den.log2 + 1)) := (two_zpow_add _ _).symm
      _ ≤ num := by convert hnumLow using 2; ring
  simp only [logTwo, ← two_zpow_mul_le_iff]
  split
  · exact ⟨‹_›, hhigh⟩
  · rw [sub_add_cancel]
    exact ⟨hlow, not_le.1 ‹_›⟩

/-! ## The step between doubles -/

theorem step_pos (s : Scaled) : (0 : Rat) < 2 ^ s.q := by positivity

/-- A magnitude is as near to `x` as a multiple of `2^q` can be, where `2^q` is the step
    between the doubles of the size of `x`. -/
structure Nears (x : Rat) (s : Scaled) : Prop where
  least : leastExponent ≤ s.q
  below : x < 2 ^ 53 * 2 ^ s.q
  above : s.q = leastExponent ∨ 2 ^ 52 * 2 ^ s.q ≤ x
  near : |x - s.toRat| ≤ 2 ^ s.q / 2
  even : |x - s.toRat| = 2 ^ s.q / 2 → Even s.m

/-- Rounding `x / 2^q` to a whole number moves `x` by half of `2^q` at most. -/
theorem near_of_roundDiv {x : Rat} {q : Int} {m : Nat}
    (h : |x / 2 ^ q - m| ≤ 1 / 2 ∧ (|x / 2 ^ q - m| = 1 / 2 → Even m)) :
    |x - toRat ⟨m, q⟩| ≤ 2 ^ q / 2 ∧ (|x - toRat ⟨m, q⟩| = 2 ^ q / 2 → Even m) := by
  have hstep : (0 : Rat) < 2 ^ q := by positivity
  have hscale : |x - toRat ⟨m, q⟩| = |x / 2 ^ q - m| * 2 ^ q := by
    rw [← abs_of_pos hstep, ← abs_mul, abs_of_pos hstep, sub_mul, div_mul_cancel₀ _ hstep.ne']
    rfl
  rw [hscale]
  refine ⟨?_, fun htie => h.2 ?_⟩
  · calc |x / 2 ^ q - m| * 2 ^ q ≤ 1 / 2 * 2 ^ q := by gcongr; exact h.1
      _ = 2 ^ q / 2 := by ring
  · apply mul_right_cancel₀ hstep.ne'
    rw [htie]
    ring

theorem nearest_q {num : Nat} (hnum : num ≠ 0) (den : Nat) :
    (nearest num den).q = max leastExponent (logTwo num den - 52) := by
  rw [nearest, if_neg hnum]
  dsimp only
  split <;> rfl

/-- The significand is the quotient over its power of two, rounded to a whole number. -/
theorem nearest_m {num den : Nat} (hnum : num ≠ 0) (hd : 0 < den) :
    |(num / den : Rat) / 2 ^ (nearest num den).q - (nearest num den).m| ≤ 1 / 2 ∧
      (|(num / den : Rat) / 2 ^ (nearest num den).q - (nearest num den).m| = 1 / 2 →
        Even (nearest num den).m) := by
  rw [nearest, if_neg hnum]
  dsimp only
  generalize max leastExponent (logTwo num den - 52) = q
  split
  · rename_i hq
    obtain ⟨k, rfl⟩ := Int.eq_ofNat_of_zero_le hq
    refine abs_sub_roundDiv_le (Nat.mul_pos hd (Nat.two_pow_pos k)) ?_
    push_cast
    rw [zpow_natCast, div_div, div_mul_cancel₀ _ (by positivity)]
  · rename_i hq
    obtain ⟨k, rfl⟩ : ∃ k : Nat, q = -k := ⟨(-q).toNat, by omega⟩
    refine abs_sub_roundDiv_le hd ?_
    have hpow : powTwo k = 2 ^ k := rfl
    rw [neg_neg, Int.toNat_natCast, zpow_neg, zpow_natCast, div_inv_eq_mul, hpow]
    push_cast
    field_simp

theorem nearest_nears (num : Nat) {den : Nat} (hd : 0 < den) :
    Nears (num / den) (nearest num den) := by
  have hden : (0 : Rat) < den := by exact_mod_cast hd
  by_cases hnum : num = 0
  · subst hnum
    have hzero : nearest 0 den = ⟨0, leastExponent⟩ := if_pos rfl
    rw [hzero]
    refine ⟨le_rfl, ?_, .inl rfl, ?_, fun _ => Even.zero⟩
    · simp only [Nat.cast_zero, zero_div]; positivity
    · simp only [Nat.cast_zero, zero_div, toRat, zero_mul, sub_zero, abs_zero]; positivity
  · obtain ⟨hlow, hhigh⟩ := logTwo_spec hnum hd.ne'
    rw [← le_div_iff₀ hden] at hlow
    rw [← div_lt_iff₀ hden] at hhigh
    have hq := nearest_q hnum den
    obtain ⟨hnear, heven⟩ := near_of_roundDiv (nearest_m hnum hd)
    generalize nearest num den = s at *
    refine ⟨by omega, ?_, ?_, hnear, heven⟩
    · calc (num / den : Rat) < 2 ^ (logTwo num den + 1) := hhigh
        _ ≤ 2 ^ (53 + s.q) := zpow_le_zpow_right₀ one_le_two (by omega)
        _ = 2 ^ 53 * 2 ^ s.q := two_zpow_add 53 s.q
    · by_cases hleast : s.q = leastExponent
      · exact .inl hleast
      · right
        calc (2 : Rat) ^ 52 * 2 ^ s.q = 2 ^ (52 + s.q) := (two_zpow_add 52 s.q).symm
          _ ≤ 2 ^ logTwo num den := zpow_le_zpow_right₀ one_le_two (by omega)
          _ ≤ num / den := hlow

/-! ## Doubles -/

/-- The values of the doubles, as if there were no greatest one. -/
def IsDouble (y : Rat) : Prop :=
  ∃ m q : Int, m.natAbs < 2 ^ 53 ∧ leastExponent ≤ q ∧ y = m * 2 ^ q

/-- A double with an even significand. The significand has all its 53 digits unless the
    exponent is the least. -/
def IsEven (y : Rat) : Prop :=
  ∃ m q : Int, m.natAbs < 2 ^ 53 ∧ leastExponent ≤ q ∧ (q = leastExponent ∨ 2 ^ 52 ≤ m.natAbs) ∧
    Even m ∧ y = m * 2 ^ q

/-- Rounding to the nearest double, a tie to the even one. -/
structure Rounds (x r : Rat) : Prop where
  double : IsDouble r
  nearest : ∀ y, IsDouble y → |x - r| ≤ |x - y|
  even : ∀ y, IsDouble y → y ≠ r → |x - y| = |x - r| → IsEven r

theorem isDouble_zero : IsDouble 0 :=
  ⟨0, leastExponent, by decide, le_rfl, by simp⟩

theorem IsDouble.neg {y : Rat} (h : IsDouble y) : IsDouble (-y) := by
  obtain ⟨m, q, hm, hq, rfl⟩ := h
  exact ⟨-m, q, by rwa [Int.natAbs_neg], hq, by push_cast; ring⟩

theorem IsEven.neg {y : Rat} (h : IsEven y) : IsEven (-y) := by
  obtain ⟨m, q, hm, hq, hfull, heven, rfl⟩ := h
  exact ⟨-m, q, by rwa [Int.natAbs_neg], hq, by rwa [Int.natAbs_neg], heven.neg, by push_cast; ring⟩

/-- Rounding does not depend on the sign. -/
theorem Rounds.neg {x r : Rat} (h : Rounds x r) : Rounds (-x) (-r) := by
  have hflip : ∀ y : Rat, |-x - y| = |x - -y| := fun y => by
    rw [← abs_neg, neg_sub, sub_neg_eq_add, sub_neg_eq_add, add_comm]
  refine ⟨h.double.neg, fun y hy => ?_, fun y hy hne htie => ?_⟩
  · rw [hflip, hflip, neg_neg]
    exact h.nearest (-y) hy.neg
  · rw [hflip, hflip, neg_neg] at htie
    exact (h.even (-y) hy.neg (fun heq => hne (by rw [← heq, neg_neg])) htie).neg

/-- The magnitude in the middle of its exponent, which takes a significand one too great to
    the next exponent. -/
theorem toRat_full (q : Int) : toRat ⟨2 ^ 53, q⟩ = ((2 ^ 52 : Int) : Rat) * 2 ^ (q + 1) := by
  rw [two_zpow_add]
  simp only [toRat, two]
  push_cast
  ring

theorem isDouble_toRat {s : Scaled} (hm : s.m ≤ 2 ^ 53) (hq : leastExponent ≤ s.q) :
    IsDouble s.toRat := by
  obtain ⟨m, q⟩ := s
  rcases Nat.lt_or_eq_of_le hm with hlt | heq
  · exact ⟨m, q, by rwa [Int.natAbs_natCast], hq, by simp [toRat, two]⟩
  · dsimp only at heq hq
    subst heq
    exact ⟨2 ^ 52, q + 1, by decide, by omega, toRat_full q⟩

theorem isEven_toRat {s : Scaled} (hm : s.m ≤ 2 ^ 53) (hq : leastExponent ≤ s.q)
    (hfull : s.q = leastExponent ∨ 2 ^ 52 ≤ s.m) (heven : Even s.m) : IsEven s.toRat := by
  obtain ⟨m, q⟩ := s
  rcases Nat.lt_or_eq_of_le hm with hlt | heq
  · exact ⟨m, q, by rwa [Int.natAbs_natCast], hq, by rwa [Int.natAbs_natCast],
      by exact_mod_cast heven, by simp [toRat, two]⟩
  · dsimp only at heq hq
    subst heq
    exact ⟨2 ^ 52, q + 1, by decide, by omega, .inr (by decide), by decide, toRat_full q⟩

/-- A double of a higher exponent is a multiple of the step of a lower one. -/
theorem mul_two_zpow_add (m : Int) (k : Nat) (q : Int) :
    (m : Rat) * 2 ^ ((k : Int) + q) = ((m * 2 ^ k : Int) : Rat) * 2 ^ q := by
  rw [two_zpow_add, zpow_natCast]
  push_cast
  ring

/-- A double of a lower exponent is below the doubles with all 53 digits of a higher one. -/
theorem lt_of_lower {m q q' : Int} (hm : m.natAbs < 2 ^ 53) (hq : q < q') :
    (m : Rat) * 2 ^ q < 2 ^ 52 * 2 ^ q' := by
  have hm' : (m : Rat) < 2 ^ 53 := by
    have : m < 2 ^ 53 := by omega
    exact_mod_cast this
  calc (m : Rat) * 2 ^ q < 2 ^ 53 * 2 ^ q := by gcongr
    _ = 2 ^ 52 * 2 ^ (q + 1) := by rw [two_zpow_add]; ring
    _ ≤ 2 ^ 52 * 2 ^ q' := by
      gcongr
      · exact one_le_two
      · omega

namespace Nears

variable {x : Rat} {s : Scaled}

theorem le_significandEnd (h : Nears x s) : s.m ≤ 2 ^ 53 := by
  have hstep := step_pos s
  have hnear := (abs_le.1 h.near).1
  have hlt : (s.m : Rat) * 2 ^ s.q < (2 ^ 53 + 1) * 2 ^ s.q := by
    have hbelow := h.below
    simp only [toRat, two] at hnear
    linarith
  have hm : (s.m : Rat) < 2 ^ 53 + 1 := lt_of_mul_lt_mul_right hlt hstep.le
  exact Nat.lt_succ_iff.1 (by exact_mod_cast hm)

theorem full (h : Nears x s) : s.q = leastExponent ∨ 2 ^ 52 ≤ s.m := by
  refine h.above.imp_right fun habove => ?_
  have hstep := step_pos s
  have hnear := (abs_le.1 h.near).2
  have hlt : (2 ^ 52 : Rat) * 2 ^ s.q < (s.m + 1) * 2 ^ s.q := by
    simp only [toRat, two] at hnear
    linarith
  have hm : (2 ^ 52 : Rat) < s.m + 1 := lt_of_mul_lt_mul_right hlt hstep.le
  exact Nat.lt_succ_iff.1 (by exact_mod_cast hm)

/-- Another multiple of the step is at least half a step away. -/
theorem le_of_multiple (h : Nears x s) {k : Int} (hne : (k : Rat) * 2 ^ s.q ≠ s.toRat) :
    2 ^ s.q / 2 ≤ |x - k * 2 ^ s.q| := by
  have hstep := step_pos s
  have hk : k - s.m ≠ 0 := fun heq => hne (by
    have : k = s.m := by omega
    subst this
    simp [toRat, two])
  have hone : (1 : Rat) ≤ |(k : Rat) - s.m| := by
    exact_mod_cast Int.one_le_abs hk
  have hapart : (2 : Rat) ^ s.q ≤ |k * 2 ^ s.q - s.toRat| := by
    calc (2 : Rat) ^ s.q = 1 * 2 ^ s.q := (one_mul _).symm
      _ ≤ |(k : Rat) - s.m| * 2 ^ s.q := by gcongr
      _ = |k * 2 ^ s.q - s.toRat| := by
        rw [← abs_of_pos hstep, ← abs_mul, abs_of_pos hstep, sub_mul]
        rfl
  have htriangle := abs_sub_le ((k : Rat) * 2 ^ s.q) x s.toRat
  rw [abs_sub_comm _ x] at htriangle
  have hnear := h.near
  linarith

/-- Any other double is further away, or just as far if `x` is in the middle of a step. -/
theorem lt_of_isDouble (h : Nears x s) {y : Rat} (hy : IsDouble y)
    (hne : y ≠ s.toRat) : |x - s.toRat| < |x - y| ∨ 2 ^ s.q / 2 ≤ |x - y| := by
  obtain ⟨m, q, hm, hq, rfl⟩ := hy
  rcases lt_or_ge q s.q with hlower | hhigher
  · -- The least double of this exponent is a multiple of the step between `y` and `x`.
    left
    have habove : 2 ^ 52 * 2 ^ s.q ≤ x := h.above.resolve_left (by omega)
    have hbelow := lt_of_lower hm hlower
    have hnearest : |x - s.toRat| ≤ |x - ((2 ^ 52 : Int) : Rat) * 2 ^ s.q| := by
      by_cases heq : ((2 ^ 52 : Int) : Rat) * 2 ^ s.q = s.toRat
      · rw [heq]
      · exact le_trans h.near (h.le_of_multiple heq)
    rw [Int.cast_pow, Int.cast_ofNat] at hnearest
    rw [abs_of_nonneg (by linarith : 0 ≤ x - 2 ^ 52 * 2 ^ s.q)] at hnearest
    rw [abs_of_pos (by linarith : 0 < x - m * 2 ^ q)]
    linarith
  · right
    obtain ⟨k, rfl⟩ : ∃ k : Nat, q = k + s.q := ⟨(q - s.q).toNat, by omega⟩
    rw [mul_two_zpow_add] at hne ⊢
    exact h.le_of_multiple hne

theorem rounds (h : Nears x s) : Rounds x s.toRat where
  double := isDouble_toRat h.le_significandEnd h.least
  nearest y hy := by
    by_cases hne : y = s.toRat
    · rw [hne]
    · rcases h.lt_of_isDouble hy hne with hlt | hle
      · exact hlt.le
      · exact le_trans h.near hle
  even y hy hne htie := by
    have hhalf : |x - s.toRat| = 2 ^ s.q / 2 := by
      rcases h.lt_of_isDouble hy hne with hlt | hle
      · exact absurd htie hlt.ne'
      · exact le_antisymm h.near (htie ▸ hle)
    exact isEven_toRat h.le_significandEnd h.least h.full (h.even hhalf)

end Nears

end Scaled

namespace Binary64

open Scaled

theorem nearest_neg (x : Rat) : nearest (-x) = -nearest x := by
  rcases lt_trichotomy x.num 0 with h | h | h
  · simp [nearest, h, not_lt.2 h.le]
  · simp [Rat.num_eq_zero.1 h, nearest, Scaled.nearest, toRat]
  · simp [nearest, h, not_lt.2 h.le]

/-- `nearest` rounds to the nearest double, a tie to the even one. -/
theorem nearest_rounds (x : Rat) : Rounds x (nearest x) := by
  have hnonneg : ∀ x : Rat, 0 ≤ x → Rounds x (nearest x) := fun x hx => by
    have hnum : ((x.num.natAbs : Nat) : Rat) = x.num := by
      rw [← Int.cast_natCast, Int.natAbs_of_nonneg (Rat.num_nonneg.2 hx)]
    have hnears := nearest_nears x.num.natAbs x.den_pos
    rw [hnum, Rat.num_div_den] at hnears
    rw [nearest, if_neg (not_lt.2 (Rat.num_nonneg.2 hx))]
    exact hnears.rounds
  rcases le_total 0 x with hx | hx
  · exact hnonneg x hx
  · have hneg := (hnonneg (-x) (neg_nonneg.2 hx)).neg
    rwa [nearest_neg, neg_neg, neg_neg] at hneg

end Binary64

namespace Scaled

/-! ## The only one -/

/-- An even double that is not negative is followed by an odd one. -/
theorem IsEven.exists_between_of_nonneg {r r' : Rat} (hr : IsEven r) (hr' : IsEven r')
    (hnonneg : 0 ≤ r) (hlt : r < r') : ∃ y, IsDouble y ∧ r < y ∧ y < r' := by
  obtain ⟨m, q, hm, hq, hfull, heven, rfl⟩ := hr
  obtain ⟨m', q', hm', hq', -, heven', rfl⟩ := hr'
  have hstep : (0 : Rat) < 2 ^ q := by positivity
  have hmpos : (0 : Rat) ≤ m := nonneg_of_mul_nonneg_left hnonneg hstep
  have hpos : 0 ≤ m := by exact_mod_cast hmpos
  have hodd : m + 1 < 2 ^ 53 := by
    obtain ⟨k, rfl⟩ := heven
    omega
  refine ⟨((m + 1 : Int) : Rat) * 2 ^ q, ⟨m + 1, q, by omega, hq, rfl⟩, ?_, ?_⟩
  · gcongr
    exact lt_add_one m
  rcases lt_or_ge q' q with hlower | hhigher
  · -- A lower exponent would make the greater one smaller.
    have hbelow : (m' : Rat) * 2 ^ q' < 2 ^ 52 * 2 ^ q := lt_of_lower hm' hlower
    have hfull' : (2 ^ 52 : Rat) ≤ m := by
      have : (2 ^ 52 : Int) ≤ m := by omega
      exact_mod_cast this
    have habove : (2 ^ 52 : Rat) * 2 ^ q ≤ m * 2 ^ q := by gcongr
    linarith
  · obtain ⟨k, rfl⟩ : ∃ k : Nat, q' = k + q := ⟨(q' - q).toNat, by omega⟩
    rw [mul_two_zpow_add] at hlt ⊢
    have hmlt : m < m' * 2 ^ k := by
      exact_mod_cast lt_of_mul_lt_mul_right hlt hstep.le
    have hne : m + 1 ≠ m' * 2 ^ k := fun heq => by
      have hsum : Even (m + 1) := heq ▸ heven'.mul_right _
      obtain ⟨a, ha⟩ := heven
      obtain ⟨b, hb⟩ := hsum
      omega
    gcongr
    omega

/-- Between two even doubles stands another double. -/
theorem IsEven.exists_between {r r' : Rat} (hr : IsEven r) (hr' : IsEven r') (hlt : r < r') :
    ∃ y, IsDouble y ∧ r < y ∧ y < r' := by
  rcases le_or_gt 0 r with hnonneg | hneg
  · exact hr.exists_between_of_nonneg hr' hnonneg hlt
  · rcases le_or_gt r' 0 with hnonpos | hpos
    · obtain ⟨y, hy, hlow, hhigh⟩ :=
        hr'.neg.exists_between_of_nonneg hr.neg (neg_nonneg.2 hnonpos) (neg_lt_neg hlt)
      exact ⟨-y, hy.neg, by linarith, by linarith⟩
    · exact ⟨0, isDouble_zero, hneg, hpos⟩

theorem Rounds.le {x r r' : Rat} (h : Rounds x r) (h' : Rounds x r') : r ≤ r' := by
  by_contra hgt
  have hlt := not_le.1 hgt
  have htie : |x - r| = |x - r'| := le_antisymm (h.nearest r' h'.double) (h'.nearest r h.double)
  have heven := h.even r' h'.double hlt.ne htie.symm
  have heven' := h'.even r h.double hlt.ne' htie
  obtain ⟨y, hy, hlow, hhigh⟩ := heven'.exists_between heven hlt
  have hmiddle : r - x = x - r' := by
    rcases abs_eq_abs.1 htie with heq | heq <;> linarith
  have hle := h'.nearest y hy
  rw [abs_of_nonneg (by linarith : 0 ≤ x - r')] at hle
  exact absurd hle (not_le.2 (abs_lt.2 ⟨by linarith, by linarith⟩))

/-- A number rounds to one double only. -/
theorem Rounds.unique {x r r' : Rat} (h : Rounds x r) (h' : Rounds x r') : r = r' :=
  le_antisymm (h.le h') (h'.le h)

/-- A number that is not below a double is not rounded below it. -/
theorem Rounds.le_of_le {x r y : Rat} (h : Rounds x r) (hy : IsDouble y) (hle : y ≤ x) : y ≤ r := by
  by_contra hlt
  rw [not_le] at hlt
  have hnear := h.nearest y hy
  rw [abs_of_nonneg (by linarith : 0 ≤ x - r), abs_of_nonneg (by linarith : 0 ≤ x - y)] at hnear
  linarith

/-- A number that is not above a double is not rounded above it. -/
theorem Rounds.ge_of_ge {x r y : Rat} (h : Rounds x r) (hy : IsDouble y) (hle : x ≤ y) : r ≤ y :=
  neg_le_neg_iff.1 (h.neg.le_of_le hy.neg (neg_le_neg hle))

/-- A double is not rounded. -/
theorem Rounds.eq_of_isDouble {x r : Rat} (h : Rounds x r) (hx : IsDouble x) : r = x :=
  le_antisymm (h.ge_of_ge hx le_rfl) (h.le_of_le hx le_rfl)

theorem isDouble_intCast {n : Int} (h : n.natAbs < 2 ^ 53) : IsDouble n :=
  ⟨n, 0, h, by decide, by simp⟩

theorem isDouble_div {n : Int} {k : Nat} (h : n.natAbs < 2 ^ 53) (hk : k ≤ 1074) :
    IsDouble (n / 2 ^ k) :=
  ⟨n, -k, h, by simp only [leastExponent]; omega, by simp [div_eq_mul_inv]⟩

end Scaled

namespace Binary64

open Scaled

/-- A natural number of 53 binary digits is not rounded. -/
theorem nearest_natCast {n : Nat} (h : n < 2 ^ 53) : nearest (n : Rat) = n :=
  (nearest_rounds n).eq_of_isDouble (isDouble_intCast (n := n) h)

/-- What `nearest` computes is the one number that rounding to the nearest double allows. -/
theorem rounds_iff (x r : Rat) : Rounds x r ↔ r = nearest x :=
  ⟨fun h => h.unique (nearest_rounds x), fun h => h ▸ nearest_rounds x⟩

end Binary64

end Cooling
