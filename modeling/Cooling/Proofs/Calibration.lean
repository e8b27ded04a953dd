-- SUMMARY: How a sensor is calibrated: after any row of settings its corrections are those of a model without a list.
import Cooling.Proofs.Readings

/-!
# Calibration

A base keeps its corrections in a list that may be shorter than the number of its
temperatures, and that is cut off, filled up and replaced as it is set. What it amounts to is
a `Calibration`: a number of temperatures, and a correction for each index, which is zero
past the end of the list. Setting a base does to its calibration what it says, so corrections
that were cut off do not come back, and zeros at the end of a list make no difference.
-/

namespace Cooling

open Program

/-! ## The model -/

/-- How many temperatures there are, and what is added to each of them. -/
@[ext] structure Calibration where
  count : Nat
  offset : Nat → Int

namespace Calibration

/-- What can be set. -/
inductive Setting where
  | count (n : Nat)
  | corrections (cs : List Int32)

/-- No temperatures, and nothing to add. -/
def blank : Calibration := ⟨0, fun _ => 0⟩

/-- Corrections with zeros after them. -/
def padded (cs : List Int32) (i : Nat) : Int := (cs[i]?).elim 0 Int32.toInt

/-- Temperatures that are no more lose their corrections, and new ones have none. More
    corrections than temperatures are refused. -/
def set (c : Calibration) : Setting → Calibration
  | .count n => ⟨n, fun i => if i < n then c.offset i else 0⟩
  | .corrections cs => if cs.length ≤ c.count then ⟨c.count, padded cs⟩ else c

def setAll (c : Calibration) (settings : List Setting) : Calibration := settings.foldl set c

theorem set_corrections_of_le {c : Calibration} {cs : List Int32} (h : cs.length ≤ c.count) :
    c.set (.corrections cs) = ⟨c.count, padded cs⟩ := if_pos h

theorem padded_append_zeros (cs : List Int32) (k : Nat) :
    padded (cs ++ List.replicate k 0) = padded cs := by
  funext i
  unfold padded
  rw [List.getElem?_append]
  split
  · rfl
  · rename_i hi
    rw [List.getElem?_eq_none (Nat.not_lt.1 hi), List.getElem?_replicate]
    split <;> rfl

/-- Zeros at the end of a list make no difference. -/
theorem setAll_append_zeros {c : Calibration} {cs : List Int32} {k : Nat}
    (h : cs.length + k ≤ c.count) (later : List Setting) :
    c.setAll (.corrections (cs ++ List.replicate k 0) :: later) =
      c.setAll (.corrections cs :: later) := by
  have hle : cs.length ≤ c.count := by omega
  have hle' : (cs ++ List.replicate k 0).length ≤ c.count := by
    rwa [List.length_append, List.length_replicate]
  unfold setAll
  rw [List.foldl_cons, List.foldl_cons, set_corrections_of_le hle, set_corrections_of_le hle',
    padded_append_zeros]

end Calibration

/-! ## Setting a base -/

namespace SensorBase

open Calibration (Setting)

/-- What the base amounts to. -/
def calibration (base : SensorBase) : Calibration := ⟨base.count, base.correction⟩

/-- The base after an attempt to set its corrections. If that fails the base is as it was. -/
def calibrated (base : SensorBase) : Except Failure SensorBase → SensorBase × Except Failure Unit
  | .ok base' => (base', .ok ())
  | .error f => (base, .error f)

/-- Sets something. Gives the base as it is then, and how it went. -/
def set (base : SensorBase) : Setting → Program (SensorBase × Except Failure Unit)
  | .count n => return (base.withCount n, .ok ())
  | .corrections cs => base.calibrated <$> (base.correct (cs.map Int32.toInt)).run

/-- Sets one thing after the other, whether or not it goes well. -/
def setAll (base : SensorBase) : List Setting → Program SensorBase
  | [] => return base
  | setting :: settings => do
    let (base, _) ← base.set setting
    base.setAll settings

/-- There are no corrections past the number of temperatures, and all are of 32 bits. -/
structure Sound (base : SensorBase) : Prop where
  length_le : base.corrections.length ≤ base.count
  fits : ∀ c ∈ base.corrections, Text.fits32 c = true

variable {base : SensorBase} {m : Machine}

theorem sound_new (path : String) : Sound { path } where
  length_le := Nat.le_refl 0
  fits := nofun

/-- Corrections are set if there are no more of them than temperatures. A refusal asks for
    nothing. -/
theorem correct_value (base : SensorBase) (corrections : List Int) (m : Machine) :
    (base.correct corrections).run.wp (fun r m' es =>
      if corrections.length ≤ base.count then r = .ok { base with corrections }
      else r = .error (base.tooManyCorrections corrections.length) ∧ m' = m ∧ es = []) m := by
  unfold correct
  refine (wp_run_guard _ _).2 ?_
  by_cases hmany : base.count < corrections.length
  · rw [if_pos hmany, if_neg (Nat.not_le.2 hmany)]
    exact ⟨rfl, rfl, rfl⟩
  · simp only [if_neg hmany, if_pos (Nat.not_lt.1 hmany)]
    split
    · exact rfl
    · exact rfl

/-- How setting corrections goes. A refusal leaves the base as it was. -/
theorem set_corrections (base : SensorBase) (cs : List Int32) (m : Machine) :
    (base.set (.corrections cs)).wp (fun r _ _ => r =
      if cs.length ≤ base.count then ({ base with corrections := cs.map Int32.toInt }, .ok ())
      else (base, .error (base.tooManyCorrections cs.length))) m := by
  rw [set, wp_map]
  refine wp_mono (base.correct_value _ m) fun r m' es hr => ?_
  rw [List.length_map] at hr
  split
  · rename_i hfew
    rw [if_pos hfew] at hr
    rw [hr]
    rfl
  · rename_i hmany
    rw [if_neg hmany] at hr
    rw [hr.1]
    rfl

/-! ### What setting keeps -/

/-- Where the list ends does not matter: past it a correction is zero. -/
theorem correction_eq_padded (base : SensorBase) (cs : List Int32) (i : Nat) :
    correction { base with corrections := cs.map Int32.toInt } i = Calibration.padded cs i := by
  unfold correction Calibration.padded
  rw [List.getElem?_map]
  cases cs[i]? <;> rfl

theorem correction_withCount (base : SensorBase) (n i : Nat) :
    (base.withCount n).correction i = if i < n then base.correction i else 0 := by
  unfold correction withCount
  dsimp only
  rw [List.getElem?_append, List.length_take]
  by_cases hi : i < n
  · rw [if_pos hi]
    by_cases hkept : i < base.corrections.length
    · rw [if_pos (by omega), List.getElem?_take_of_lt hi]
    · rw [if_neg (by omega), List.getElem?_eq_none (Nat.not_lt.1 hkept), List.getElem?_replicate]
      split <;> rfl
  · rw [if_neg (by omega), if_neg hi, List.getElem?_replicate, if_neg (by omega)]
    rfl

theorem Sound.withCount (h : base.Sound) (n : Nat) : (base.withCount n).Sound where
  length_le := by
    simp only [SensorBase.withCount, List.length_append, List.length_take, List.length_replicate]
    omega
  fits := fits_withCount h.fits n

theorem Sound.withCorrections (base : SensorBase) {cs : List Int32}
    (h : cs.length ≤ base.count) : Sound { base with corrections := cs.map Int32.toInt } where
  length_le := by rwa [List.length_map]
  fits := by
    intro c hc
    obtain ⟨c, -, rfl⟩ := List.mem_map.1 hc
    exact Sensor.fits32_toInt c

/-- Setting a base sets its calibration, and keeps the base sound. -/
theorem set_calibration (base : SensorBase) (setting : Setting) (m : Machine) :
    (base.set setting).wp (fun r _ _ => r.1.path = base.path ∧
      r.1.calibration = base.calibration.set setting ∧ (base.Sound → r.1.Sound)) m := by
  cases setting with
  | count n =>
    refine ⟨rfl, ?_, fun h => h.withCount n⟩
    exact Calibration.ext rfl (funext (base.correction_withCount n))
  | corrections cs =>
    refine wp_mono (base.set_corrections cs m) ?_
    rintro r m' es rfl
    have hset : base.calibration.set (.corrections cs) =
        if cs.length ≤ base.count then ⟨base.count, Calibration.padded cs⟩
        else base.calibration := rfl
    rw [hset]
    split
    · rename_i hfew
      refine ⟨rfl, ?_, fun _ => .withCorrections base hfew⟩
      exact Calibration.ext rfl (funext (base.correction_eq_padded cs))
    · exact ⟨rfl, rfl, id⟩

/-- Any row of settings does to a base what it does to its calibration. -/
theorem setAll_calibration (base : SensorBase) (settings : List Setting) (m : Machine) :
    (base.setAll settings).wp (fun base' _ _ => base'.path = base.path ∧
      base'.calibration = base.calibration.setAll settings ∧ (base.Sound → base'.Sound)) m := by
  induction settings generalizing base m with
  | nil => exact ⟨rfl, rfl, id⟩
  | cons setting settings ih =>
    rw [setAll, wp_bind]
    refine wp_mono (base.set_calibration setting m) ?_
    rintro r m' es ⟨hpath, hcalibration, hsound⟩
    refine wp_mono (ih r.1 m') ?_
    rintro base' m'' fs ⟨hpath', hcalibration', hsound'⟩
    rw [hcalibration] at hcalibration'
    exact ⟨hpath'.trans hpath, hcalibration', hsound' ∘ hsound⟩

/-! ### Correcting -/

/-- A temperature is corrected exactly, or not at all. -/
theorem corrected_exact (base : SensorBase) (i : Nat) (t : Int) :
    let sum := t + base.correction i
    if -2147483648 ≤ sum ∧ sum ≤ 2147483647 then base.corrected i t = .ok sum
    else ∃ f, base.corrected i t = .error f ∧ f.kind = .system := by
  intro sum
  split
  · rename_i hrange
    exact if_pos (Text.fits32_iff.2 hrange)
  · rename_i hrange
    exact ⟨_, if_neg (Text.fits32_iff.not.2 hrange), rfl⟩

/-- Bases with the same calibration correct alike, down to the text of a failure. -/
theorem corrected_congr {base' : SensorBase} (hpath : base'.path = base.path)
    (hcalibration : base'.calibration = base.calibration) (i : Nat) (t : Int) :
    base'.corrected i t = base.corrected i t := by
  have hcorrection : base'.correction i = base.correction i :=
    congrFun (congrArg Calibration.offset hcalibration) i
  unfold corrected outOfRange
  rw [hcorrection, hpath]

/-- Whatever is set, a base is sound and amounts to what the model says: each temperature is
    corrected by exactly that, or refused if the sum is out of range, and too many corrections
    are refused without a trace. Corrections and the same ones with zeros after them cannot be
    told apart by any correction later on. -/
theorem setAll_calibrated (path : String) (settings : List Setting) (m : Machine) :
    let model := Calibration.blank.setAll settings
    (SensorBase.setAll { path } settings).wp (fun base m' _ =>
      base.Sound ∧ base.path = path ∧ base.calibration = model ∧
        (∀ i (t : Int32),
          let sum := t.toInt + model.offset i
          if -2147483648 ≤ sum ∧ sum ≤ 2147483647 then base.corrected i t.toInt = .ok sum
          else ∃ f, base.corrected i t.toInt = .error f ∧ f.kind = .system) ∧
        (∀ cs, (base.set (.corrections cs)).wp (fun r _ _ =>
          if cs.length ≤ model.count then
            r.2 = .ok () ∧ r.1.calibration = ⟨model.count, Calibration.padded cs⟩
          else r.1 = base ∧ ∃ f, r.2 = .error f ∧ f.kind = .config) m') ∧
        ∀ cs k later m₁ m₂, cs.length + k ≤ model.count →
          let short := (base.setAll (.corrections cs :: later)).value m₁
          let full := (base.setAll (.corrections (cs ++ List.replicate k 0) :: later)).value m₂
          ∀ i t, full.corrected i t = short.corrected i t) m := by
  intro model
  refine wp_mono (setAll_calibration { path } settings m) ?_
  rintro base m' es ⟨hpath, hcalibration, hsound⟩
  replace hcalibration : base.calibration = model := hcalibration
  rw [← hcalibration]
  refine ⟨hsound (sound_new path), hpath, rfl, ?exact, ?refused, ?zeros⟩
  case exact => exact fun i t => base.corrected_exact i t.toInt
  case refused =>
    intro cs
    have hboth := wp_and (base.set_corrections cs m') (base.set_calibration (.corrections cs) m')
    refine wp_mono hboth ?_
    rintro r m'' fs ⟨rfl, -, hset, -⟩
    split
    · rename_i hfew
      rw [Calibration.set_corrections_of_le hfew] at hset
      exact ⟨congrArg Prod.snd (if_pos hfew), hset⟩
    · rename_i hmany
      exact ⟨congrArg Prod.fst (if_neg hmany), _, congrArg Prod.snd (if_neg hmany), rfl⟩
  case zeros =>
    intro cs k later m₁ m₂ hk short full i t
    obtain ⟨hshort, hshort', -⟩ := base.setAll_calibration (.corrections cs :: later) m₁
    obtain ⟨hfull, hfull', -⟩ :=
      base.setAll_calibration (.corrections (cs ++ List.replicate k 0) :: later) m₂
    apply corrected_congr (hfull.trans hshort.symm)
    rw [hfull', hshort', Calibration.setAll_append_zeros hk]

end SensorBase

end Cooling
