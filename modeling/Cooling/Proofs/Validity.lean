-- SUMMARY: What a configuration must satisfy to be accepted, which mistake is reported otherwise, and why an accepted one builds a fan with its settings.
import Mathlib.Tactic.Linarith
import Mathlib.Tactic.Positivity
import Cooling.Proofs.Decimals
import Cooling.Proofs.Documents
import Cooling.Proofs.Fields
import Cooling.Proofs.Prepare

/-!
# Valid configurations

A configuration makes a list of demands, in order, each with the violation that is reported
when it is not met. `Reports` says what checking one demand after the other comes to: nothing
is wrong, or the first demand that is not met is. What follows from a valid configuration is
that its depulse time is one, and short, and that its fan is built with its settings whenever
the control file offers levels.
-/

namespace Cooling

/-! ## Numbers of seconds -/

namespace Scaled

theorem toRat_nonneg (s : Scaled) : 0 ≤ s.toRat :=
  mul_nonneg (Nat.cast_nonneg _) (zpow_nonneg (by norm_num [two]) _)

theorem toRat_eq_zero_iff {s : Scaled} : s.toRat = 0 ↔ s.m = 0 := by
  have htwo : two ^ s.q ≠ 0 := zpow_ne_zero _ (by norm_num [two])
  rw [toRat, mul_eq_zero_iff_right htwo, Nat.cast_eq_zero]

/-- Both numbers are brought to one denominator, and their numerators are compared. -/
theorem compareNat_eq (s : Scaled) (n : Nat) : ∃ a b d : Nat, (0 : Rat) < d ∧
    s.compareNat n = compare a b ∧ s.toRat * d = a ∧ (n : Rat) * d = b := by
  obtain ⟨m, q⟩ := s
  unfold compareNat
  split
  · rename_i hq
    obtain ⟨k, rfl⟩ := Int.eq_ofNat_of_zero_le hq
    refine ⟨m * 2 ^ k, n, 1, by norm_num, rfl, ?_, by simp⟩
    rw [toRat_natCast, Nat.cast_one, mul_one]
    push_cast
    rfl
  · rename_i hq
    obtain ⟨k, rfl⟩ : ∃ k : Nat, q = -k := ⟨(-q).toNat, by dsimp only at hq; omega⟩
    have hpow : (0 : Rat) < (2 ^ k : Nat) := by positivity
    refine ⟨m, n * 2 ^ k, 2 ^ k, hpow, ?_, ?_, by push_cast; rfl⟩
    · rw [neg_neg, Int.toNat_natCast]
      rfl
    · rw [toRat_neg_natCast, ← Nat.cast_two, ← Nat.cast_pow]
      exact div_mul_cancel₀ _ hpow.ne'

theorem isLE_compareNat {s : Scaled} {n : Nat} : (s.compareNat n).isLE = true ↔ s.toRat ≤ n := by
  obtain ⟨a, b, d, hd, hcompare, ha, hb⟩ := s.compareNat_eq n
  rw [hcompare, Nat.isLE_compare, ← mul_le_mul_iff_of_pos_right hd, ha, hb, Nat.cast_le]

theorem isLT_compareNat {s : Scaled} {n : Nat} : (s.compareNat n).isLT = true ↔ s.toRat < n := by
  obtain ⟨a, b, d, hd, hcompare, ha, hb⟩ := s.compareNat_eq n
  rw [hcompare, Ordering.isLT_iff_eq_lt, Nat.compare_eq_lt, ← mul_lt_mul_iff_of_pos_right hd, ha,
    hb, Nat.cast_lt]

end Scaled

/-- The number that a double stands for, if it stands for one. -/
def Binary64.toRat? (x : Binary64) : Option Rat :=
  match x.value with
  | .finite negative s => some (if negative then -s.toRat else s.toRat)
  | _ => none

namespace Config

theorem atMost_iff {s : Scaled} {n : Nat} : atMost s n = true ↔ s.toRat ≤ n :=
  Scaled.isLE_compareNat

/-- Both zeros are in range. -/
theorem inRange_iff {limit : Nat} {x : Binary64} :
    inRange limit x = true ↔ ∃ y, x.toRat? = some y ∧ 0 ≤ y ∧ y ≤ limit := by
  unfold inRange Binary64.toRat?
  cases x.value with
  | notANumber => simp
  | infinite negative => simp
  | finite negative s =>
    have hnonneg := s.toRat_nonneg
    rw [Bool.and_eq_true, atMost_iff]
    cases negative with
    | false => simp [hnonneg]
    | true =>
      have hzero : s.m = 0 ↔ s.toRat ≤ 0 := by
        rw [← Scaled.toRat_eq_zero_iff]
        exact ⟨fun h => h.le, fun h => h.antisymm hnonneg⟩
      simp only [Bool.not_true, Bool.false_or, beq_iff_eq, if_true, Option.some.injEq,
        exists_eq_left', Left.nonneg_neg_iff, hzero]
      refine and_congr_right fun hle => ?_
      have hlimit : (0 : Rat) ≤ limit := Nat.cast_nonneg _
      constructor <;> intro <;> linarith

example : inRange 10 ⟨9223372036854775808⟩ = true := by decide +kernel

/-- Half a nanosecond is lost at most. -/
theorem secondsToNanos_near (s : Scaled) :
    |(secondsToNanos s : Rat) - s.toRat * 1000000000| ≤ 1 / 2 := by
  obtain ⟨m, q⟩ := s
  unfold secondsToNanos
  split
  · rename_i hq
    obtain ⟨k, rfl⟩ := Int.eq_ofNat_of_zero_le hq
    have hexact : ((m * powTwo k * 1000000000 : Nat) : Rat) = m * 2 ^ k * 1000000000 := by
      simp [powTwo]
    rw [Scaled.toRat_natCast, Int.toNat_natCast, hexact, sub_self, abs_zero]
    norm_num
  · rename_i hq
    obtain ⟨k, rfl⟩ : ∃ k : Nat, q = -k := ⟨(-q).toNat, by dsimp only at hq; omega⟩
    rw [Scaled.toRat_neg_natCast, neg_neg, Int.toNat_natCast]
    obtain ⟨hlow, hhigh⟩ := roundDiv_near (m * 1000000000) (Nat.two_pow_pos k)
    change |((roundDiv (m * 1000000000) (2 ^ k) : Nat) : Rat) - _| ≤ _
    generalize roundDiv (m * 1000000000) (2 ^ k) = r at *
    have hpow : (0 : Rat) < 2 ^ k := by positivity
    have hlow' : (2 * (m * 1000000000) : Rat) ≤ (2 * r + 1) * 2 ^ k := by exact_mod_cast hlow
    have hhigh' : (2 * r * 2 ^ k : Rat) ≤ 2 * (m * 1000000000) + 2 ^ k := by exact_mod_cast hhigh
    rw [abs_le]
    constructor
    · rw [le_sub_iff_add_le, div_mul_eq_mul_div, ← le_sub_iff_add_le', div_le_iff₀ hpow]
      linarith
    · rw [sub_le_iff_le_add, div_mul_eq_mul_div, ← sub_le_iff_le_add', le_div_iff₀ hpow]
      linarith

/-! ## Demands -/

/-- What a configuration must satisfy, and what is reported if it does not. -/
structure Demand where
  violation : Violation
  Met : Prop

/-- The violation of the first demand that is not met. -/
def FirstUnmet (demands : List Demand) (v : Violation) : Prop :=
  ∃ front d back, demands = front ++ d :: back ∧ (∀ e ∈ front, e.Met) ∧ ¬d.Met ∧ d.violation = v

theorem not_firstUnmet_nil {v : Violation} : ¬FirstUnmet [] v := by
  rintro ⟨front, d, back, hnil, -⟩
  cases front <;> cases hnil

theorem firstUnmet_cons_of_met {d : Demand} {demands : List Demand} {v : Violation} (hd : d.Met) :
    FirstUnmet (d :: demands) v ↔ FirstUnmet demands v := by
  constructor
  · rintro ⟨_ | ⟨d', front⟩, e, back, hcons, hfront, he⟩
    · obtain ⟨rfl, -⟩ := List.cons.inj hcons
      exact absurd hd he.1
    · obtain ⟨-, rfl⟩ := List.cons.inj hcons
      exact ⟨front, e, back, rfl, (List.forall_mem_cons.1 hfront).2, he⟩
  · rintro ⟨front, e, back, rfl, hfront, he⟩
    exact ⟨d :: front, e, back, rfl, List.forall_mem_cons.2 ⟨hd, hfront⟩, he⟩

theorem firstUnmet_cons_of_not_met {d : Demand} {demands : List Demand} {v : Violation}
    (hd : ¬d.Met) : FirstUnmet (d :: demands) v ↔ d.violation = v := by
  constructor
  · rintro ⟨_ | ⟨d', front⟩, e, back, hcons, hfront, -, rfl⟩
    · obtain ⟨rfl, -⟩ := List.cons.inj hcons
      rfl
    · obtain ⟨rfl, -⟩ := List.cons.inj hcons
      exact absurd (List.forall_mem_cons.1 hfront).1 hd
  · rintro rfl
    exact ⟨[], d, demands, rfl, nofun, hd, rfl⟩

/-- What checking demands comes to, one after the other. -/
inductive Reports : List Demand → Except Violation Unit → Prop
  | nil : Reports [] (.ok ())
  | met {d : Demand} {demands : List Demand} {r : Except Violation Unit} (h : d.Met)
      (rest : Reports demands r) : Reports (d :: demands) r
  | unmet {d : Demand} {demands : List Demand} (h : ¬d.Met) :
      Reports (d :: demands) (.error d.violation)

namespace Reports

variable {demands : List Demand} {r r' : Except Violation Unit} {d : Demand} {v : Violation}

/-- Others are checked once the first demand is met. -/
theorem cons (h : Reports [d] r) (h' : Reports demands r') :
    Reports (d :: demands) (r >>= fun _ => r') := by
  cases h with
  | met hd rest =>
    cases rest
    exact .met hd h'
  | unmet hd => exact .unmet hd

/-- A check that decides one demand. -/
theorem decides {b : Bool} (h : b = true ↔ d.Met) :
    Reports [d] (if b then .ok () else .error d.violation) := by
  cases b with
  | true => exact .met (h.1 rfl) .nil
  | false => exact .unmet fun hd => nomatch h.2 hd

/-- A demand that is checked before others. -/
theorem guard {wrong : Prop} [Decidable wrong] (h : ¬wrong ↔ d.Met)
    {k : PUnit → Except Violation Unit} (hk : Reports demands (k ⟨⟩)) :
    Reports (d :: demands) (if wrong then throw d.violation >>= k else k ⟨⟩) := by
  split
  · rename_i hwrong
    exact .unmet fun hd => h.2 hd hwrong
  · rename_i hright
    exact .met (h.1 hright) hk

theorem ok_iff (h : Reports demands r) : r = .ok () ↔ ∀ d ∈ demands, d.Met := by
  induction h with
  | nil => exact ⟨fun _ => nofun, fun _ => rfl⟩
  | met hd rest ih => rw [List.forall_mem_cons, ih, and_iff_right hd]
  | unmet hd => exact ⟨nofun, fun hall => absurd (List.forall_mem_cons.1 hall).1 hd⟩

theorem error_iff (h : Reports demands r) : r = .error v ↔ FirstUnmet demands v := by
  induction h with
  | nil => exact ⟨nofun, fun h => absurd h not_firstUnmet_nil⟩
  | met hd rest ih => rw [ih, firstUnmet_cons_of_met hd]
  | unmet hd => rw [firstUnmet_cons_of_not_met hd, Except.error.injEq]

end Reports

end Config

/-! ## What is demanded -/

/-- The path starts at the root. -/
def Rooted (path : String) : Prop := ∃ rest, path.toList = '/' :: rest

/-- The number of seconds is from 1 to 120. -/
def Timely (n : UInt64) : Prop := 1 ≤ n.toNat ∧ n.toNat ≤ 120

/-- The double stands for a number of seconds from 0 to 10. -/
def Short (x : Binary64) : Prop := ∃ y, x.toRat? = some y ∧ 0 ≤ y ∧ y ≤ 10

/-- Only zero can be short and have a sign. -/
theorem Short.value {x : Binary64} (h : Short x) :
    ∃ negative s, x.value = .finite negative s ∧ s.toRat ≤ 10 ∧ (negative = true → s.m = 0) := by
  obtain ⟨y, hy, hnonneg, hle⟩ := h
  unfold Binary64.toRat? at hy
  cases hvalue : x.value with
  | notANumber => simp [hvalue] at hy
  | infinite negative => simp [hvalue] at hy
  | finite negative s =>
    rw [hvalue] at hy
    obtain rfl := Option.some.inj hy
    cases negative with
    | false => exact ⟨false, s, rfl, hle, nofun⟩
    | true =>
      have hzero : s.toRat = 0 := le_antisymm (Left.nonneg_neg_iff.1 hnonneg) s.toRat_nonneg
      refine ⟨true, s, rfl, ?_, fun _ => Scaled.toRat_eq_zero_iff.1 hzero⟩
      rw [hzero]
      norm_num

/-- A short time is one that can be counted, and it keeps short when it is. -/
theorem Short.ofBinary64? {x : Binary64} (h : Short x) :
    ∃ d, Duration.ofBinary64? x = some d ∧ d.nanos ≤ 10 * 1000000000 := by
  obtain ⟨negative, s, hvalue, hle, hsign⟩ := h.value
  have hfar : (10 : Rat) < Duration.secondsEnd := by norm_num [Duration.secondsEnd]
  have hcountable : (!negative || s.m == 0) && (s.compareNat Duration.secondsEnd).isLT := by
    rw [Bool.and_eq_true, Scaled.isLT_compareNat]
    exact ⟨by simpa [or_iff_not_imp_left] using hsign, hle.trans_lt hfar⟩
  refine ⟨⟨Config.secondsToNanos s⟩, ?_, ?_⟩
  · rw [Duration.ofBinary64?, hvalue]
    exact if_pos hcountable
  · have hnear := (abs_le.1 (Config.secondsToNanos_near s)).2
    by_contra hmore
    have hcast : ((10 * 1000000000 + 1 : Nat) : Rat) ≤ Config.secondsToNanos s := by
      exact_mod_cast Nat.not_le.1 hmore
    push_cast at hcast
    linarith

namespace SensorSpec

/-- The bus of a GPU is not blank, and the path of any other sensor starts at the root. -/
def Valid (s : SensorSpec) : Prop :=
  match s.kind with
  | .gpu => ∃ c ∈ s.path.toList, Text.isBlank c = false
  | _ => Rooted s.path

/-- What is reported of the sensor at a position if it is not valid. -/
def violation (s : SensorSpec) (position : Nat) : Config.Violation :=
  match s.kind with
  | .gpu => .blankBus position
  | kind => .relativePath kind.name s.path

end SensorSpec

namespace Config

/-- The sensors that follow, the first of which is at a position. -/
def sensorDemands (position : Nat) (specs : List SensorSpec) : List Demand :=
  (specs.zipIdx position).map fun (s, i) => ⟨s.violation i, s.Valid⟩

/-- What a configuration must satisfy, in the order in which it is checked. -/
def demands (c : Config) : List Demand :=
  [⟨.relativePath c.fan.kind.name c.fan.path, Rooted c.fan.path⟩,
    ⟨.watchdog, Timely c.watchdogSecs⟩,
    ⟨.depulse, Short c.depulseSecs⟩,
    ⟨.pollInterval, Timely c.pollIntervalSecs⟩,
    ⟨.noSensors, c.sensors ≠ []⟩] ++
  sensorDemands 1 c.sensors

/-- The configuration makes sense. -/
structure Valid (c : Config) : Prop where
  fan : Rooted c.fan.path
  watchdog : Timely c.watchdogSecs
  depulse : Short c.depulseSecs
  pollInterval : Timely c.pollIntervalSecs
  nonempty : c.sensors ≠ []
  sensors : ∀ s ∈ c.sensors, s.Valid

/-! ## What is checked -/

theorem isAbsolute_iff {path : String} : isAbsolute path = true ↔ Rooted path := by
  unfold isAbsolute Rooted
  cases path.toList <;> simp

theorem inSeconds_iff {n : UInt64} : inSeconds maxWatchdogSecs n = true ↔ Timely n := by
  rw [inSeconds, Bool.and_eq_true, decide_eq_true_iff, decide_eq_true_iff]
  exact Iff.rfl

theorem inRange_iff_short {x : Binary64} : inRange maxDepulseSecs x = true ↔ Short x := by
  rw [inRange_iff]
  simp only [maxDepulseSecs, Nat.cast_ofNat]
  exact Iff.rfl

theorem reports_checkPath (what path : String) :
    Reports [⟨.relativePath what path, Rooted path⟩] (checkPath what path) :=
  .decides isAbsolute_iff

theorem reports_checkSensor (position : Nat) (s : SensorSpec) :
    Reports [⟨s.violation position, s.Valid⟩] (checkSensor position s) := by
  obtain ⟨kind, path, correction?⟩ := s
  cases kind with
  | gpu =>
    change Reports [⟨.blankBus position, ∃ c ∈ path.toList, Text.isBlank c = false⟩]
      (if Text.trim path.toList = [] then .error (.blankBus position) else .ok ())
    simp only [Text.trim_eq_nil_iff]
    split
    · rename_i hblank
      exact .unmet fun ⟨c, hc, hnot⟩ => Bool.false_ne_true (hnot.symm.trans (hblank c hc))
    · rename_i hblank
      exact .met (by simpa using hblank) .nil
  | hwmon => exact reports_checkPath _ path
  | thermal => exact reports_checkPath _ path
  | disk => exact reports_checkPath _ path

theorem reports_checkSensors (position : Nat) (specs : List SensorSpec) :
    Reports (sensorDemands position specs) (checkSensors position specs) := by
  induction specs generalizing position with
  | nil => exact .nil
  | cons s rest ih => exact (reports_checkSensor position s).cons (ih (position + 1))

/-- Each demand is checked in its turn. -/
theorem reports_check (c : Config) : Reports c.demands c.check := by
  refine Reports.cons (reports_checkPath _ _) ?_
  refine Reports.guard (d := ⟨.watchdog, _⟩) (by simpa using inSeconds_iff) ?_
  refine Reports.guard (d := ⟨.depulse, _⟩) (by simpa using inRange_iff_short) ?_
  refine Reports.guard (d := ⟨.pollInterval, _⟩) ?_ ?_
  · rw [maxPollIntervalSecs]
    simpa using inSeconds_iff
  exact Reports.guard (d := ⟨.noSensors, _⟩) Iff.rfl (reports_checkSensors 1 c.sensors)

theorem forall_mem_sensorDemands {position : Nat} {specs : List SensorSpec} :
    (∀ d ∈ sensorDemands position specs, d.Met) ↔ ∀ s ∈ specs, s.Valid := by
  induction specs generalizing position with
  | nil => exact ⟨fun _ => nofun, fun _ => nofun⟩
  | cons s rest ih =>
    change (∀ d ∈ Demand.mk _ _ :: sensorDemands (position + 1) rest, d.Met) ↔ _
    rw [List.forall_mem_cons, List.forall_mem_cons, ih]

theorem forall_mem_demands {c : Config} : (∀ d ∈ c.demands, d.Met) ↔ c.Valid := by
  unfold demands
  rw [List.forall_mem_append, forall_mem_sensorDemands]
  simp only [List.forall_mem_cons]
  constructor
  · rintro ⟨⟨hfan, hwatchdog, hdepulse, hpoll, hnonempty, -⟩, hsensors⟩
    exact ⟨hfan, hwatchdog, hdepulse, hpoll, hnonempty, hsensors⟩
  · rintro ⟨hfan, hwatchdog, hdepulse, hpoll, hnonempty, hsensors⟩
    exact ⟨⟨hfan, hwatchdog, hdepulse, hpoll, hnonempty, nofun⟩, hsensors⟩

theorem check_eq_ok {c : Config} : c.check = .ok () ↔ c.Valid := by
  rw [(reports_check c).ok_iff, forall_mem_demands]

theorem check_eq_error {c : Config} {v : Violation} :
    c.check = .error v ↔ FirstUnmet c.demands v := (reports_check c).error_iff

/-! ## What a valid configuration gives a fan -/

theorem Valid.depulse_spec {c : Config} (h : c.Valid) :
    Duration.ofBinary64? c.depulseSecs = some c.depulse ∧ c.depulse.nanos ≤ 10 * 1000000000 := by
  obtain ⟨d, hd, hle⟩ := h.depulse.ofBinary64?
  have hdepulse : c.depulse = d := by rw [Config.depulse, hd]; rfl
  rw [hdepulse]
  exact ⟨hd, hle⟩

/-- The settings of the fan are those of the configuration, and within their limits. -/
structure Settled (c : Config) (fan : ThinkpadFan) : Prop where
  watchdog : fan.watchdog = .ofSeconds c.watchdogSecs.toNat ∧ Timely c.watchdogSecs
  pollInterval : fan.pollInterval = .ofSeconds c.pollIntervalSecs.toNat ∧ Timely c.pollIntervalSecs
  depulse : fan.depulse = c.depulse ∧ fan.depulse.nanos ≤ 10 * 1000000000

theorem Valid.settled {c : Config} (h : c.Valid) {fan : ThinkpadFan}
    (hfan : c.Describes (.thinkpad fan)) : c.Settled fan := by
  obtain ⟨-, -, -, hwatchdog, hdepulse, hpoll, -⟩ := hfan
  have hshort : fan.depulse.nanos ≤ 10 * 1000000000 := hdepulse ▸ h.depulse_spec.2
  exact ⟨⟨hwatchdog, h.watchdog⟩, ⟨hpoll, h.pollInterval⟩, hdepulse, hshort⟩

/-! ## Loading and building -/

/-- What building the fan of a ThinkPad comes to: it is there, with the settings of the
    configuration, just if its control file can be read and takes levels. -/
def BuildsSettled (c : Config) (m : Machine) : Prop :=
  match (ControlFile.read c.fan.path).value m with
  | .ok status =>
    if ThinkpadStatus.takesLevels status then
      ∃ fan, c.buildFan.run.value m = .ok (.thinkpad fan) ∧ c.Settled fan
    else c.buildFan.run.value m = .error (ThinkpadFan.takesNoLevels c.fan.path)
  | .error e => c.buildFan.run.value m = .error (ThinkpadFan.unreadable c.fan.path e)

theorem value_buildFan {c : Config} (hkind : c.fan.kind = .thinkpad) (m : Machine) :
    c.buildFan.run.value m = ((ThinkpadFan.find c.fan.path).run.value m).map fun fan =>
      .thinkpad { fan with
        watchdog := c.watchdog, depulse := c.depulse, pollInterval := c.pollInterval } := by
  unfold buildFan
  rw [hkind]
  dsimp only
  rw [← map_eq_pure_bind]
  exact (Program.wp_run_map (Q := fun r _ _ => r = _) _ _).2 rfl

theorem Valid.buildsSettled {c : Config} (h : c.Valid) (hkind : c.fan.kind = .thinkpad)
    (m : Machine) : c.BuildsSettled m := by
  have hbuilt := value_buildFan hkind m
  rw [ThinkpadFan.value_find] at hbuilt
  unfold BuildsSettled
  cases hread : (ControlFile.read c.fan.path).value m with
  | error e =>
    rw [hread] at hbuilt
    exact hbuilt
  | ok status =>
    rw [hread] at hbuilt
    dsimp only at hbuilt ⊢
    split
    · rename_i htakes
      rw [if_pos htakes] at hbuilt
      exact ⟨_, hbuilt, h.settled (c.buildFan_ok m _ hbuilt)⟩
    · rename_i hnone
      rwa [if_neg hnone] at hbuilt

/-- Exactly the valid configurations are accepted, the first demand that is not met is what is
    reported of any other, and a configuration that is accepted gives a fan its settings. Such
    a fan is built whenever there is one. -/
theorem accepts_valid (c : Config) :
    (c.check = .ok () ↔ c.Valid) ∧
    (∀ v, c.check = .error v ↔ FirstUnmet c.demands v) ∧
    (∀ m path text, (ControlFile.read path).value m = .ok text → ofDocument text = .ok c →
      (c.Valid → (load path).run.value m = .ok c) ∧
      ∀ v, FirstUnmet c.demands v →
        (load path).run.value m = .error v.failure ∧ v.failure.kind = .config) ∧
    (c.check = .ok () →
      Duration.ofBinary64? c.depulseSecs = some c.depulse ∧
      (∀ m fan, c.buildFan.run.value m = .ok (.thinkpad fan) → c.Settled fan) ∧
      (c.fan.kind = .thinkpad → ∀ m, c.BuildsSettled m)) := by
  refine ⟨check_eq_ok, fun v => check_eq_error, ?_, ?_⟩
  · intro m path text hread hdocument
    rw [value_load hread]
    refine ⟨fun hvalid => ofText_eq_ok.2 ⟨hdocument, check_eq_ok.2 hvalid⟩, fun v hunmet => ?_⟩
    have hcheck := check_eq_error.2 hunmet
    refine ⟨?_, rfl⟩
    rw [ofText_eq, hdocument]
    dsimp only
    rw [hcheck]
  · intro hcheck
    have hvalid := check_eq_ok.1 hcheck
    refine ⟨hvalid.depulse_spec.1, fun m fan hfan => ?_, hvalid.buildsSettled⟩
    exact hvalid.settled (c.buildFan_ok m _ hfan)

/-- A configuration with settings for the fan of a ThinkPad. -/
def settling : Config where
  fan := ⟨.thinkpad, "/proc/acpi/ibm/fan"⟩
  watchdogSecs := 60
  depulseSecs := ⟨4602678819172646912⟩
  pollIntervalSecs := 10
  sensors := [⟨.hwmon, "/sys/class/hwmon/hwmon0/temp1_input", none⟩]

/-- It is accepted, and the fan that it builds runs free for half a second. -/
theorem settling_builds :
    let m : Machine := { files := ⟨[("/proc/acpi/ibm/fan", ThinkpadStatus.bare.toUTF8)]⟩ }
    settling.check = .ok () ∧ ∃ fan, settling.buildFan.run.value m = .ok (.thinkpad fan) ∧
      settling.Settled fan ∧ fan.depulse.nanos = 500000000 := by
  intro m
  have hcheck : settling.check = .ok () := by decide +kernel
  obtain ⟨-, -, -, haccepted⟩ := accepts_valid settling
  obtain ⟨-, hsettled, hbuilds⟩ := haccepted hcheck
  have hread : (ControlFile.read settling.fan.path).value m = .ok ThinkpadStatus.bare := by
    decide +kernel
  have hbuilt := hbuilds rfl m
  unfold BuildsSettled at hbuilt
  rw [hread] at hbuilt
  obtain ⟨fan, hfan, hsettled⟩ := hbuilt
  refine ⟨hcheck, fan, hfan, hsettled, ?_⟩
  rw [hsettled.depulse.1]
  decide +kernel

end Config

end Cooling
