-- SUMMARY: A read of a disk: which calls it makes, in which order, and what comes of it.
import Cooling.Proofs.Sensors

/-!
# Reads of disks

A disk that is to be left alone while it sleeps is asked first whether it does. It is measured
only if it may be: its data are read, and then, if they could be, asked for the temperature.
Each call is made once at most, and leaves the disks as they are.
-/

namespace Cooling

open Program

/-! ## Calls -/

namespace SmartDisk

theorem sleeping_spec (disk : SmartDisk) (m : Machine) :
    disk.sleeping.run.wp (fun r m' es => m'.disks = m.disks ∧
      es = [m.entry (.diskAwake disk.path)] ∧ r =
        if (m.diskAwake disk.path).code < 0 then .error
          (callFailed "sk_disk_check_sleep_mode" disk.path (m.diskAwake disk.path).errno)
        else .ok (!(m.diskAwake disk.path).value)) m := by
  rw [sleeping, wp_run_bind, wp_run_lift, wp_request, Machine.serve_fst, Machine.answer]
  refine (wp_run_guard _ _).2 ?_
  split <;> exact ⟨rfl, rfl, rfl⟩

theorem refresh_spec (disk : SmartDisk) (m : Machine) :
    disk.refresh.run.wp (fun r m' es => m'.disks = m.disks ∧
      es = [m.entry (.diskRead disk.path)] ∧ r =
        if (m.diskRead disk.path).code < 0 then .error
          (callFailed "sk_disk_smart_read_data" disk.path (m.diskRead disk.path).errno)
        else .ok ()) m := by
  rw [refresh, wp_run_bind, wp_run_lift, wp_request, Machine.serve_fst, Machine.answer]
  dsimp only
  split <;> exact ⟨rfl, rfl, rfl⟩

theorem mkelvin_spec (disk : SmartDisk) (m : Machine) :
    disk.mkelvin.run.wp (fun r m' es => m'.disks = m.disks ∧
      es = [m.entry (.diskTemperature disk.path)] ∧ r =
        if (m.diskTemperature disk.path).code < 0 then .error
          (callFailed "sk_disk_smart_get_temperature" disk.path
            (m.diskTemperature disk.path).errno)
        else .ok (m.diskTemperature disk.path).value) m := by
  rw [mkelvin, wp_run_bind, wp_run_lift, wp_request, Machine.serve_fst, Machine.answer]
  refine (wp_run_guard _ _).2 ?_
  split <;> exact ⟨rfl, rfl, rfl⟩

end SmartDisk

namespace Machine

variable {m m' : Machine}

theorem diskRead_congr (h : m'.disks = m.disks) (path : String) :
    m'.diskRead path = m.diskRead path := by
  rw [diskRead, disk, h, diskRead, disk]

theorem diskTemperature_congr (h : m'.disks = m.disks) (path : String) :
    m'.diskTemperature path = m.diskTemperature path := by
  rw [diskTemperature, disk, h, diskTemperature, disk]

end Machine

namespace DiskSensor

/-- What the disk tells is the temperature, in whole degrees and with the correction. -/
structure Measures (s : DiskSensor) (m : Machine) (t : Int) : Prop where
  data : 0 ≤ (m.diskRead s.disk.path).code
  temperature : 0 ≤ (m.diskTemperature s.disk.path).code
  eq_add : ∃ c, wholeCelsius? (m.diskTemperature s.disk.path).value = some c ∧
    t = c + s.base.correction 0
  fits : -2147483648 ≤ t ∧ t ≤ 2147483647

/-- The calls with which a disk is measured. Its data are not asked for a temperature if they
    could not be read. -/
def measuring (s : DiskSensor) (m : Machine) : List Request :=
  .diskRead s.disk.path ::
    if 0 ≤ (m.diskRead s.disk.path).code then [.diskTemperature s.disk.path] else []

/-- The temperature for millikelvin, in whole degrees and with the correction. -/
def converted (s : DiskSensor) (mkelvin : Nat) : Except Failure Int :=
  match wholeCelsius? mkelvin with
  | none => .error (outOfRange s.base.path mkelvin)
  | some c => s.base.corrected 0 c

theorem measure_eq (s : DiskSensor) : s.measure = (do
    s.disk.refresh
    let mkelvin ← s.disk.mkelvin
    ExceptT.mk (pure (s.converted mkelvin))) := by
  refine congrArg (s.disk.refresh >>= ·) (funext fun _ => ?_)
  refine congrArg (s.disk.mkelvin >>= ·) (funext fun mkelvin => ?_)
  unfold converted
  cases wholeCelsius? mkelvin <;> rfl

theorem converted_eq_ok_iff {s : DiskSensor} {mkelvin : Nat} {t : Int} :
    s.converted mkelvin = .ok t ↔
      (∃ c, wholeCelsius? mkelvin = some c ∧ t = c + s.base.correction 0) ∧
        -2147483648 ≤ t ∧ t ≤ 2147483647 := by
  unfold converted
  cases wholeCelsius? mkelvin with
  | none => exact iff_of_false nofun fun ⟨⟨_, hc, _⟩, _⟩ => nomatch hc
  | some c =>
    refine SensorBase.corrected_eq_ok_iff.trans (and_congr_left' ?_)
    exact ⟨fun h => ⟨c, rfl, h⟩, fun ⟨_, hc, h⟩ => Option.some.inj hc ▸ h⟩

theorem kind_of_converted {s : DiskSensor} {mkelvin : Nat} {f : Failure}
    (h : s.converted mkelvin = .error f) : f.kind = .system := by
  unfold converted at h
  split at h
  · cases h
    rfl
  · exact SensorBase.kind_of_corrected h

theorem measure_spec (s : DiskSensor) (m : Machine) :
    s.measure.run.wp (fun r _ es => es.map Entry.request = s.measuring m ∧
      (∀ t, r = .ok t ↔ s.Measures m t) ∧ ∀ f, r = .error f → f.kind = .system) m := by
  rw [measure_eq, wp_run_bind]
  refine wp_mono (s.disk.refresh_spec m) ?_
  rintro _ m₁ es ⟨hdisks, rfl, rfl⟩
  rw [measuring]
  by_cases hdata : (m.diskRead s.disk.path).code < 0
  · rw [if_pos hdata, if_neg (Int.not_le.2 hdata)]
    refine ⟨rfl, fun t => iff_of_false nofun fun h => Int.not_lt.2 h.data hdata, ?_⟩
    rintro _ ⟨⟩
    rfl
  rw [if_neg hdata, if_pos (Int.not_lt.1 hdata)]
  dsimp only
  rw [wp_run_bind]
  refine wp_mono (s.disk.mkelvin_spec m₁) ?_
  rintro _ m₂ fs ⟨-, rfl, rfl⟩
  rw [Machine.diskTemperature_congr hdisks]
  by_cases htemperature : (m.diskTemperature s.disk.path).code < 0
  · rw [if_pos htemperature]
    refine ⟨rfl, fun t => iff_of_false nofun fun h => Int.not_lt.2 h.temperature htemperature, ?_⟩
    rintro _ ⟨⟩
    rfl
  rw [if_neg htemperature]
  refine ⟨rfl, fun t => converted_eq_ok_iff.trans ?_, fun f => kind_of_converted⟩
  exact ⟨fun ⟨hadd, hfits⟩ => ⟨Int.not_lt.1 hdata, Int.not_lt.1 htemperature, hadd, hfits⟩,
    fun h => ⟨h.eq_add, h.fits⟩⟩

/-- The disk may be measured: it need not be left alone, or has said that it is awake. -/
def MayMeasure (s : DiskSensor) (m : Machine) : Prop :=
  s.doNotDisturb = true →
    0 ≤ (m.diskAwake s.disk.path).code ∧ (m.diskAwake s.disk.path).value = true

/-- The check that comes first if the disk is to be left alone while it sleeps. -/
def checks (s : DiskSensor) (m : Machine) : List Entry :=
  if s.doNotDisturb then [m.entry (.diskAwake s.disk.path)] else []

section

variable {s : DiskSensor} {m m' : Machine}

theorem measuring_congr (h : m'.disks = m.disks) : s.measuring m' = s.measuring m := by
  rw [measuring, Machine.diskRead_congr h, measuring]

theorem Measures.congr (h : m'.disks = m.disks) {t : Int} : s.Measures m' t → s.Measures m t := by
  rintro ⟨hdata, htemperature, hadd, hfits⟩
  rw [Machine.diskRead_congr h] at hdata
  rw [Machine.diskTemperature_congr h] at htemperature hadd
  exact ⟨hdata, htemperature, hadd, hfits⟩

/-- How a read goes once it is known that the disk may be measured. -/
theorem measure_after (h : m'.disks = m.disks) :
    s.measure.run.wp (fun r _ es => es.map Entry.request = s.measuring m ∧
      (∀ t, r = .ok t ↔ s.Measures m t) ∧ ∀ f, r = .error f → f.kind = .system) m' := by
  refine wp_mono (s.measure_spec m') ?_
  rintro r m'' es ⟨hrequests, hok, herror⟩
  refine ⟨hrequests.trans (measuring_congr h), fun t => (hok t).trans ?_, herror⟩
  exact ⟨Measures.congr h, Measures.congr h.symm⟩

/-- How the check ends, or a read that goes no further: with a value for a disk that sleeps,
    or with a failure of the system if nobody knows whether it does. -/
inductive Rests (s : DiskSensor) (m : Machine) (asleep : α) : Except Failure α → Prop
  | sleeps (hcode : 0 ≤ (m.diskAwake s.disk.path).code) : Rests s m asleep (.ok asleep)
  | unknown {f : Failure} (hcode : (m.diskAwake s.disk.path).code < 0) (hkind : f.kind = .system) :
      Rests s m asleep (.error f)

theorem resting_spec (s : DiskSensor) (m : Machine) :
    s.resting.run.wp (fun r m' es => m'.disks = m.disks ∧ es = s.checks m ∧
      (s.MayMeasure m → r = .ok false) ∧ (¬s.MayMeasure m → s.Rests m true r)) m := by
  rw [resting]
  cases hdnd : s.doNotDisturb with
  | false =>
    have hmay : s.MayMeasure m := fun h => absurd (hdnd.symm.trans h) Bool.false_ne_true
    have hchecks : s.checks m = [] := by rw [checks, hdnd]; rfl
    exact ⟨rfl, hchecks.symm, fun _ => rfl, fun h => absurd hmay h⟩
  | true =>
    have hchecks : s.checks m = [m.entry (.diskAwake s.disk.path)] := by rw [checks, hdnd]; rfl
    rw [if_pos rfl, hchecks]
    refine wp_mono (s.disk.sleeping_spec m) ?_
    rintro _ m' _ ⟨hdisks, rfl, rfl⟩
    refine ⟨hdisks, rfl, fun h => ?_, fun h => ?_⟩
    · obtain ⟨hcode, hawake⟩ := h hdnd
      rw [if_neg (Int.not_lt.2 hcode), hawake]
      rfl
    · by_cases hcode : (m.diskAwake s.disk.path).code < 0
      · rw [if_pos hcode]
        exact .unknown hcode rfl
      · have hasleep : (m.diskAwake s.disk.path).value = false :=
          Bool.eq_false_iff.2 fun hawake => h fun _ => ⟨Int.not_lt.1 hcode, hawake⟩
        rw [if_neg hcode, hasleep]
        exact .sleeps (Int.not_lt.1 hcode)

/-- A read is its check, and then a measurement, if the disk may be measured. -/
theorem read_spec (s : DiskSensor) (m : Machine) :
    s.read.wp (fun r _ es => ∃ x fs, r = .ofExcept x ∧ es = s.checks m ++ fs ∧
      (s.MayMeasure m → fs.map Entry.request = s.measuring m ∧
        (∀ t, x = .ok t ↔ s.Measures m t) ∧ ∀ f, x = .error f → f.kind = .system) ∧
      (¬s.MayMeasure m → fs = [] ∧ s.Rests m 0 x)) m := by
  rw [read, wp_map, wp_run_bind]
  refine wp_mono (s.resting_spec m) ?_
  rintro r m' _ ⟨hdisks, rfl, hmeasure, hrest⟩
  by_cases hmay : s.MayMeasure m
  · rw [hmeasure hmay]
    change s.measure.run.wp _ m'
    refine wp_mono (measure_after hdisks) ?_
    intro x m'' es hmeasured
    exact ⟨x, es, rfl, rfl, fun _ => hmeasured, fun h => absurd hmay h⟩
  · have hnone : s.checks m = s.checks m ++ [] := (List.append_nil _).symm
    cases hrest hmay with
    | sleeps hcode =>
      exact ⟨.ok 0, [], rfl, rfl, fun h => absurd h hmay, fun _ => ⟨rfl, .sleeps hcode⟩⟩
    | @unknown f hcode hkind =>
      exact ⟨.error f, [], rfl, hnone, fun h => absurd h hmay, fun _ => ⟨rfl, .unknown hcode hkind⟩⟩

end

/-- A disk that is awake and tells the freezing point of water can be read. -/
theorem readable {s : DiskSensor} (h : ∀ c ∈ s.base.corrections, Text.fits32 c = true) :
    ∃ m t, s.read.value m = Reading.ok [t] := by
  let m : Machine := { disks := ⟨[(s.disk.path, { mkelvin := 273150 })]⟩ }
  have hdisk : m.disk s.disk.path = { mkelvin := 273150 } := by
    simp [m, Machine.disk, Registry.get?]
  have hmay : s.MayMeasure m := fun _ => by simp [Machine.diskAwake, hdisk]
  have hmeasures : s.Measures m (s.base.correction 0) := by
    refine ⟨by simp [Machine.diskRead, hdisk], by simp [Machine.diskTemperature, hdisk], ?_, ?_⟩
    · refine ⟨0, ?_, (Int.zero_add _).symm⟩
      have hvalue : (m.diskTemperature s.disk.path).value = 273150 := by
        simp [Machine.diskTemperature, hdisk]
      rw [hvalue]
      decide +kernel
    · exact Text.fits32_iff.1 (SensorBase.fits_correction h 0)
  obtain ⟨x, fs, hread, -, hmeasured, -⟩ := wp_iff.1 (s.read_spec m)
  refine ⟨m, s.base.correction 0, ?_⟩
  rw [hread, ((hmeasured hmay).2.1 _).2 hmeasures]
  rfl

end DiskSensor

end Cooling
