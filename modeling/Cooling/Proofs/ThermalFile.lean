-- SUMMARY: The temperatures of a thermal file: how far a read gets with any contents, and that it agrees with what was counted at the start.
import Cooling.Proofs.Fields
import Cooling.Proofs.Readings

/-!
# Thermal files

A thermal sensor is found by the text of its whole file, and read by the bytes after its
header. It counts the numbers that its fields begin with, and reads as many: up to the first
field that is missing, that is no number, or that is out of range with its correction. What
comes before that field is appended, and what comes after the last field to read does not
matter.

Counting and reading agree: a file that begins with as many numbers as were counted can be
read, the file that they were counted in first of all.
-/

namespace Cooling

open Program Text

/-! ## Numbers of 32 bits -/

/-- The fields begin with numerals for the numbers. -/
def Begins (fields : List (List Char)) (ts : List Int) : Prop :=
  ∃ numerals others, fields = numerals ++ others ∧ List.Forall₂ Spells32 numerals ts

/-- The fields begin with numerals for the numbers, and no numeral follows them. -/
def BeginsJust (fields : List (List Char)) (ts : List Int) : Prop :=
  ∃ numerals others, fields = numerals ++ others ∧ List.Forall₂ Spells32 numerals ts ∧
    ∀ field ∈ others.head?, ∀ t, ¬ Spells32 field t

theorem BeginsJust.begins {fields : List (List Char)} {ts : List Int} (h : BeginsJust fields ts) :
    Begins fields ts := by
  obtain ⟨numerals, others, hfields, hspelt, -⟩ := h
  exact ⟨numerals, others, hfields, hspelt⟩

theorem exists_beginsJust (fields : List (List Char)) : ∃ ts, BeginsJust fields ts := by
  induction fields with
  | nil => exact ⟨[], [], [], rfl, .nil, nofun⟩
  | cons field fields ih =>
    by_cases hfield : ∃ t, Spells32 field t
    · obtain ⟨t, ht⟩ := hfield
      obtain ⟨ts, numerals, others, rfl, hspelt, hend⟩ := ih
      exact ⟨t :: ts, field :: numerals, others, rfl, .cons ht hspelt, hend⟩
    · refine ⟨[], [], field :: fields, rfl, .nil, ?_⟩
      rintro _ ⟨⟩ t ht
      exact hfield ⟨t, ht⟩

/-- What is counted are the numbers that the fields begin with. -/
theorem BeginsJust.countFields_eq {fields : List (List Char)} {ts : List Int}
    (h : BeginsJust fields ts) : ThermalSensor.countFields fields = ts.length := by
  obtain ⟨numerals, others, rfl, hspelt, hend⟩ := h
  induction hspelt with
  | nil =>
    cases others with
    | nil => rfl
    | cons field others =>
      have hnone : signed32? field = none := signed32?_eq_none_iff.2 (hend field rfl)
      simp [ThermalSensor.countFields, hnone]
  | @cons field t numerals ts ht hspelt ih =>
    have hsome : signed32? field = some t := signed32?_eq_some_iff.2 ht
    rw [List.length_cons, ← ih]
    simp [ThermalSensor.countFields, hsome]

/-! ## Reading fields -/

namespace SensorBase

variable {base : SensorBase}

/-- The field spells a number that stays within 32 bits with the correction for an index. -/
structure Corrects (base : SensorBase) (i : Nat) (field? : Option (List Char)) (sum : Int) :
    Prop where
  spells : ∃ field t, field? = some field ∧ Spells32 field t ∧ sum = t + base.correction i
  fits : -2147483648 ≤ sum ∧ sum ≤ 2147483647

/-- How far reading `n` fields gets, the first of which has the index `i`: up to the `j`th of
    them. These are the temperatures that are given, and how the read goes. -/
structure ReadsUpTo (base : SensorBase) (n i : Nat) (fields : List (List Char)) (j : Nat)
    (given : List Int) (outcome : Except Failure Unit) : Prop where
  le : j ≤ n
  length : given.length = j
  good : ∀ k < j, ∃ sum, base.Corrects (i + k) fields[k]? sum ∧ given[k]? = some sum
  least : j < n → ∀ sum, ¬ base.Corrects (i + j) fields[j]? sum
  ok_iff : outcome = .ok () ↔ j = n
  outOfRange : j < n → ∀ field t, fields[j]? = some field → Spells32 field t →
    ∃ f, outcome = .error f ∧ f = base.outOfRange (i + j) t ∧ f.kind = .system
  tooFew : j < n → (∀ field t, fields[j]? = some field → ¬ Spells32 field t) →
    ∃ f, outcome = .error f ∧ f = ThermalSensor.tooFew base (i + j) ∧ f.kind = .io ∧
      f.code? = none

variable {n i j : Nat} {field : List Char} {fields : List (List Char)} {given : List Int}
  {outcome : Except Failure Unit}

theorem Corrects.unique {field? : Option (List Char)} {sum sum' : Int}
    (h : base.Corrects i field? sum) (h' : base.Corrects i field? sum') : sum = sum' := by
  obtain ⟨field, t, rfl, ht, rfl⟩ := h.spells
  obtain ⟨field', u, hsame, hu, rfl⟩ := h'.spells
  obtain rfl := Option.some.inj hsame
  rw [ht.unique hu]

/-- The read ends with its first field. -/
theorem ReadsUpTo.stop {f : Failure} (hleast : ∀ sum, ¬ base.Corrects i fields[0]? sum)
    (hrange : ∀ field t, fields[0]? = some field → Spells32 field t → f = base.outOfRange i t)
    (hfew : (∀ field t, fields[0]? = some field → ¬ Spells32 field t) →
      f = ThermalSensor.tooFew base i) :
    base.ReadsUpTo (n + 1) i fields 0 [] (.error f) where
  le := Nat.zero_le _
  length := rfl
  good := nofun
  least _ := hleast
  ok_iff := iff_of_false nofun nofun
  outOfRange _ field t hfield ht := ⟨f, rfl, hrange field t hfield ht, by
    rw [hrange field t hfield ht]
    rfl⟩
  tooFew _ hnone := ⟨f, rfl, hfew hnone, by
    rw [hfew hnone]
    exact ⟨rfl, rfl⟩⟩

/-- The read goes on after its first field. -/
theorem ReadsUpTo.cons {sum : Int} (hsum : base.Corrects i (some field) sum)
    (h : base.ReadsUpTo n (i + 1) fields j given outcome) :
    base.ReadsUpTo (n + 1) i (field :: fields) (j + 1) (sum :: given) outcome where
  le := Nat.succ_le_succ h.le
  length := congrArg (· + 1) h.length
  good k hk := by
    cases k with
    | zero => exact ⟨sum, hsum, rfl⟩
    | succ k =>
      obtain ⟨sum', hsum', hgiven⟩ := h.good k (Nat.lt_of_succ_lt_succ hk)
      rw [Nat.succ_add_eq_add_succ] at hsum'
      exact ⟨sum', hsum', hgiven⟩
  least hj := by
    have hrest := h.least (Nat.lt_of_succ_lt_succ hj)
    rwa [Nat.succ_add_eq_add_succ] at hrest
  ok_iff := h.ok_iff.trans (Nat.add_right_cancel_iff).symm
  outOfRange hj := by
    have hrest := h.outOfRange (Nat.lt_of_succ_lt_succ hj)
    rwa [Nat.succ_add_eq_add_succ] at hrest
  tooFew hj := by
    have hrest := h.tooFew (Nat.lt_of_succ_lt_succ hj)
    rwa [Nat.succ_add_eq_add_succ] at hrest

/-- Temperatures with their corrections. -/
def correctAll (base : SensorBase) (ts : List Int) : List Int :=
  ts.mapIdx fun k t => t + base.correction k

/-- The corrections keep all temperatures within 32 bits. -/
def Fits (base : SensorBase) (ts : List Int) : Prop :=
  ∀ k t, ts[k]? = some t →
    -2147483648 ≤ t + base.correction k ∧ t + base.correction k ≤ 2147483647

end SensorBase

@[simp] theorem Reading.outcome_cons (t : Int) (r : Reading) :
    (Reading.cons t r).outcome = r.outcome := rfl

namespace ThermalSensor

open SensorBase

variable {base : SensorBase}

theorem readFields_readsUpTo (base : SensorBase) (n i : Nat) (fields : List (List Char)) :
    ∃ j, base.ReadsUpTo n i fields j (readFields base n i fields).temperatures
      (readFields base n i fields).outcome := by
  -- The index of the field goes up as the number of fields to read goes down.
  induction n generalizing i fields with
  | zero =>
    exact ⟨0, Nat.le_refl 0, rfl, nofun, nofun, iff_of_true rfl rfl, nofun, nofun⟩
  | succ n ih =>
    cases fields with
    | nil =>
      refine ⟨0, .stop ?_ nofun fun _ => rfl⟩
      rintro sum ⟨⟨field, t, ⟨⟩, -⟩, -⟩
    | cons field fields =>
      cases hfield : signed32? field with
      | none =>
        have hnone := signed32?_eq_none_iff.1 hfield
        simp only [readFields, hfield]
        refine ⟨0, .stop ?_ ?_ fun _ => rfl⟩
        · rintro sum ⟨⟨_, t, ⟨⟩, ht, -⟩, -⟩
          exact hnone t ht
        · rintro _ t ⟨⟩ ht
          exact absurd ht (hnone t)
      | some t =>
        have ht := signed32?_eq_some_iff.1 hfield
        by_cases hfits : fits32 (t + base.correction i) = true
        · have hcorrected : base.corrected i t = .ok (t + base.correction i) := if_pos hfits
          obtain ⟨j, h⟩ := ih (i + 1) fields
          simp only [readFields, hfield, hcorrected, Reading.outcome_cons,
            Reading.temperatures_cons]
          exact ⟨j + 1, h.cons ⟨⟨field, t, rfl, ht, rfl⟩, fits32_iff.1 hfits⟩⟩
        · have hcorrected : base.corrected i t = .error (base.outOfRange i t) := if_neg hfits
          simp only [readFields, hfield, hcorrected]
          refine ⟨0, .stop ?_ ?_ fun hnone => absurd ht (hnone field t rfl)⟩
          · rintro sum ⟨⟨_, u, ⟨⟩, hu, rfl⟩, hrange⟩
            obtain rfl := ht.unique hu
            exact hfits (fits32_iff.2 hrange)
          · rintro _ u ⟨⟩ hu
            rw [ht.unique hu]

/-- Only as many fields as there are temperatures to read matter. -/
theorem readFields_take (base : SensorBase) (n i : Nat) (fields : List (List Char)) :
    readFields base n i (fields.take n) = readFields base n i fields := by
  induction n generalizing i fields with
  | zero => rfl
  | succ n ih =>
    cases fields with
    | nil => rfl
    | cons field fields => simp only [List.take_succ_cons, readFields, ih]

/-- Fields that begin with enough numbers, none of which its correction takes out of range,
    are read. -/
theorem readFields_forall₂ {numerals : List (List Char)} {ts : List Int}
    (hspelt : List.Forall₂ Spells32 numerals ts) (others : List (List Char)) (i : Nat)
    (hfits : ∀ k t, ts[k]? = some t → fits32 (t + base.correction (i + k)) = true) :
    readFields base ts.length i (numerals ++ others) =
      .ok (ts.mapIdx fun k t => t + base.correction (i + k)) := by
  induction hspelt generalizing i with
  | nil => rfl
  | @cons field t numerals ts ht hspelt ih =>
    have hfield : signed32? field = some t := signed32?_eq_some_iff.2 ht
    have hcorrected : base.corrected i t = .ok (t + base.correction i) := if_pos (hfits 0 t rfl)
    have hrest := ih (i + 1) fun k u hu => by
      rw [Nat.succ_add_eq_add_succ]
      exact hfits (k + 1) u hu
    simp only [List.cons_append, List.length_cons, readFields, hfield, hcorrected, hrest,
      List.mapIdx_cons, Nat.add_zero, Nat.succ_add_eq_add_succ]
    rfl

/-! ## Reading a file -/

variable {s : ThermalSensor} {m : Machine} {before : Temperatures} {fields : List (List Char)}

/-- The file of the sensor can be read, and its bytes from the 13th on are a text with the
    fields. A path with the null character names no file. -/
def Shows (s : ThermalSensor) (m : Machine) (fields : List (List Char)) : Prop :=
  '\x00' ∉ s.base.path.toList ∧
    ∃ (bytes : ByteArray) (rest : String), (m.readFile s.base.path).1 = .ok bytes ∧
    bytes.extract 13 bytes.size = rest.toUTF8 ∧ Fields rest.toList fields

theorem value_read (hpath : '\x00' ∉ s.base.path.toList) (m : Machine) :
    s.read.value m =
      match (m.readFile s.base.path).1.bind fun bytes =>
        ControlFile.decode (bytes.extract headerSize bytes.size) with
      | .ok rest => readFields s.base s.base.count 0 (words rest.toList)
      | .error e => .failed (unreadable s.base.path e) := by
  suffices h : s.read.wp (fun r _ _ => r = _) m from h
  unfold read
  rw [wp_bind]
  refine wp_mono (ControlFile.readFrom_value hpath headerSize m) ?_
  intro r m' es hr
  rw [← hr]
  cases r with
  | ok rest => rfl
  | error e => rfl

/-- What a read gives: the sensor as it is then, the temperatures, and how it went. -/
def reads (s : ThermalSensor) (before : Temperatures) (m : Machine) :
    Sensor × Temperatures × Except Failure Unit :=
  ((Sensor.thermal s).readOnto before).value m

theorem reads_eq (s : ThermalSensor) (before : Temperatures) (m : Machine) :
    s.reads before m =
      (.thermal s, before.append (s.read.value m).temperatures, (s.read.value m).outcome) :=
  Sensor.value_readOnto _ before m

/-- A file that shows fields is read by them. -/
theorem Shows.value_read (h : s.Shows m fields) :
    s.read.value m = readFields s.base s.base.count 0 fields := by
  obtain ⟨hpath, bytes, rest, hread, hrest, hfields⟩ := h
  have hdecode : ControlFile.decode (bytes.extract headerSize bytes.size) = .ok rest :=
    ControlFile.decode_eq_ok_iff.2 hrest
  rw [ThermalSensor.value_read hpath, hread, ← hfields.words_eq]
  simp only [Except.bind, hdecode]

/-- A file that shows no fields, not even an empty list of them, gives nothing. -/
theorem value_read_of_not_shows (h : ∀ fields, ¬ s.Shows m fields) :
    ∃ e, s.read.value m = .failed (unreadable s.base.path e) := by
  by_cases hpath : '\x00' ∈ s.base.path.toList
  · have hread : ControlFile.readFrom s.base.path headerSize = pure (.error .nulInPath) :=
      if_pos hpath
    unfold read
    rw [hread]
    exact ⟨_, rfl⟩
  · rw [value_read hpath]
    cases hread : (m.readFile s.base.path).1 with
    | error e => exact ⟨e, rfl⟩
    | ok bytes =>
      cases hdecode : ControlFile.decode (bytes.extract headerSize bytes.size) with
      | error e =>
        simp only [Except.bind, hdecode]
        exact ⟨e, rfl⟩
      | ok rest =>
        have hrest : bytes.extract 13 bytes.size = rest.toUTF8 :=
          ControlFile.decode_eq_ok_iff.1 hdecode
        exact absurd ⟨hpath, bytes, rest, hread, hrest, words_eq_iff.1 rfl⟩ (h _)

/-- A read appends what the fields of the file begin with, up to the first that is missing,
    that is no number, or that its correction takes out of range. The fields after those
    that are to be read do not matter, and nothing is appended if the file cannot be read. -/
theorem reads_while_good (s : ThermalSensor) (before : Temperatures) (m : Machine) :
    (∀ fields, s.Shows m fields → ∃ j given outcome,
      s.reads before m = (.thermal s, before.append given, outcome) ∧
        s.base.ReadsUpTo s.base.count 0 fields j given outcome) ∧
      (∀ m' fields fields', s.Shows m fields → s.Shows m' fields' →
        fields.take s.base.count = fields'.take s.base.count →
          s.reads before m = s.reads before m') ∧
      ((∀ fields, ¬ s.Shows m fields) →
        ∃ f, s.reads before m = (.thermal s, before, .error f) ∧ f.kind = .io) := by
  refine ⟨fun fields h => ?_, fun m' fields fields' h h' hsame => ?_, fun h => ?_⟩
  · obtain ⟨j, hreads⟩ := readFields_readsUpTo s.base s.base.count 0 fields
    refine ⟨j, _, _, ?_, hreads⟩
    rw [reads_eq, h.value_read]
  · rw [reads_eq, reads_eq, h.value_read, h'.value_read, ← readFields_take, hsame,
      readFields_take]
  · obtain ⟨e, hfails⟩ := value_read_of_not_shows h
    refine ⟨unreadable s.base.path e, ?_, rfl⟩
    rw [reads_eq, hfails]
    simp [Temperatures.append, Reading.outcome]

/-- Here the second temperature is out of range with its correction, so only the first one is
    appended. -/
theorem overheated_reads_while_good :
    let s : ThermalSensor := ⟨⟨"thermal", 3, [0, 2147483647, 0]⟩⟩
    let m : Machine := { files := ⟨[("thermal", "temperatures: 40 41 42".toUTF8)]⟩ }
    let fields := ["40".toList, "41".toList, "42".toList]
    s.reads ⟨[7]⟩ m = (.thermal s, ⟨[7, 40]⟩, .error (s.base.outOfRange 1 41)) ∧
      ∃ j given outcome, s.reads ⟨[7]⟩ m = (.thermal s, Temperatures.append ⟨[7]⟩ given, outcome) ∧
        s.base.ReadsUpTo 3 0 fields j given outcome := by
  intro s m fields
  have hfields : Fields " 40 41 42".toList fields := words_eq_iff.1 (by decide)
  have hshows : s.Shows m fields := ⟨by decide, _, " 40 41 42", rfl, by decide, hfields⟩
  exact ⟨by decide +kernel, (reads_while_good s ⟨[7]⟩ m).1 fields hshows⟩

/-! ## Finding a sensor -/

/-- A file with the header is counted by the fields after it, unless they begin with no
    number. -/
theorem countTemperatures_eq_ok_iff {path text : String} {n : Nat} :
    countTemperatures path text = .ok n ↔ ∃ rest,
      text.toList = header.toList ++ rest ∧ n = countFields (words rest) ∧ n ≠ 0 := by
  unfold countTemperatures
  cases hrest : afterStart? header.toList text.toList with
  | none =>
    refine iff_of_false nofun ?_
    rintro ⟨rest, htext, -⟩
    rw [afterStart?_eq_some_iff.2 htext] at hrest
    cases hrest
  | some rest =>
    have htext := afterStart?_eq_some_iff.1 hrest
    have hunique : ∀ rest', text.toList = header.toList ++ rest' → rest' = rest := fun rest' h =>
      List.append_cancel_left (h.symm.trans htext)
    dsimp only
    split
    · rename_i hnone
      refine iff_of_false nofun ?_
      rintro ⟨rest', h, rfl, hsome⟩
      rw [hunique rest' h] at hsome
      exact hsome hnone
    · rename_i hsome
      constructor
      · rintro ⟨⟩
        exact ⟨rest, htext, rfl, hsome⟩
      · rintro ⟨rest', h, rfl, -⟩
        rw [hunique rest' h]

/-- Without faults a file that is there is counted. -/
theorem find_faultless {path : String} (hpath : '\x00' ∉ path.toList) (hm : m.faults = [])
    {bytes : ByteArray} (hfile : m.files.get? path = some bytes) :
    (find path).run.wp (fun r _ _ => r =
      ((ControlFile.decode bytes).mapError (unreadable path)).bind fun contents =>
        (countTemperatures path contents).map fun count =>
          ⟨SensorBase.withCount { path } count⟩) m := by
  unfold find SensorBase.find
  rw [wp_run_bind, wp_run_bind, Attempt.wp_ofProgram]
  refine wp_mono (ControlFile.check_faultless hm hpath hfile) ?_
  rintro _ m₁ es ⟨rfl, hfaults, hfiles⟩
  rw [mapError_ok]
  dsimp only
  rw [wp_run_pure]
  dsimp only
  rw [wp_run_bind, Attempt.wp_ofProgram]
  refine wp_mono (ControlFile.read_value hpath m₁) ?_
  rintro _ m₂ fs ⟨rfl, -⟩
  have hread : (m₁.readFile path).1.bind ControlFile.decode = ControlFile.decode bytes := by
    rw [Machine.readFile_faultless hfaults, Machine.contents, hfiles, hfile]
    rfl
  rw [hread]
  cases ControlFile.decode bytes with
  | error e => rfl
  | ok contents =>
    rw [mapError_ok]
    dsimp only
    rw [wp_run_bind]
    cases hcount : countTemperatures path contents with
    | error f =>
      change Except.error f = (countTemperatures path contents).map _
      rw [hcount]
      rfl
    | ok count =>
      change Except.ok _ = (countTemperatures path contents).map _
      rw [hcount]
      rfl

/-- Without faults a sensor is found behind a file if and only if the file is a text that
    starts with the header and goes on with a number. It gives as many temperatures as there
    are numbers then. -/
theorem find_eq_ok_iff {path : String} (hpath : '\x00' ∉ path.toList) (hm : m.faults = [])
    {bytes : ByteArray} (hfile : m.files.get? path = some bytes) :
    (find path).run.value m = .ok s ↔ ∃ text rest fields ts, bytes = String.toUTF8 text ∧
      text.toList = header.toList ++ rest ∧ Fields rest fields ∧ BeginsJust fields ts ∧
      ts ≠ [] ∧ s = ⟨SensorBase.withCount { path } ts.length⟩ := by
  have hvalue : (find path).run.value m = _ := find_faultless hpath hm hfile
  rw [hvalue]
  constructor
  · intro h
    cases hdecode : ControlFile.decode bytes with
    | error e =>
      rw [hdecode] at h
      cases h
    | ok text =>
      rw [hdecode] at h
      change (countTemperatures path text).map _ = .ok s at h
      cases hcount : countTemperatures path text with
      | error f =>
        rw [hcount] at h
        cases h
      | ok count =>
        rw [hcount] at h
        cases h
        obtain ⟨rest, htext, rfl, hne⟩ := countTemperatures_eq_ok_iff.1 hcount
        obtain ⟨ts, hjust⟩ := exists_beginsJust (words rest)
        have hlength := hjust.countFields_eq
        rw [hlength] at hne ⊢
        exact ⟨text, rest, words rest, ts, ControlFile.decode_eq_ok_iff.1 hdecode, htext,
          words_eq_iff.1 rfl, hjust, List.length_pos_iff.1 (Nat.pos_of_ne_zero hne), rfl⟩
  · rintro ⟨text, rest, fields, ts, rfl, htext, hfields, hjust, hne, rfl⟩
    have hcount : countTemperatures path text = .ok ts.length := by
      refine countTemperatures_eq_ok_iff.2
        ⟨rest, htext, ?_, fun h => hne (List.length_eq_zero_iff.1 h)⟩
      rw [hfields.words_eq, hjust.countFields_eq]
    rw [ControlFile.decode_toUTF8]
    change (countTemperatures path text).map _ = _
    rw [hcount]
    rfl

/-! ## Counting and reading -/

theorem toUTF8_of_header {text : String} {rest : List Char}
    (h : text.toList = header.toList ++ rest) :
    text.toUTF8 = header.toUTF8 ++ (String.ofList rest).toUTF8 := by
  have htext : text = header ++ String.ofList rest := by
    rw [← String.toList_inj, String.toList_append, String.toList_ofList, h]
  rw [htext]
  exact String.toByteArray_append

/-- What follows the header in bytes is what a read decodes. -/
theorem extract_header (rest : String) :
    (header.toUTF8 ++ rest.toUTF8).extract 13 (header.toUTF8 ++ rest.toUTF8).size =
      rest.toUTF8 :=
  ByteArray.extract_append_eq_right (by decide) ByteArray.size_append

/-- Contents that begin with as many numbers as the sensor gives are read in full. -/
theorem reads_of_begins (hpath : '\x00' ∉ s.base.path.toList) {rest : String} {us : List Int}
    (hread : (m.readFile s.base.path).1 = .ok (header.toUTF8 ++ rest.toUTF8))
    (hfields : Fields rest.toList fields) (hbegins : Begins fields us)
    (hcount : us.length = s.base.count) (hfits : s.base.Fits us) (before : Temperatures) :
    s.reads before m = (.thermal s, before.append (s.base.correctAll us), .ok ()) := by
  have hshows : s.Shows m fields := ⟨hpath, _, rest, hread, extract_header rest, hfields⟩
  obtain ⟨numerals, others, rfl, hspelt⟩ := hbegins
  have hgiven := readFields_forall₂ hspelt others 0 fun k t ht =>
    fits32_iff.2 (Nat.zero_add k ▸ hfits k t ht)
  rw [reads_eq, hshows.value_read, ← hcount, hgiven]
  simp [SensorBase.correctAll, Reading.outcome]

/-- What is known of a sensor that was found by contents that begin with the temperatures. -/
structure Counted (path : String) (bytes : ByteArray) (found : ThermalSensor) (ts : List Int) :
    Prop where
  path_eq : found.base.path = path
  count_eq : found.base.count = ts.length
  begins : ∃ text rest fields, bytes = String.toUTF8 text ∧
    text.toList = header.toList ++ rest ∧ Fields rest fields ∧ BeginsJust fields ts
  /-- With corrections that keep all temperatures within 32 bits, any contents that start with
      the header and have enough numbers after it are read. -/
  agrees : ∀ s : ThermalSensor, s.base.path = path → s.base.count = found.base.count →
    ∀ m (rest : String) fields us, (m.readFile path).1 = .ok (header.toUTF8 ++ rest.toUTF8) →
      Fields rest.toList fields → Begins fields us → us.length = found.base.count →
      s.base.Fits us → ∀ before,
        s.reads before m = (.thermal s, before.append (s.base.correctAll us), .ok ())
  /-- So are the contents that the sensor was found by. -/
  unchanged : ∀ s : ThermalSensor, s.base.path = path → s.base.count = found.base.count →
    ∀ m, (m.readFile path).1 = .ok bytes → s.base.Fits ts → ∀ before,
      s.reads before m = (.thermal s, before.append (s.base.correctAll ts), .ok ())

/-- A sensor is found behind a file if and only if this is a text that starts with the header,
    and its first field is a number of 32 bits. It gives as many temperatures as there are
    such numbers then, before any other field, and reads the first ones of any contents that
    have as many. -/
theorem find_agrees {path : String} (hpath : '\x00' ∉ path.toList) (hm : m.faults = [])
    {bytes : ByteArray} (hfile : m.files.get? path = some bytes) :
    ((∃ found, (find path).run.value m = .ok found) ↔
      ∃ text rest field fields t, bytes = String.toUTF8 text ∧
        text.toList = header.toList ++ rest ∧ Fields rest (field :: fields) ∧
        Spells32 field t) ∧
      ∀ found, (find path).run.value m = .ok found → ∃ ts, Counted path bytes found ts := by
  constructor
  · constructor
    · rintro ⟨found, hfound⟩
      obtain ⟨text, rest, fields, ts, hbytes, htext, hfields, hjust, hne, -⟩ :=
        (find_eq_ok_iff hpath hm hfile).1 hfound
      obtain ⟨numerals, others, rfl, hspelt, -⟩ := hjust
      cases hspelt with
      | nil => exact absurd rfl hne
      | @cons field t numerals ts ht hspelt =>
        exact ⟨text, rest, field, numerals ++ others, t, hbytes, htext, hfields, ht⟩
    · rintro ⟨text, rest, field, fields, t, hbytes, htext, hfields, ht⟩
      obtain ⟨ts, hjust⟩ := exists_beginsJust (field :: fields)
      refine ⟨_, (find_eq_ok_iff hpath hm hfile).2
        ⟨text, rest, field :: fields, ts, hbytes, htext, hfields, hjust, ?_, rfl⟩⟩
      rintro rfl
      obtain ⟨numerals, others, hsplit, hspelt, hend⟩ := hjust
      cases hspelt
      rw [List.nil_append] at hsplit
      exact hend field (hsplit ▸ rfl) t ht
  · intro found hfound
    obtain ⟨text, rest, fields, ts, rfl, htext, hfields, hjust, -, rfl⟩ :=
      (find_eq_ok_iff hpath hm hfile).1 hfound
    refine ⟨ts, rfl, rfl, ⟨text, rest, fields, rfl, htext, hfields, hjust⟩, ?_, ?_⟩
    · rintro s rfl hcount m rest fields us hread hfields hbegins hlength
      exact reads_of_begins hpath hread hfields hbegins (hlength.trans hcount.symm)
    · rintro s rfl hcount m hread
      rw [toUTF8_of_header htext] at hread
      rw [← String.toList_ofList (l := rest)] at hfields
      exact reads_of_begins hpath hread hfields hjust.begins hcount.symm

/-- No blank stands after the header of this file, and other fields follow its numbers. -/
theorem garbled_agrees :
    let bytes := "temperatures:52 +7 n/a 9\n".toUTF8
    let m : Machine := { files := ⟨[("thermal", bytes)]⟩ }
    let found : ThermalSensor := ⟨⟨"thermal", 2, [0, 0]⟩⟩
    (find "thermal").run.value m = .ok found ∧ ∃ ts, Counted "thermal" bytes found ts := by
  intro bytes m found
  have hfound : (find "thermal").run.value m = .ok found :=
    Config.eq_ok_of_toOption (by decide +kernel)
  exact ⟨hfound, (find_agrees (by decide) rfl rfl).2 found hfound⟩

end ThermalSensor

end Cooling
