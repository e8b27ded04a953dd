-- SUMMARY: Loading the document of a configuration: what of it counts, what goes unnoticed, and that it says what was written.
import Cooling.Proofs.Decimals
import Cooling.Proofs.Grammar

/-!
# Loading documents

A document with an object loads just as its members describe. Every member of the
configuration and of its fan counts. Of a sensor only its first kind and its corrections
do, so what else its object holds goes unnoticed.
-/

namespace Cooling.Config

open Json

variable {path text : String} {m : Machine} {ms : List (String × Value)} {c : Config}

/-! ## Loading -/

theorem ofText_eq (text : String) :
    ofText text = match ofDocument text with
      | .error e => .error (.json e.message)
      | .ok c =>
        match c.check with
        | .error v => .error v.failure
        | .ok () => .ok c := by
  unfold ofText
  cases ofDocument text with
  | error e => rfl
  | ok c =>
    change (do c.check.mapError Violation.failure; return c) =
      match c.check with
      | .error v => .error v.failure
      | .ok () => .ok c
    cases c.check <;> rfl

theorem ofText_eq_ok : ofText text = .ok c ↔ ofDocument text = .ok c ∧ c.check = .ok () := by
  rw [ofText_eq]
  constructor
  · intro h
    split at h
    · cases h
    · rename_i c' hdocument
      split at h
      · cases h
      · rename_i hcheck
        cases h
        exact ⟨hdocument, hcheck⟩
  · rintro ⟨hdocument, hcheck⟩
    simp [hdocument, hcheck]

theorem kind_of_ofText {f : Failure} (h : ofText text = .error f) : f.kind = .config := by
  rw [ofText_eq] at h
  split at h
  · cases h
    rfl
  · split at h <;> cases h
    rfl

/-- Once the file has been read, loading it is all about its text. -/
theorem value_load (h : (ControlFile.read path).value m = .ok text) :
    (load path).run.value m = ofText text := by
  suffices hload : (load path).run.wp (fun r _ _ => r = ofText text) m from hload
  rw [load, Program.wp_run_bind, Attempt.wp_ofProgram, Program.wp_iff, h]
  change ((ExceptT.mk (pure (ofText text)) >>= _ : Attempt Config)).run.wp _ _
  rw [Program.wp_run_bind]
  cases ofText text <;> rfl

/-- An object loads as the configuration that its members describe, if that makes sense. -/
theorem ofText_object (h : Document text (.object ms)) :
    ofText text = .ok c ↔ Means Field.Says ms c ∧ c.check = .ok () := by
  rw [ofText_eq_ok, ofDocument_eq_ok h]

/-! ## What goes unnoticed -/

/-- Whether a member is named after a kind of sensor. -/
def namesKind (m : String × Value) : Bool := (sensorKind? m.1).isSome

/-- The members of a sensor that count: the first one named after a kind, and corrections. -/
def counted (ms : List (String × Value)) : List (String × Value) :=
  (ms.find? namesKind).toList ++ ms.filter namesCorrection

/-- The object of a sensor has one kind, at most one correction, and nothing else. -/
def OneKind (ms : List (String × Value)) : Prop :=
  (∃ (kind : SensorKind) (v : Value), ms.filter (!namesCorrection ·) = [(kind.name, v)]) ∧
    (ms.filter namesCorrection).length ≤ 1

theorem namesKind_iff {m : String × Value} :
    namesKind m = true ↔ ∃ kind : SensorKind, m.1 = kind.name := by
  simp only [namesKind, Option.isSome_iff_exists, sensorKind?_eq_some]

theorem namesCorrection_of_namesKind {m : String × Value} (h : namesKind m = true) :
    namesCorrection m = false := by
  obtain ⟨kind, hkind⟩ := namesKind_iff.1 h
  rw [namesCorrection, hkind]
  cases kind <;> rfl

theorem find?_namesKind {ms : List (String × Value)} {kind : SensorKind} {v : Value} :
    ms.find? namesKind = some (kind.name, v) ↔
      ∃ before after, ms = before ++ (kind.name, v) :: after ∧
        ∀ m ∈ before, ∀ kind : SensorKind, m.1 ≠ kind.name := by
  have hnames : namesKind (kind.name, v) = true := namesKind_iff.2 ⟨kind, rfl⟩
  have hnot : ∀ m : String × Value,
      (!namesKind m) = true ↔ ∀ kind : SensorKind, m.1 ≠ kind.name := by
    intro m
    rw [Bool.not_eq_true', ← Bool.not_eq_true, namesKind_iff, not_exists]
  simp only [List.find?_eq_some_iff_append, hnames, true_and, hnot]

theorem find?_counted (ms : List (String × Value)) :
    (counted ms).find? namesKind = ms.find? namesKind := by
  rw [counted, List.find?_append]
  cases hfind : ms.find? namesKind with
  | some m =>
    have hm := List.find?_some hfind
    simp [hm]
  | none =>
    have hnone : (ms.filter namesCorrection).find? namesKind = none := by
      refine List.find?_eq_none.2 fun m hm => ?_
      exact List.find?_eq_none.1 hfind m (List.mem_of_mem_filter hm)
    simp [hnone]

theorem filter_namesCorrection_counted (ms : List (String × Value)) :
    (counted ms).filter namesCorrection = ms.filter namesCorrection := by
  have hkind : (ms.find? namesKind).toList.filter namesCorrection = [] := by
    refine List.filter_eq_nil_iff.2 fun m hm => ?_
    have hnames := List.find?_some (Option.mem_toList.1 hm)
    simp [namesCorrection_of_namesKind hnames]
  rw [counted, List.filter_append, hkind, List.filter_filter]
  simp

theorem counted_subset (ms : List (String × Value)) : counted ms ⊆ ms := by
  intro m hm
  rcases List.mem_append.1 hm with hkind | hcorrection
  · exact List.mem_of_find?_eq_some (Option.mem_toList.1 hkind)
  · exact List.mem_of_mem_filter hcorrection

/-- A sensor is just what its members that count say. -/
theorem sensorSays_counted {ms : List (String × Value)} {spec : SensorSpec} :
    SensorSays ms spec ↔ SensorSays (counted ms) spec ∧ NotTooDeep ms := by
  have hkind := find?_counted ms
  have hcorrection : correctionMembers (counted ms) = correctionMembers ms := by
    rw [correctionMembers, filter_namesCorrection_counted, correctionMembers]
  constructor
  · rintro ⟨hfirst, hsaid, hdeep⟩
    refine ⟨⟨?_, by rwa [hcorrection], fun m hm => hdeep m (counted_subset ms hm)⟩, hdeep⟩
    rwa [← find?_namesKind, hkind, find?_namesKind]
  · rintro ⟨⟨hfirst, hsaid, -⟩, hdeep⟩
    rw [hcorrection] at hsaid
    rw [← find?_namesKind, hkind, find?_namesKind] at hfirst
    exact ⟨hfirst, hsaid, hdeep⟩

theorem filter_not_namesCorrection_counted {ms : List (String × Value)} {spec : SensorSpec}
    (h : SensorSays ms spec) :
    (counted ms).filter (!namesCorrection ·) = [(spec.kind.name, .string spec.path)] := by
  have hfirst := find?_namesKind.2 h.kind
  have hnot := namesCorrection_of_namesKind (List.find?_some hfirst)
  rw [counted, hfirst, List.filter_append, List.filter_filter]
  simp [hnot]

theorem length_filter_namesCorrection {ms : List (String × Value)} {spec : SensorSpec}
    (h : SensorSays ms spec) : (ms.filter namesCorrection).length ≤ 1 := by
  rw [← List.length_map Prod.snd]
  change (correctionMembers ms).length ≤ 1
  rcases h.correction with ⟨hnil, -⟩ | ⟨v, hone, -⟩
  · simp [hnil]
  · simp [hone]

/-- What counts of a sensor is one kind and at most one correction. -/
theorem SensorSays.oneKind_counted {ms : List (String × Value)} {spec : SensorSpec}
    (h : SensorSays ms spec) : OneKind (counted ms) := by
  refine ⟨⟨spec.kind, .string spec.path, filter_not_namesCorrection_counted h⟩, ?_⟩
  rw [filter_namesCorrection_counted]
  exact length_filter_namesCorrection h

/-- Nothing goes unnoticed just if every member counts. -/
theorem SensorSays.oneKind_iff {ms : List (String × Value)} {spec : SensorSpec}
    (h : SensorSays ms spec) : OneKind ms ↔ (counted ms).length = ms.length := by
  have hsplit : ∀ l : List (String × Value), l.length =
      (l.filter namesCorrection).length + (l.filter (!namesCorrection ·)).length := fun l =>
    List.length_eq_length_filter_add namesCorrection
  have hcounted := hsplit (counted ms)
  rw [filter_namesCorrection_counted, filter_not_namesCorrection_counted h, List.length_singleton]
    at hcounted
  have hms := hsplit ms
  constructor
  · rintro ⟨⟨kind, v, hkind⟩, -⟩
    rw [hkind, List.length_singleton] at hms
    rw [hcounted, hms]
  · intro hlength
    have hone : (ms.filter (!namesCorrection ·)).length = 1 := by omega
    obtain ⟨m, hm⟩ := List.length_eq_one_iff.1 hone
    have hfirst := find?_namesKind.2 h.kind
    have hmem : (spec.kind.name, .string spec.path) ∈ ms.filter (!namesCorrection ·) := by
      refine List.mem_filter.2 ⟨List.mem_of_find?_eq_some hfirst, ?_⟩
      rw [namesCorrection_of_namesKind (List.find?_some hfirst)]
      rfl
    rw [hm] at hmem
    refine ⟨⟨spec.kind, .string spec.path, ?_⟩, length_filter_namesCorrection h⟩
    rw [hm, List.mem_singleton.1 hmem]

/-- A sensor without the members that do not count. -/
def trimmedSensor : Value → Value
  | .object ms => .object (counted ms)
  | v => v

/-- A member of a configuration, the sensors in it without the members that do not count. -/
def trimmed : String × Value → String × Value
  | (name, .array vs) =>
    if name = Field.sensors.name then (name, .array (vs.map trimmedSensor)) else (name, .array vs)
  | m => m

theorem trimmed_of_ne {m : String × Value} (h : m.1 ≠ Field.sensors.name) : trimmed m = m := by
  unfold trimmed
  split
  · exact if_neg h
  · rfl

theorem means_trimmed {ms : List (String × Value)} {c : Config} (h : Means Field.Says ms c) :
    Means Field.Says (ms.map trimmed) c := by
  obtain ⟨fields, hnodup, hms, hdefault⟩ := h
  refine ⟨fields, hnodup, List.forall₂_map_left_iff.2 (hms.imp ?_), hdefault⟩
  rintro ⟨name, v⟩ f ⟨rfl, hsaid⟩
  by_cases hf : f = .sensors
  · subst hf
    obtain ⟨vs, rfl, hvs⟩ := hsaid
    refine ⟨by simp [trimmed], vs.map trimmedSensor, by simp [trimmed], ?_⟩
    refine List.forall₂_map_left_iff.2 (hvs.imp ?_)
    rintro _ spec ⟨ms, rfl, hspec⟩
    exact ⟨counted ms, rfl, (sensorSays_counted.1 hspec).1⟩
  · have hne : f.name ≠ Field.sensors.name := fun hname => hf (Field.name_injective hname)
    rw [trimmed_of_ne hne]
    exact ⟨rfl, hsaid⟩

theorem Means.names {S : (f : Field) → Value → f.Content → Prop} (h : Means S ms c) :
    ∃ fields : List Field, fields.Nodup ∧ ms.map Prod.fst = fields.map Field.name := by
  obtain ⟨fields, hnodup, hms, -⟩ := h
  refine ⟨fields, hnodup, ?_⟩
  rw [← List.forall₂_eq_eq_eq, List.forall₂_map_left_iff, List.forall₂_map_right_iff]
  exact hms.imp fun m f hm => hm.1

theorem Means.value {S : (f : Field) → Value → f.Content → Prop} (h : Means S ms c) {f : Field}
    {v : Value} (hv : (f.name, v) ∈ ms) : S f v (c.get f) := by
  obtain ⟨fields, -, hms, -⟩ := h
  induction hms with
  | nil => cases hv
  | @cons m g ms fields hm _ ih =>
    rcases List.mem_cons.1 hv with rfl | hv
    · obtain ⟨hname, hvalue⟩ := hm
      cases Field.name_injective hname
      exact hvalue
    · exact ih hv

/-- Every sensor is an object. -/
theorem exists_objects {vs : List Value} {specs : List SensorSpec}
    (h : List.Forall₂ (fun v spec => ∃ ms, v = .object ms ∧ SensorSays ms spec) vs specs) :
    ∃ objects : List (List (String × Value)), vs = objects.map .object ∧
      ∀ o ∈ objects, ∃ spec, SensorSays o spec := by
  induction h with
  | nil => exact ⟨[], rfl, nofun⟩
  | @cons v spec vs specs hv _ ih =>
    obtain ⟨o, rfl, ho⟩ := hv
    obtain ⟨objects, rfl, hobjects⟩ := ih
    exact ⟨o :: objects, rfl, List.forall_mem_cons.2 ⟨⟨spec, ho⟩, hobjects⟩⟩

/-- What loading makes of a text. One that does not load is an error in the configuration,
    and one that does is a JSON document. If that is an object, each of its members is a field
    and none comes twice, the fan has one member, and a sensor has one kind and at most one
    correction among its members that count. Members of a sensor that do not count go
    unnoticed: without them the document says the same. -/
theorem load_object (hread : (ControlFile.read path).value m = .ok text) :
    (∀ f, (load path).run.value m = .error f → f.kind = .config) ∧
      ∀ c, (load path).run.value m = .ok c → (∃ v, Document text v) ∧
        ∀ ms, Document text (.object ms) →
          (∃ fields : List Field, fields.Nodup ∧ ms.map Prod.fst = fields.map Field.name) ∧
            (∀ v, (Field.fan.name, v) ∈ ms →
              ∃ (kind : FanKind) (path : String), v = .object [(kind.name, .string path)]) ∧
            (∀ v, (Field.sensors.name, v) ∈ ms →
              ∃ objects : List (List (String × Value)), v = .array (objects.map .object) ∧
                ∀ o ∈ objects, OneKind (counted o) ∧
                  (OneKind o ↔ (counted o).length = o.length)) ∧
            ∀ text', Document text' (.object (ms.map trimmed)) → ofText text' = .ok c := by
  rw [value_load hread]
  refine ⟨fun f => kind_of_ofText, fun c hc => ⟨exists_document (ofText_eq_ok.1 hc).1, ?_⟩⟩
  intro ms hdocument
  obtain ⟨hmeans, hcheck⟩ := (ofText_object hdocument).1 hc
  refine ⟨hmeans.names, ?_, ?_, ?_⟩
  · exact fun v hv => ⟨c.fan.kind, c.fan.path, hmeans.value hv⟩
  · intro v hv
    obtain ⟨vs, rfl, hvs⟩ := hmeans.value hv
    obtain ⟨objects, rfl, hobjects⟩ := exists_objects hvs
    refine ⟨objects, rfl, fun o ho => ?_⟩
    obtain ⟨spec, hspec⟩ := hobjects o ho
    exact ⟨hspec.oneKind_counted, hspec.oneKind_iff⟩
  · exact fun text' htext' => (ofText_object htext').2 ⟨means_trimmed hmeans, hcheck⟩

/-- The members of a sensor in which the name of the corrections is misspelt. -/
def misspeltSensor : List (String × Value) :=
  [("hwmon", .string "/temp"), ("corection", .array [.number (.natural 3)])]

def misspeltMembers : List (String × Value) :=
  [("fan", .object [("tp_fan", .string "/fan")]), ("sensors", .array [.object misspeltSensor])]

def misspeltText : String :=
  "\x7b\"fan\":\x7b\"tp_fan\":\"/fan\"\x7d," ++
    "\"sensors\":[\x7b\"hwmon\":\"/temp\",\"corection\":[3]\x7d]\x7d"

/-- A document with a misspelt member loads, without the corrections that it was to give. -/
theorem misspelt_unnoticed :
    let file : Machine := { files := ⟨[("config", misspeltText.toUTF8)]⟩ }
    Document misspeltText (.object misspeltMembers) ∧
      (load "config").run.value file =
        .ok { fan := ⟨.thinkpad, "/fan"⟩, sensors := [⟨.hwmon, "/temp", none⟩] } ∧
      ¬ OneKind misspeltSensor := by
  intro file
  have hdocument : Document misspeltText (.object misspeltMembers) := by decide +kernel
  have hquiet : file.Quiet := ⟨rfl, rfl, rfl⟩
  have hread : (ControlFile.read "config").value file = .ok misspeltText :=
    (ControlFile.read_quiet hquiet (by decide) rfl).1
  have hload : (load "config").run.value file =
      .ok { fan := ⟨.thinkpad, "/fan"⟩, sensors := [⟨.hwmon, "/temp", none⟩] } := by
    rw [value_load hread]
    decide +kernel
  obtain ⟨-, -, hsensors, -⟩ := ((load_object hread).2 _ hload).2 _ hdocument
  obtain ⟨objects, hobjects, hsensor⟩ := hsensors (.array [.object misspeltSensor])
    (List.mem_cons_of_mem _ List.mem_cons_self)
  have hmem : misspeltSensor ∈ objects := by
    have hmap : Value.object misspeltSensor ∈ objects.map .object := by
      rw [← Value.array.inj hobjects]
      exact List.mem_singleton_self _
    simpa using hmap
  have hlength : (counted misspeltSensor).length ≠ misspeltSensor.length := by decide
  exact ⟨hdocument, hload, fun hone => hlength ((hsensor _ hmem).2.1 hone)⟩

/-! ## What a document says -/

/-- The members of a sensor as they are written: its kind, and its corrections before or after
    it. A sensor without corrections may leave them out. -/
inductive SensorWritten (spec : SensorSpec) : List (String × Value) → Prop
  | bare (h : spec.correction? = none) :
      SensorWritten spec [(spec.kind.name, .string spec.path)]
  | after {v} (h : CorrectionSays v spec.correction?) :
      SensorWritten spec [(spec.kind.name, .string spec.path), (correctionName, v)]
  | before {v} (h : CorrectionSays v spec.correction?) :
      SensorWritten spec [(correctionName, v), (spec.kind.name, .string spec.path)]

/-- The value of a field as it is written. -/
def Field.Writes : (f : Field) → Value → f.Content → Prop
  | fan, v, spec => v = .object [(spec.kind.name, .string spec.path)]
  | watchdog, v, n | pollInterval, v, n => v = .number (.natural n.toNat)
  | depulse, v, x => ∃ n, v = .number n ∧ n.toBinary64 = x
  | dndDisk, v, on => v = .bool on
  | sensors, v, specs => ∃ vs, v = .array vs ∧
      List.Forall₂ (fun v spec => ∃ ms, v = .object ms ∧ SensorWritten spec ms) vs specs

theorem name_ne_correctionName (kind : SensorKind) : kind.name ≠ correctionName := by
  cases kind <;> decide

theorem SensorWritten.toSays {spec : SensorSpec} (h : SensorWritten spec ms) :
    SensorSays ms spec := by
  have hname := name_ne_correctionName
  cases h with
  | bare h =>
    refine ⟨⟨[], [], rfl, nofun⟩, .inl ⟨?_, h⟩, ?_⟩
    · simp [correctionMembers, namesCorrection, hname]
    · simp [NotTooDeep, Value.depth, room]
  | after h =>
    refine ⟨⟨[], _, rfl, nofun⟩, .inr ⟨_, ?_, h⟩, ?_⟩
    · simp [correctionMembers, namesCorrection, hname]
    · simp [NotTooDeep, Value.depth, room]
  | before h =>
    refine ⟨⟨[_], [], rfl, ?_⟩, .inr ⟨_, ?_, h⟩, ?_⟩
    · simpa using fun kind => (hname kind).symm
    · simp [correctionMembers, namesCorrection, hname]
    · simp [NotTooDeep, Value.depth, room]

theorem Field.Writes.toSays {f : Field} {v : Value} {a : f.Content} (h : f.Writes v a) :
    f.Says v a := by
  cases f with
  | watchdog | pollInterval => exact ⟨_, h, UInt64.ofNat_toNat⟩
  | sensors =>
    obtain ⟨vs, rfl, hvs⟩ := h
    refine ⟨vs, rfl, hvs.imp ?_⟩
    rintro v spec ⟨ms, hv, hms⟩
    exact ⟨ms, hv, hms.toSays⟩
  | _ => exact h

theorem Means.toSays (h : Means Field.Writes ms c) : Means Field.Says ms c := by
  obtain ⟨fields, hnodup, hms, hdefault⟩ := h
  exact ⟨fields, hnodup, hms.imp fun m f hm => ⟨hm.1, hm.2.toSays⟩, hdefault⟩

/-- A document says what was written: whatever the order of its members, and whether defaults
    are spelt out or not. So documents that are written for one configuration load alike. A
    number of seconds with few digits and a small exponent is read as the nearest double. -/
theorem ofDocument_written (hms : Means Field.Writes ms c)
    (hdocument : Document text (.object ms)) :
    ofDocument text = .ok c ∧
      (∀ ms' text', Means Field.Writes ms' c → Document text' (.object ms') →
        ofText text' = ofText text) ∧
      ∀ (p : Parts) (negative : Bool), p.Ordinary →
        ∃ n, p.value negative = some n ∧
          n.toBinary64 = Binary64.ofMagnitude negative (Binary64.nearest p.toRat) := by
  have hread : ∀ ms text, Means Field.Writes ms c → Document text (.object ms) →
      ofDocument text = .ok c := fun ms text hms hdocument =>
    (ofDocument_eq_ok hdocument).2 hms.toSays
  refine ⟨hread ms text hms hdocument, fun ms' text' hms' hdocument' => ?_,
    fun p negative hp => hp.value negative⟩
  rw [ofText_eq, ofText_eq, hread ms text hms hdocument, hread ms' text' hms' hdocument']

/-- A configuration in which not every field is the default one. -/
def calibrated : Config where
  fan := ⟨.pwm, "/pwm1"⟩
  depulseSecs := ⟨4612811918334230528⟩
  sensors := [⟨.thermal, "/thermal", some [-2]⟩]

/-- Its members in another order, with the corrections before the kind of the sensor. -/
def calibratedMembers : List (String × Value) :=
  [("sensors", .array [.object [("correction", .array [.number (.negative 2)]),
      ("tp_thermal", .string "/thermal")]]),
    ("depulse_secs", .number (.float ⟨4612811918334230528⟩)),
    ("fan", .object [("pwm_fan", .string "/pwm1")])]

def calibratedText : String :=
  "\x7b \"sensors\": [\x7b \"correction\": [-2], \"tp_thermal\": \"/thermal\" \x7d],\n" ++
    "  \"depulse_secs\": 2.5, \"fan\": \x7b \"pwm_fan\": \"/pwm\\u0031\" \x7d \x7d\n"

theorem calibrated_read_back :
    Document calibratedText (.object calibratedMembers) ∧
      Means Field.Writes calibratedMembers calibrated ∧
      ofDocument calibratedText = .ok calibrated := by
  have hdocument : Document calibratedText (.object calibratedMembers) := by decide +kernel
  have hmeans : Means Field.Writes calibratedMembers calibrated := by
    refine ⟨[.sensors, .depulse, .fan], by decide, .cons ⟨rfl, ?_⟩ (.cons ⟨rfl, ?_⟩
      (.cons ⟨rfl, rfl⟩ .nil)), ?_⟩
    · refine ⟨_, rfl, .cons ⟨_, rfl, .before (.inr ⟨_, ⟨_, rfl, ?_⟩, rfl⟩)⟩ .nil⟩
      exact .cons ⟨_, rfl, rfl⟩ .nil
    · exact ⟨_, rfl, rfl⟩
    · intro f hf
      cases f <;> first | rfl | exact absurd (by decide) hf
  exact ⟨hdocument, hmeans, (ofDocument_written hmeans hdocument).1⟩

/-- A configuration whose depulse time has sixteen digits. -/
def precise : Config where
  fan := ⟨.thinkpad, "/fan"⟩
  depulseSecs := ⟨4607182418800017411⟩
  sensors := [⟨.hwmon, "/temp", none⟩]

/-- The document of a configuration need not describe it: a number with too many digits is
    not read as the nearest double. -/
theorem precise_not_read_back :
    precise.check = .ok () ∧
      Binary64.ofMagnitude false (Binary64.nearest (10000000000000007 / 10 ^ 16)) =
        precise.depulseSecs ∧
      precise.document = "\x7b\"fan\":\x7b\"tp_fan\":\"/fan\"\x7d,\"watchdog_secs\":120," ++
        "\"depulse_secs\":1.0000000000000007,\"poll_interval_secs\":5,\"dnd_disk\":false," ++
        "\"sensors\":[\x7b\"hwmon\":\"/temp\"\x7d]\x7d" ∧
      ofDocument precise.document =
        .ok { precise with depulseSecs := ⟨4607182418800017412⟩ } ∧
      ofDocument precise.document ≠ .ok precise := by
  decide +kernel

end Cooling.Config
