-- SUMMARY: Which members describe a configuration, and which one: members of a fan, of a sensor, and of a whole document.
import Cooling.Proofs.Decoding
import Cooling.Proofs.Prepare

/-!
# Documents of configurations

`Means` says which members describe which configuration: each is the value of a field,
none comes twice, and a field without a member has its default. A document with an object
loads just as its members describe.
-/

namespace Cooling

/-! ## Names -/

theorem find?_name {κ : Type} {all : List κ} {name : κ → String} (hall : ∀ k, k ∈ all)
    (hinjective : Function.Injective name) {n : String} {k : κ} :
    all.find? (fun k => name k == n) = some k ↔ n = name k := by
  constructor
  · intro h
    have hname := List.find?_some h
    simp only [beq_iff_eq] at hname
    exact hname.symm
  · rintro rfl
    cases hfind : all.find? (fun k' => name k' == name k) with
    | none =>
      have := List.find?_eq_none.1 hfind k (hall k)
      simp at this
    | some k' =>
      have hname : name k' = name k := by simpa using List.find?_some hfind
      rw [hinjective hname]

theorem FanKind.name_injective : Function.Injective FanKind.name := by
  intro a b h
  cases a <;> cases b <;> simp_all [FanKind.name]

theorem SensorKind.name_injective : Function.Injective SensorKind.name := by
  intro a b h
  cases a <;> cases b <;> simp_all [SensorKind.name]

namespace Config

open Json Json.Reader

theorem Field.name_injective : Function.Injective Field.name := by
  intro a b h
  cases a <;> cases b <;> simp_all [Field.name]

theorem fanKind_eq_ok {name : String} {kind : FanKind} :
    fanKind name = .ok kind ↔ name = kind.name := by
  have hall : ∀ k, k ∈ FanKind.all := by intro k; cases k <;> decide
  rw [← find?_name hall FanKind.name_injective, fanKind]
  cases FanKind.all.find? (fun k => k.name == name) <;> simp

/-- The kind of sensor with a name. -/
def sensorKind? (name : String) : Option SensorKind :=
  SensorKind.all.find? (fun k => k.name == name)

theorem sensorKind?_eq_some {name : String} {kind : SensorKind} :
    sensorKind? name = some kind ↔ name = kind.name :=
  find?_name (by intro k; cases k <;> decide) SensorKind.name_injective

theorem Field.ofName?_eq_some {name : String} {f : Field} :
    Field.ofName? name = some f ↔ name = f.name :=
  find?_name (by intro f; cases f <;> decide) Field.name_injective

/-! ## Fans -/

theorem endFan_takes (fan : FanSpec) (ms : List (String × Value)) :
    (do endFan; return fan : Reader FanSpec).Takes (memberTokens false ms) fun f =>
      ms = [] ∧ fan = f := by
  cases ms with
  | nil =>
    have hend : ∀ rest, (do endFan; return fan : Reader FanSpec) ([.closeObject] ++ rest) =
        (pure fan : Reader FanSpec) ([] ++ rest) := fun rest => rfl
    exact takes_of_eq hend ((takes_pure fan).congr fun f => by simp)
  | cons m ms => exact takes_of_error (fun rest => ⟨.malformed, rfl⟩) (by simp)

/-- A fan is an object with one member, named after its kind. -/
theorem readFan_decodes :
    readFan.Decodes fun v fan => v = .object [(fan.kind.name, .string fan.path)] := by
  intro v
  cases v with
  | object ms =>
    cases ms with
    | nil => exact takes_of_error (fun rest => ⟨.malformed, rfl⟩) (by simp)
    | cons m ms =>
      obtain ⟨name, v⟩ := m
      have hbody := (takes_lift (fanKind name)).bind fun kind _ =>
        expectColon_takes.bind fun _ _ =>
          (readText_decodes "path string" v).bind fun path _ => endFan_takes { kind, path } ms
      refine takes_of_eq (fun rest => rfl) (hbody.congr fun fan => ?_)
      constructor
      · rintro ⟨kind, hkind, -, -, path, rfl, rfl, rfl⟩
        rw [fanKind_eq_ok.1 hkind]
      · intro h
        simp only [Value.object.injEq, List.cons.injEq, Prod.mk.injEq] at h
        obtain ⟨⟨hname, rfl⟩, rfl⟩ := h
        exact ⟨fan.kind, fanKind_eq_ok.2 hname, (), trivial, fan.path, rfl, rfl, rfl⟩
  | string s =>
    refine takes_of_error (fun rest => ?_) (by simp)
    have hread : readFan ((Value.string s).tokens ++ rest) =
        fanKind s >>= fun _ => .error bareKind := rfl
    cases hkind : fanKind s <;> simp [hread, hkind, bind, Except.bind]
  | _ => exact takes_of_error (fun rest => ⟨.malformed, rfl⟩) (by simp)

/-! ## Sensors -/

/-- Null says that there are no corrections, and an array of whole numbers says which. -/
def CorrectionSays (v : Value) (corrections? : Option (List Int32)) : Prop :=
  (v = .null ∧ corrections? = none) ∨
    ∃ corrections, (∃ vs, v = .array vs ∧
      List.Forall₂ (fun v t => ∃ n, v = .number n ∧ n.whole? = some t.toInt) vs corrections) ∧
        some corrections = corrections?

theorem readCorrection_decodes :
    (readNullable (readArray readSigned32)).Decodes CorrectionSays :=
  readSigned32_decodes.array.nullable (by simp)

/-- What is known of a sensor after one more member. -/
def SensorDraft.Adds (draft : SensorDraft) (name : String) (v : Value) (draft' : SensorDraft) :
    Prop :=
  if name = correctionName then
    draft.correction? = none ∧
      ∃ corrections?, CorrectionSays v corrections? ∧
        { draft with correction? := some corrections? } = draft'
  else
    v.depth < room ∧
      { draft with kind? := draft.kind?.or ((sensorKind? name).map (·, v.shape)) } = draft'

theorem readSensorMember_given {draft : SensorDraft} {c : Option (List Int32)}
    (h : draft.correction? = some c) :
    readSensorMember draft correctionName = throw (duplicateField correctionName) := by
  simp only [readSensorMember, h]
  rfl

theorem readSensorMember_correction {draft : SensorDraft} (h : draft.correction? = none) :
    readSensorMember draft correctionName = (do
      expectColon
      (fun corrections? => { draft with correction? := some corrections? }) <$>
        readNullable (readArray readSigned32)) := by
  simp only [readSensorMember, h]
  rfl

theorem readSensorMember_other (draft : SensorDraft) {name : String} (h : name ≠ correctionName) :
    readSensorMember draft name = (do
      expectColon
      (fun shape => { draft with kind? := draft.kind?.or ((sensorKind? name).map (·, shape)) }) <$>
        skipValue room) := by
  obtain ⟨kind?, correction?⟩ := draft
  simp only [readSensorMember, h, if_false]
  refine congrArg (expectColon >>= ·) (funext fun _ => ?_)
  rw [map_eq_pure_bind]
  refine congrArg (skipValue room >>= ·) (funext fun shape => ?_)
  cases kind? <;> cases hkind : sensorKind? name <;> rw [sensorKind?] at hkind <;> simp [hkind]

theorem readSensorMember_decodes : StepDecodes readSensorMember SensorDraft.Adds := by
  intro draft name v
  by_cases hname : name = correctionName
  · subst hname
    cases hgiven : draft.correction? with
    | some corrections? =>
      rw [readSensorMember_given hgiven]
      exact takes_of_error (fun rest => ⟨_, rfl⟩) (by simp [SensorDraft.Adds, hgiven])
    | none =>
      rw [readSensorMember_correction hgiven]
      refine (expectColon_takes.bind fun _ _ => (readCorrection_decodes v).map _).congr fun _ => ?_
      simp [SensorDraft.Adds, hgiven]
  · rw [readSensorMember_other draft hname]
    refine (expectColon_takes.bind fun _ _ => (skipValue_decodes 124 v).map _).congr fun _ => ?_
    simp [SensorDraft.Adds, hname, room, and_assoc]

/-- Whether a member is named after corrections. -/
def namesCorrection (m : String × Value) : Bool := m.1 == correctionName

/-- The values of the members with the name of corrections. -/
def correctionMembers (ms : List (String × Value)) : List Value :=
  (ms.filter namesCorrection).map Prod.snd

/-- The kind that a member is named after, and the shape of its value. -/
def kindMember? (m : String × Value) : Option (SensorKind × Shape) :=
  (sensorKind? m.1).map (·, m.2.shape)

theorem kindMember?_eq_some {m : String × Value} {kind : SensorKind} {path : String} :
    kindMember? m = some (kind, .string path) ↔ m = (kind.name, .string path) := by
  obtain ⟨name, v⟩ := m
  have hshape : v.shape = .string path ↔ v = .string path := by cases v <;> simp [Value.shape]
  simp [kindMember?, sensorKind?_eq_some, hshape]

theorem kindMember?_eq_none {m : String × Value} :
    kindMember? m = none ↔ ∀ kind : SensorKind, m.1 ≠ kind.name := by
  rw [kindMember?, Option.map_eq_none_iff, Option.eq_none_iff_forall_ne_some]
  simp only [ne_eq, sensorKind?_eq_some]

/-- No value but that of corrections is nested too deep. -/
def NotTooDeep (ms : List (String × Value)) : Prop :=
  ∀ m ∈ ms, m.1 ≠ correctionName → m.2.depth < room

/-- What all members together say of a sensor. -/
theorem gathers_adds_iff {draft draft' : SensorDraft} {ms : List (String × Value)} :
    Gathers SensorDraft.Adds draft ms draft' ↔
      draft'.kind? = draft.kind?.or (ms.findSome? kindMember?) ∧
        (∃ given, List.Forall₂ CorrectionSays (correctionMembers ms) given ∧
          draft'.correction?.toList = draft.correction?.toList ++ given) ∧
        NotTooDeep ms := by
  induction ms generalizing draft with
  | nil =>
    obtain ⟨kind?, correction?⟩ := draft
    obtain ⟨kind'?, correction'?⟩ := draft'
    cases correction? <;> cases correction'? <;>
      simp [Gathers, correctionMembers, NotTooDeep, eq_comm]
  | cons m ms ih =>
    obtain ⟨name, v⟩ := m
    rw [Gathers]
    simp only [ih]
    by_cases hname : name = correctionName
    · subst hname
      have hkind : kindMember? (correctionName, v) = none := rfl
      have hmembers :
          correctionMembers ((correctionName, v) :: ms) = v :: correctionMembers ms := by
        simp [correctionMembers, namesCorrection]
      have hdeep : NotTooDeep ((correctionName, v) :: ms) ↔ NotTooDeep ms := by
        simp [NotTooDeep]
      rw [List.findSome?_cons, hkind, hmembers, hdeep]
      simp only [SensorDraft.Adds, if_true]
      constructor
      · rintro ⟨_, ⟨hnone, c?, hsaid, rfl⟩, hkind, ⟨given, hgiven, hcorrection⟩, hdeep⟩
        exact ⟨hkind, ⟨c? :: given, .cons hsaid hgiven, by simpa [hnone] using hcorrection⟩, hdeep⟩
      · rintro ⟨hkind, ⟨given, hgiven, hcorrection⟩, hdeep⟩
        cases hgiven with
        | @cons _ c? _ given hsaid hgiven =>
          have hlength := congrArg List.length hcorrection
          cases hnone : draft.correction? with
          | some _ =>
            cases hd : draft'.correction? <;> simp [hd, hnone] at hlength
          | none =>
            refine ⟨_, ⟨rfl, c?, hsaid, rfl⟩, hkind, ⟨given, hgiven, ?_⟩, hdeep⟩
            simpa [hnone] using hcorrection
    · have hmembers : correctionMembers ((name, v) :: ms) = correctionMembers ms := by
        simp [correctionMembers, namesCorrection, hname]
      have hdeep : NotTooDeep ((name, v) :: ms) ↔ v.depth < room ∧ NotTooDeep ms := by
        simp [NotTooDeep, hname]
      have hkind : ((name, v) :: ms).findSome? kindMember? =
          ((sensorKind? name).map (·, v.shape)).or (ms.findSome? kindMember?) := by
        rw [List.findSome?_cons]
        cases h : sensorKind? name <;> simp [kindMember?, h]
      rw [hmembers, hdeep, hkind, ← Option.or_assoc]
      simp only [SensorDraft.Adds, if_neg hname]
      constructor
      · rintro ⟨_, ⟨hdepth, rfl⟩, hkind, hcorrection, hdeep⟩
        exact ⟨hkind, hcorrection, hdepth, hdeep⟩
      · rintro ⟨hkind, hcorrection, hdepth, hdeep⟩
        exact ⟨_, ⟨hdepth, rfl⟩, hkind, hcorrection, hdeep⟩

/-- What members say of a sensor. The first member named after a kind counts, and other
    members than it and the corrections say nothing. -/
structure SensorSays (ms : List (String × Value)) (spec : SensorSpec) : Prop where
  kind : ∃ before after, ms = before ++ (spec.kind.name, .string spec.path) :: after ∧
    ∀ m ∈ before, ∀ kind : SensorKind, m.1 ≠ kind.name
  correction : (correctionMembers ms = [] ∧ spec.correction? = none) ∨
    ∃ v, correctionMembers ms = [v] ∧ CorrectionSays v spec.correction?
  notTooDeep : NotTooDeep ms

theorem SensorDraft.finish_eq_ok {draft : SensorDraft} {spec : SensorSpec} :
    draft.finish = .ok spec ↔ draft.kind? = some (spec.kind, .string spec.path) ∧
      draft.correction?.join = spec.correction? := by
  obtain ⟨kind?, correction?⟩ := draft
  obtain ⟨kind, path, c?⟩ := spec
  cases kind? with
  | none => simp [SensorDraft.finish]
  | some k =>
    obtain ⟨k, shape⟩ := k
    cases shape <;> simp [SensorDraft.finish, and_assoc]

theorem sensorSays_iff {ms : List (String × Value)} {spec : SensorSpec} :
    SensorSays ms spec ↔
      ∃ draft, Gathers SensorDraft.Adds {} ms draft ∧ draft.finish = .ok spec := by
  simp only [gathers_adds_iff, SensorDraft.finish_eq_ok, Option.none_or, Option.toList_none,
    List.nil_append]
  have hkind : (ms.findSome? kindMember? = some (spec.kind, .string spec.path)) ↔
      ∃ before after, ms = before ++ (spec.kind.name, .string spec.path) :: after ∧
        ∀ m ∈ before, ∀ kind : SensorKind, m.1 ≠ kind.name := by
    simp only [List.findSome?_eq_some_iff, kindMember?_eq_some, kindMember?_eq_none]
    constructor
    · rintro ⟨before, _, after, hms, rfl, hbefore⟩
      exact ⟨before, after, hms, hbefore⟩
    · rintro ⟨before, after, hms, hbefore⟩
      exact ⟨before, _, after, hms, rfl, hbefore⟩
  constructor
  · rintro ⟨hfirst, hcorrection, hdeep⟩
    rw [← hkind] at hfirst
    obtain ⟨hnil, hnone⟩ | ⟨v, hone, hsaid⟩ := hcorrection
    · refine ⟨⟨some (spec.kind, .string spec.path), none⟩, ⟨hfirst.symm, ⟨[], ?_, rfl⟩, hdeep⟩, rfl,
        hnone.symm⟩
      rw [hnil]
      exact .nil
    · refine ⟨⟨some (spec.kind, .string spec.path), some spec.correction?⟩,
        ⟨hfirst.symm, ⟨[spec.correction?], ?_, rfl⟩, hdeep⟩, rfl, rfl⟩
      rw [hone]
      exact .cons hsaid .nil
  · rintro ⟨⟨kind?, correction?⟩, ⟨hfirst, ⟨given, hgiven, hcorrection⟩, hdeep⟩, hpath, hjoin⟩
    refine ⟨hkind.1 (hfirst.symm.trans hpath), ?_, hdeep⟩
    cases correction? with
    | none =>
      simp only [Option.toList_none] at hcorrection
      subst hcorrection
      exact .inl ⟨List.forall₂_nil_right_iff.1 hgiven, hjoin.symm⟩
    | some c? =>
      simp only [Option.toList_some] at hcorrection
      subst hcorrection
      obtain ⟨v, _, hsaid, hrest, hmembers⟩ := List.forall₂_cons_right_iff.1 hgiven
      rw [List.forall₂_nil_right_iff.1 hrest] at hmembers
      exact .inr ⟨v, hmembers, hjoin ▸ hsaid⟩

/-- A sensor is an object whose members say what it is. -/
theorem readSensor_decodes :
    readSensor.Decodes fun v spec => ∃ ms, v = .object ms ∧ SensorSays ms spec := by
  intro v
  cases v with
  | object ms =>
    have hbody := (readMembers_takes readSensorMember_decodes ms {}).bind fun draft _ =>
      takes_lift draft.finish
    rw [List.append_nil] at hbody
    exact takes_of_eq (fun rest => rfl) (hbody.congr fun spec => by simp [sensorSays_iff])
  | _ => exact takes_of_error (fun rest => ⟨_, rfl⟩) (by simp)

/-! ## Fields -/

namespace Field

/-- What the value of a field gives. -/
abbrev Content : Field → Type
  | fan => FanSpec
  | watchdog | pollInterval => UInt64
  | depulse => Binary64
  | dndDisk => Bool
  | sensors => List SensorSpec

/-- What a field is when no member gives it. -/
def default? : (f : Field) → Option f.Content
  | fan | sensors => none
  | watchdog => some (120 : UInt64)
  | depulse => some Binary64.zero
  | pollInterval => some (5 : UInt64)
  | dndDisk => some false

/-- What a value says of a field. -/
def Says : (f : Field) → Value → f.Content → Prop
  | fan, v, spec => v = .object [(spec.kind.name, .string spec.path)]
  | watchdog, v, n | pollInterval, v, n => ∃ k, v = .number (.natural k) ∧ UInt64.ofNat k = n
  | depulse, v, x => ∃ n, v = .number n ∧ n.toBinary64 = x
  | dndDisk, v, on => v = .bool on
  | sensors, v, specs => ∃ vs, v = .array vs ∧
      List.Forall₂ (fun v spec => ∃ ms, v = .object ms ∧ SensorSays ms spec) vs specs

/-- Reads the value of a field. -/
def read : (f : Field) → Reader f.Content
  | fan => readFan
  | watchdog | pollInterval => readWord
  | depulse => readDouble
  | dndDisk => readBool
  | sensors => readArray readSensor

theorem read_decodes (f : Field) : f.read.Decodes f.Says := by
  cases f with
  | fan => exact readFan_decodes
  | watchdog | pollInterval => exact readWord_decodes
  | depulse => exact readDouble_decodes
  | dndDisk => exact readBool_decodes
  | sensors => exact readSensor_decodes.array

end Field

/-- The value of a field of a configuration. -/
def get (c : Config) : (f : Field) → f.Content
  | .fan => c.fan
  | .watchdog => c.watchdogSecs
  | .depulse => c.depulseSecs
  | .pollInterval => c.pollIntervalSecs
  | .dndDisk => c.dndDisk
  | .sensors => c.sensors

namespace Draft

/-- What has been read of a field. -/
def get (d : Draft) : (f : Field) → Option f.Content
  | .fan => d.fan?
  | .watchdog => d.watchdog?
  | .depulse => d.depulse?
  | .pollInterval => d.pollInterval?
  | .dndDisk => d.dndDisk?
  | .sensors => d.sensors?

def set (d : Draft) : (f : Field) → f.Content → Draft
  | .fan, a => { d with fan? := some a }
  | .watchdog, a => { d with watchdog? := some a }
  | .depulse, a => { d with depulse? := some a }
  | .pollInterval, a => { d with pollInterval? := some a }
  | .dndDisk, a => { d with dndDisk? := some a }
  | .sensors, a => { d with sensors? := some a }

@[simp] theorem get_empty (f : Field) : get {} f = none := by cases f <;> rfl

@[simp] theorem get_set (d : Draft) (f : Field) (a : f.Content) : (d.set f a).get f = some a := by
  cases f <;> rfl

theorem get_set_of_ne (d : Draft) {f g : Field} (a : f.Content) (h : g ≠ f) :
    (d.set f a).get g = d.get g := by
  cases f <;> cases g <;> first | rfl | exact absurd rfl h

theorem has_eq (d : Draft) (f : Field) : d.has f = (d.get f).isSome := by cases f <;> rfl

theorem readField_eq (d : Draft) (f : Field) : d.readField f = d.set f <$> f.read := by
  cases f <;> rfl

theorem ext_get {d d' : Draft} (h : ∀ f, d.get f = d'.get f) : d = d' := by
  obtain ⟨_, _, _, _, _, _⟩ := d
  obtain ⟨_, _, _, _, _, _⟩ := d'
  simp only [mk.injEq]
  exact ⟨h .fan, h .watchdog, h .depulse, h .pollInterval, h .dndDisk, h .sensors⟩

/-- A draft is a configuration if every field has been read or has a default. -/
theorem finish_eq_ok {d : Draft} {noFan noSensors : Json.Error} {c : Config} :
    d.finish noFan noSensors = .ok c ↔ ∀ f, (d.get f).or f.default? = some (c.get f) := by
  obtain ⟨fan?, watchdog?, depulse?, pollInterval?, dndDisk?, sensors?⟩ := d
  constructor
  · intro h f
    cases fan? with
    | none => cases h
    | some fan =>
      cases sensors? with
      | none => cases h
      | some sensors => cases h; cases f <;> simp [get, Config.get, Field.default?]
  · intro h
    have hfan := h .fan
    have hwatchdog := h .watchdog
    have hdepulse := h .depulse
    have hpollInterval := h .pollInterval
    have hdndDisk := h .dndDisk
    have hsensors := h .sensors
    simp only [get, Config.get, Field.default?, Option.or_none, Option.or_some, Option.some.injEq]
      at hfan hwatchdog hdepulse hpollInterval hdndDisk hsensors
    subst hfan hsensors
    simp [finish, hwatchdog, hdepulse, hpollInterval, hdndDisk]

/-- What is known after one more member. -/
def Adds (d : Draft) (name : String) (v : Value) (d' : Draft) : Prop :=
  ∃ f : Field, name = f.name ∧ d.get f = none ∧ ∃ a, f.Says v a ∧ d.set f a = d'

theorem readMember_unknown (d : Draft) {name : String} (h : Field.ofName? name = none) :
    d.readMember name = throw (unknownField name) := by
  rw [readMember, h]

theorem readMember_given {d : Draft} {f : Field} {a : f.Content} (h : d.get f = some a) :
    d.readMember f.name = throw (duplicateField f.name) := by
  simp only [readMember, Field.ofName?_eq_some.2 rfl, has_eq, h]
  rfl

theorem readMember_fresh {d : Draft} {f : Field} (h : d.get f = none) :
    d.readMember f.name = (do expectColon; d.set f <$> f.read) := by
  simp only [readMember, Field.ofName?_eq_some.2 rfl, has_eq, h, readField_eq]
  rfl

theorem adds_name_iff {d d' : Draft} {f : Field} {v : Value} :
    Adds d f.name v d' ↔ d.get f = none ∧ ∃ a, f.Says v a ∧ d.set f a = d' := by
  constructor
  · rintro ⟨g, hname, hadds⟩
    rwa [Field.name_injective hname]
  · exact fun hadds => ⟨f, rfl, hadds⟩

theorem readMember_decodes : StepDecodes readMember Adds := by
  intro d name v
  cases hfield : Field.ofName? name with
  | none =>
    rw [readMember_unknown d hfield]
    refine takes_of_error (fun rest => ⟨_, rfl⟩) ?_
    rintro d' ⟨f, hname, -⟩
    rw [Field.ofName?_eq_some.2 hname] at hfield
    cases hfield
  | some f =>
    obtain rfl := Field.ofName?_eq_some.1 hfield
    cases hget : d.get f with
    | some a =>
      rw [readMember_given hget]
      exact takes_of_error (fun rest => ⟨_, rfl⟩) (by simp [adds_name_iff, hget])
    | none =>
      rw [readMember_fresh hget]
      refine (expectColon_takes.bind fun _ _ => (f.read_decodes v).map _).congr fun d' => ?_
      simp [adds_name_iff, hget]

end Draft

/-! ## Configurations -/

namespace Draft

/-- What all members together say of a configuration: fields, none of them twice. -/
theorem gathers_adds_iff {d d' : Draft} {ms : List (String × Value)} :
    Gathers Adds d ms d' ↔ ∃ fields : List Field, fields.Nodup ∧ (∀ f ∈ fields, d.get f = none) ∧
      List.Forall₂ (fun m f => m.1 = f.name ∧ ∃ a, f.Says m.2 a ∧ d'.get f = some a) ms fields ∧
      ∀ f ∉ fields, d'.get f = d.get f := by
  induction ms generalizing d with
  | nil =>
    simp only [Gathers, List.forall₂_nil_left_iff]
    constructor
    · rintro rfl
      exact ⟨[], List.nodup_nil, nofun, rfl, fun _ _ => rfl⟩
    · rintro ⟨_, -, -, rfl, hget⟩
      exact (ext_get fun f => hget f List.not_mem_nil).symm
  | cons m ms ih =>
    obtain ⟨name, v⟩ := m
    simp only [Gathers, ih]
    constructor
    · rintro ⟨_, ⟨f, hname, hnone, a, ha, rfl⟩, fields, hnodup, hunread, hms, hother⟩
      have hf : f ∉ fields := fun hmem => by
        have := hunread f hmem
        simp at this
      have hread : d'.get f = some a := (hother f hf).trans (by simp)
      refine ⟨f :: fields, List.nodup_cons.2 ⟨hf, hnodup⟩, ?_, .cons ⟨hname, a, ha, hread⟩ hms, ?_⟩
      · refine List.forall_mem_cons.2 ⟨hnone, fun g hg => ?_⟩
        rw [← get_set_of_ne d a (ne_of_mem_of_not_mem hg hf)]
        exact hunread g hg
      · intro g hg
        obtain ⟨hne, hg⟩ := not_or.1 (mt List.mem_cons.2 hg)
        rw [hother g hg, get_set_of_ne d a hne]
    · rintro ⟨_, hnodup, hunread, hms, hother⟩
      cases hms with
      | @cons _ f _ fields hm hms =>
        obtain ⟨hname, a, ha, hread⟩ := hm
        obtain ⟨hf, hnodup⟩ := List.nodup_cons.1 hnodup
        obtain ⟨hnone, hunread⟩ := List.forall_mem_cons.1 hunread
        refine ⟨d.set f a, ⟨f, hname, hnone, a, ha, rfl⟩, fields, hnodup, ?_, hms, ?_⟩
        · intro g hg
          rw [get_set_of_ne d a (ne_of_mem_of_not_mem hg hf)]
          exact hunread g hg
        · intro g hg
          by_cases hgf : g = f
          · subst hgf
            rw [hread, get_set]
          · rw [hother g (mt List.mem_cons.1 (not_or.2 ⟨hgf, hg⟩)), get_set_of_ne d a hgf]

/-- What is read of fields of a configuration. -/
def ofFields (c : Config) (fields : List Field) : Draft where
  fan? := if .fan ∈ fields then some c.fan else none
  watchdog? := if .watchdog ∈ fields then some c.watchdogSecs else none
  depulse? := if .depulse ∈ fields then some c.depulseSecs else none
  pollInterval? := if .pollInterval ∈ fields then some c.pollIntervalSecs else none
  dndDisk? := if .dndDisk ∈ fields then some c.dndDisk else none
  sensors? := if .sensors ∈ fields then some c.sensors else none

theorem get_ofFields (c : Config) (fields : List Field) (f : Field) :
    (ofFields c fields).get f = if f ∈ fields then some (c.get f) else none := by
  cases f <;> rfl

end Draft

/-- The members describe the configuration: each gives a field its value, none of them twice,
    and every other field is the default one. What values say of a field is left open. -/
def Means (S : (f : Field) → Value → f.Content → Prop) (ms : List (String × Value))
    (c : Config) : Prop :=
  ∃ fields : List Field, fields.Nodup ∧
    List.Forall₂ (fun m f => m.1 = f.name ∧ S f m.2 (c.get f)) ms fields ∧
    ∀ f ∉ fields, f.default? = some (c.get f)

theorem means_iff {ms : List (String × Value)} {c : Config} {noFan noSensors : Json.Error} :
    Means Field.Says ms c ↔
      ∃ draft, Gathers Draft.Adds {} ms draft ∧ draft.finish noFan noSensors = .ok c := by
  simp only [Draft.gathers_adds_iff, Draft.finish_eq_ok]
  constructor
  · rintro ⟨fields, hnodup, hms, hdefault⟩
    refine ⟨.ofFields c fields, ⟨fields, hnodup, fun f _ => Draft.get_empty f, ?_, ?_⟩, ?_⟩
    · have hmem := ((List.forall₂_and_left fields ms).2 ⟨fun f hf => hf, hms.flip⟩).flip
      refine hmem.imp fun m f ⟨hf, hname, hsaid⟩ => ⟨hname, c.get f, hsaid, ?_⟩
      rw [Draft.get_ofFields, if_pos hf]
    · intro f hf
      rw [Draft.get_ofFields, if_neg hf, Draft.get_empty]
    · intro f
      rw [Draft.get_ofFields]
      split
      · rfl
      · rename_i hf
        exact hdefault f hf
  · rintro ⟨draft, ⟨fields, hnodup, -, hms, hother⟩, hfinish⟩
    refine ⟨fields, hnodup, hms.imp ?_, ?_⟩
    · rintro m f ⟨hname, a, hsaid, hget⟩
      have hvalue := hfinish f
      rw [hget, Option.some_or, Option.some.injEq] at hvalue
      exact ⟨hname, hvalue ▸ hsaid⟩
    · intro f hf
      have hvalue := hfinish f
      rwa [hother f hf, Draft.get_empty, Option.none_or] at hvalue

/-- An object is read as the configuration that its members describe. -/
theorem readConfig_takes (ms : List (String × Value)) :
    readConfig.Takes (Value.object ms).tokens (Means Field.Says ms) := by
  have hbody := (readMembers_takes Draft.readMember_decodes ms {}).bind fun draft _ =>
    takes_lift (draft.finish (missingField Field.fan.name) (missingField Field.sensors.name))
  rw [List.append_nil] at hbody
  exact takes_of_eq (fun rest => rfl) (hbody.congr fun c => means_iff.symm)

variable {text : String} {ms : List (String × Value)} {c : Config}

/-- A document with an object describes what its members do. -/
theorem ofDocument_eq_ok (h : Document text (.object ms)) :
    ofDocument text = .ok c ↔ Means Field.Says ms c := by
  have htokens := document_iff.1 h
  have hread := fun c rest => readConfig_takes ms [] c rest
  rw [List.append_nil] at hread
  rw [ofDocument, htokens, ofTokens, bind_eq_ok]
  constructor
  · rintro ⟨⟨c', rest⟩, hc, hrest⟩
    obtain ⟨hmeans, rfl⟩ := (hread _ _).1 hc
    cases hrest
    exact hmeans
  · intro hc
    exact ⟨(c, []), (hread _ _).2 ⟨hc, rfl⟩, rfl⟩

end Config

end Cooling
