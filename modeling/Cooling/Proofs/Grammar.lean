-- SUMMARY: What is read is JSON: a reader gives something only for the tokens of a value, so nothing but a document loads.
import Cooling.Proofs.Configurations

/-!
# What is read is JSON

`Decodes` says what a reader makes of the tokens of a value. `TakesOnly` says that there
is nothing else to be made of: where a reader gives something, the tokens that it took
are those of a value. So only a JSON document describes a configuration.

Readers of elements and members follow the grammar as they go. Skipping keeps the brackets
that are open in a stack instead, and what it has still to take is said by that stack.
-/

namespace Cooling.Json

variable {α β σ : Type}

namespace Reader

/-- Where the reader gives something, the tokens that it has taken are such. -/
def TakesOnly (x : Reader α) (P : α → List Token → Prop) : Prop :=
  ∀ ts a rest, x ts = .ok (a, rest) → ∃ taken, ts = taken ++ rest ∧ P a taken

/-- The reader takes nothing but the tokens of a value. -/
def TakesValues (x : Reader α) : Prop := x.TakesOnly fun _ ts => ∃ v : Value, ts = v.tokens

variable {x : Reader α} {P Q : α → List Token → Prop}

theorem TakesOnly.mono (h : x.TakesOnly P) (hPQ : ∀ a ts, P a ts → Q a ts) : x.TakesOnly Q := by
  intro ts a rest hx
  obtain ⟨taken, hts, htaken⟩ := h ts a rest hx
  exact ⟨taken, hts, hPQ a taken htaken⟩

theorem takesOnly_pure (a : α) : (pure a : Reader α).TakesOnly fun b ts => a = b ∧ ts = [] := by
  rintro ts b rest ⟨⟩
  exact ⟨[], rfl, rfl, rfl⟩

theorem takesOnly_lift (x : Except Error α) :
    (liftM x : Reader α).TakesOnly fun _ ts => ts = [] := by
  intro ts a rest h
  cases x with
  | ok b =>
    cases h
    exact ⟨[], rfl, rfl⟩
  | error e => cases h

theorem takesOnly_throw (e : Error) : (throw e : Reader α).TakesOnly P := nofun

theorem TakesOnly.bind {f : α → Reader β} {R : α → β → List Token → Prop} (hx : x.TakesOnly P)
    (hf : ∀ a, (f a).TakesOnly (R a)) :
    (x >>= f).TakesOnly fun b ts => ∃ a ts₁ ts₂, P a ts₁ ∧ R a b ts₂ ∧ ts = ts₁ ++ ts₂ := by
  intro ts b rest h
  rw [bind_apply, bind_eq_ok] at h
  obtain ⟨⟨a, ts'⟩, hfirst, hthen⟩ := h
  obtain ⟨ts₁, rfl, h₁⟩ := hx _ _ _ hfirst
  obtain ⟨ts₂, rfl, h₂⟩ := hf a _ _ _ hthen
  exact ⟨ts₁ ++ ts₂, (List.append_assoc _ _ _).symm, a, ts₁, ts₂, h₁, h₂, rfl⟩

theorem TakesOnly.map (f : α → β) (hx : x.TakesOnly P) :
    (f <$> x).TakesOnly fun b ts => ∃ a, P a ts ∧ f a = b := by
  rw [map_eq_pure_bind]
  refine (hx.bind fun a => takesOnly_pure (f a)).mono ?_
  rintro b ts ⟨a, ts₁, _, h, ⟨rfl, rfl⟩, rfl⟩
  exact ⟨a, by rwa [List.append_nil], rfl⟩

/-- A value, and then nothing more. -/
theorem TakesOnly.bind_lift {P : List Token → Prop} (hx : x.TakesOnly fun _ => P)
    (f : α → Except Error β) :
    (x >>= fun a => (liftM (f a) : Reader β)).TakesOnly fun _ => P := by
  refine (hx.bind fun a => takesOnly_lift (f a)).mono ?_
  rintro b ts ⟨a, ts₁, _, h, rfl, rfl⟩
  rwa [List.append_nil]

end Reader

open Reader

/-! ## Single values -/

theorem readWord_takesValues : readWord.TakesValues := by
  intro ts a rest h
  unfold readWord at h
  split at h <;> cases h
  exact ⟨_, rfl, .number (.natural _), rfl⟩

theorem readSigned32_takesValues : readSigned32.TakesValues := by
  intro ts a rest h
  unfold readSigned32 at h
  split at h
  · split at h <;> cases h
    exact ⟨_, rfl, .number (.natural _), rfl⟩
  · split at h <;> cases h
    exact ⟨_, rfl, .number (.negative _), rfl⟩
  · cases h

theorem readDouble_takesValues : readDouble.TakesValues := by
  intro ts a rest h
  unfold readDouble at h
  split at h <;> cases h
  exact ⟨_, rfl, .number _, rfl⟩

theorem readBool_takesValues : readBool.TakesValues := by
  intro ts a rest h
  unfold readBool at h
  split at h <;> cases h
  exact ⟨_, rfl, .bool _, rfl⟩

theorem readText_takesOnly (wanted : String) :
    (readText wanted).TakesOnly fun s ts => ts = (Value.string s).tokens := by
  intro ts a rest h
  unfold readText at h
  split at h <;> cases h
  exact ⟨_, rfl, rfl⟩

theorem readName_takesOnly : readName.TakesOnly fun name ts => ts = [.string (.ok name)] := by
  intro ts a rest h
  unfold readName at h
  split at h <;> cases h
  exact ⟨_, rfl, rfl⟩

theorem expectColon_takesOnly : expectColon.TakesOnly fun _ ts => ts = [.colon] := by
  intro ts a rest h
  unfold expectColon at h
  split at h <;> cases h
  exact ⟨_, rfl, rfl⟩

variable {read : Reader α}

theorem Reader.TakesValues.nullable (h : read.TakesValues) : (readNullable read).TakesValues := by
  intro ts a? rest hread
  unfold readNullable at hread
  split at hread
  · cases hread
    exact ⟨_, rfl, .null, rfl⟩
  · obtain ⟨taken, hts, _, hv, -⟩ := h.map some _ _ _ hread
    exact ⟨taken, hts, hv⟩

/-! ## Arrays -/

theorem moreElements_takesOnly (first : Bool) : (moreElements first).TakesOnly fun more ts =>
    ts = if more then separator first else [] := by
  intro ts more rest h
  unfold moreElements at h
  split at h
  · cases h
  · cases h
    exact ⟨[], rfl, rfl⟩
  · split at h
    · rename_i hfirst
      cases h
      exact ⟨[], rfl, by simp [separator, hfirst]⟩
    · rename_i hfirst
      split at h <;> cases h
      exact ⟨[.comma], rfl, by simp [separator, hfirst]⟩
  · split at h <;> cases h
    rename_i hfirst
    exact ⟨[], rfl, by simp [separator, hfirst]⟩

theorem endArray_takesOnly : endArray.TakesOnly fun _ ts => ts = [.closeArray] := by
  intro ts a rest h
  unfold endArray at h
  split at h <;> cases h
  exact ⟨_, rfl, rfl⟩

theorem elementsUpTo_takesOnly (h : read.TakesValues) (n : Nat) (first : Bool) :
    (elementsUpTo read n first).TakesOnly fun _ ts => ∃ vs, ts = elementTokens first vs := by
  induction n generalizing first with
  | zero => exact takesOnly_throw _
  | succ n ih =>
    refine ((moreElements_takesOnly first).bind (R := fun more _ ts =>
      if more then ∃ v vs, ts = Value.tokens v ++ elementTokens false vs else ts = [.closeArray])
      fun more => ?_).mono ?_
    · cases more with
      | false =>
        refine (endArray_takesOnly.bind fun _ => takesOnly_pure _).mono ?_
        rintro _ _ ⟨_, _, _, rfl, ⟨-, rfl⟩, rfl⟩
        rfl
      | true =>
        refine (h.bind fun a => (ih false).bind fun as => takesOnly_pure _).mono ?_
        rintro _ _ ⟨_, _, _, ⟨v, rfl⟩, ⟨_, _, _, ⟨vs, rfl⟩, ⟨-, rfl⟩, rfl⟩, rfl⟩
        exact ⟨v, vs, by rw [List.append_nil]⟩
    · rintro _ _ ⟨more, _, _, rfl, hrest, rfl⟩
      cases more with
      | false => exact ⟨[], hrest⟩
      | true =>
        obtain ⟨v, vs, rfl⟩ := hrest
        exact ⟨v :: vs, rfl⟩

theorem Reader.TakesValues.array (h : read.TakesValues) : (readArray read).TakesValues := by
  intro ts as rest hread
  unfold readArray at hread
  split at hread
  · obtain ⟨_, rfl, vs, rfl⟩ := elementsUpTo_takesOnly h _ _ _ _ _ hread
    exact ⟨_, rfl, .array vs, rfl⟩
  · cases hread

/-! ## Objects -/

theorem nextName_takesOnly (first : Bool) : (nextName first).TakesOnly fun name? ts =>
    match name? with
    | none => ts = [.closeObject]
    | some name => ts = separator first ++ [.string (.ok name)] := by
  have hname := readName_takesOnly.map some
  intro ts name? rest h
  unfold nextName at h
  split at h
  · cases h
  · cases h
    exact ⟨_, rfl, rfl⟩
  · split at h
    · cases h
    · rename_i hfirst
      obtain ⟨_, rfl, name, rfl, rfl⟩ := hname _ _ _ h
      exact ⟨[.comma, .string (.ok name)], rfl, by simp [separator, hfirst]⟩
  · split at h
    · rename_i hfirst
      obtain ⟨_, rfl, name, rfl, rfl⟩ := hname _ _ _ h
      exact ⟨[.string (.ok name)], rfl, by simp [separator, hfirst]⟩
    · cases h

variable {step : σ → String → Reader σ}

/-- The step of a reader of members takes nothing but a colon and a value. -/
def StepTakesValues (step : σ → String → Reader σ) : Prop :=
  ∀ g name, (step g name).TakesOnly fun _ ts => ∃ v : Value, ts = .colon :: v.tokens

theorem membersUpTo_takesOnly (h : StepTakesValues step) (n : Nat) (first : Bool) (g : σ) :
    (membersUpTo step n first g).TakesOnly fun _ ts => ∃ ms, ts = memberTokens first ms := by
  induction n generalizing first g with
  | zero => exact takesOnly_throw _
  | succ n ih =>
    refine ((nextName_takesOnly first).bind (R := fun name? _ ts =>
      match name? with
      | none => ts = []
      | some _ => ∃ v ms, ts = .colon :: (Value.tokens v ++ memberTokens false ms))
      fun name? => ?_).mono ?_
    · cases name? with
      | none => exact (takesOnly_pure g).mono fun _ _ h => h.2
      | some name =>
        refine ((h g name).bind fun g₁ => ih false g₁).mono ?_
        rintro _ _ ⟨_, _, _, ⟨v, rfl⟩, ⟨ms, rfl⟩, rfl⟩
        exact ⟨v, ms, rfl⟩
    · rintro _ _ ⟨name?, _, _, hname, hrest, rfl⟩
      cases name? with
      | none =>
        subst hname hrest
        exact ⟨[], rfl⟩
      | some name =>
        obtain ⟨v, ms, rfl⟩ := hrest
        subst hname
        exact ⟨(name, v) :: ms, by simp [memberTokens]⟩

/-- A member after its name. -/
theorem Reader.TakesValues.member (f : α → β) (h : read.TakesValues) :
    (do expectColon; f <$> read : Reader β).TakesOnly fun _ ts =>
      ∃ v : Value, ts = .colon :: v.tokens := by
  refine (expectColon_takesOnly.bind fun _ => h.map f).mono ?_
  rintro _ _ ⟨_, _, _, rfl, ⟨_, ⟨v, rfl⟩, -⟩, rfl⟩
  exact ⟨v, rfl⟩

theorem readMembers_takesOnly (h : StepTakesValues step) (g : σ) :
    (readMembers step g).TakesOnly fun _ ts => ∃ ms, ts = memberTokens true ms :=
  fun ts => membersUpTo_takesOnly h (ts.length + 1) true g ts

/-! ## Skipping -/

namespace Skipper

/-- What ends the brackets that are open, once a value in the innermost of them has been taken. -/
def Closes : List Frame → List Token → List Token → Prop
  | [], ts, rest => ts = rest
  | .array :: frames, ts, rest =>
    ∃ vs ts₁, ts = elementTokens false vs ++ ts₁ ∧ Closes frames ts₁ rest
  | .object :: frames, ts, rest =>
    ∃ ms ts₁, ts = memberTokens false ms ++ ts₁ ∧ Closes frames ts₁ rest

/-- What ends a value that has been skipped so far. Nothing is said where a bracket and what
    must come next do not go together. -/
def Completes (s : Skipper) (ts rest : List Token) : Prop :=
  match s.need, s.frames with
  | .value, frames => ∃ v ts₁, ts = Value.tokens v ++ ts₁ ∧ Closes frames ts₁ rest
  | .elementOrEnd, .array :: frames =>
    ∃ vs ts₁, ts = elementTokens true vs ++ ts₁ ∧ Closes frames ts₁ rest
  | .memberOrEnd, .object :: frames =>
    ∃ ms ts₁, ts = memberTokens true ms ++ ts₁ ∧ Closes frames ts₁ rest
  | .member, .object :: frames =>
    ∃ m ms ts₁, ts = memberTokens true (m :: ms) ++ ts₁ ∧ Closes frames ts₁ rest
  | .colon, frames => ∃ v ts₁, ts = .colon :: (Value.tokens v ++ ts₁) ∧ Closes frames ts₁ rest
  | .commaOrEnd, frames => Closes frames ts rest
  | _, _ => True

variable {s s' : Skipper} {t : Token} {ts rest : List Token}

theorem enter_eq_ok {frame : Frame} {need : Need} (h : s.enter frame need = .ok s') :
    s' = ⟨frame :: s.frames, s.room - 1, need⟩ := by
  unfold enter at h
  split at h <;> cases h
  rfl

theorem value_completes (h : s.value t = .ok s') (hrest : s'.Completes ts rest) :
    ∃ v ts₁, t :: ts = Value.tokens v ++ ts₁ ∧ Closes s.frames ts₁ rest := by
  have hsingle : ∀ v : Value, t :: ts = v.tokens ++ ts → s' = { s with need := .commaOrEnd } →
      ∃ v ts₁, t :: ts = Value.tokens v ++ ts₁ ∧ Closes s.frames ts₁ rest := by
    rintro v hv rfl
    exact ⟨v, ts, hv, hrest⟩
  unfold value at h
  cases t with
  | openArray =>
    obtain rfl := enter_eq_ok h
    obtain ⟨vs, ts₁, rfl, hcloses⟩ := hrest
    exact ⟨.array vs, ts₁, rfl, hcloses⟩
  | openObject =>
    obtain rfl := enter_eq_ok h
    obtain ⟨ms, ts₁, rfl, hcloses⟩ := hrest
    exact ⟨.object ms, ts₁, rfl, hcloses⟩
  | word w =>
    rcases w with e | _ | b
    · cases h
    · cases h
      exact hsingle .null rfl rfl
    · cases h
      exact hsingle (.bool b) rfl rfl
  | number n =>
    cases n with
    | error e => cases h
    | ok n =>
      cases h
      exact hsingle (.number n) rfl rfl
  | string s =>
    cases s with
    | error e => cases h
    | ok s =>
      cases h
      exact hsingle (.string s) rfl rfl
  | _ => cases h

theorem name_completes (h : s.name t = .ok s') (hrest : s'.Completes ts rest) :
    ∃ name v ts₁, t :: ts = .string (.ok name) :: .colon :: (Value.tokens v ++ ts₁) ∧
      Closes s.frames ts₁ rest := by
  unfold name at h
  split at h <;> cases h
  rename_i name
  obtain ⟨v, ts₁, rfl, hcloses⟩ := hrest
  exact ⟨name, v, ts₁, rfl, hcloses⟩

/-- A member whose name and value end the innermost bracket, and the members after it. -/
theorem member_completes {frames : List Frame} {room : Nat} {need : Need}
    (h : name ⟨.object :: frames, room, need⟩ t = .ok s') (hrest : s'.Completes ts rest) :
    ∃ m ms ts₁, t :: ts = memberTokens true (m :: ms) ++ ts₁ ∧ Closes frames ts₁ rest := by
  obtain ⟨name, v, _, hts, ms, ts₁, rfl, hcloses⟩ := name_completes h hrest
  exact ⟨(name, v), ms, ts₁, by simp [hts, memberTokens, separator], hcloses⟩

/-- Every step takes the first token of what ends the value. -/
theorem step_completes (h : s.step t = .ok s') (hrest : s'.Completes ts rest) :
    s.Completes (t :: ts) rest := by
  obtain ⟨frames, room, need⟩ := s
  -- By what must come next, and then by the innermost bracket. It is trivial where these do
  -- not go together.
  cases need with
  | value => exact value_completes h hrest
  | elementOrEnd =>
    rcases frames with _ | ⟨_ | _, frames⟩
    · trivial
    · by_cases ht : t = .closeArray
      · subst ht
        cases h
        exact ⟨[], ts, rfl, hrest⟩
      · have hvalue : value ⟨.array :: frames, room, .elementOrEnd⟩ t = .ok s' := by
          cases t <;> first | exact h | exact absurd rfl ht
        obtain ⟨v, _, hts, vs, ts₁, rfl, hcloses⟩ := value_completes hvalue hrest
        exact ⟨v :: vs, ts₁, by simp [hts, elementTokens, separator], hcloses⟩
    · trivial
  | memberOrEnd =>
    rcases frames with _ | ⟨_ | _, frames⟩
    · trivial
    · trivial
    · by_cases ht : t = .closeObject
      · subst ht
        cases h
        exact ⟨[], ts, rfl, hrest⟩
      · have hname : name ⟨.object :: frames, room, .memberOrEnd⟩ t = .ok s' := by
          cases t <;> first | exact h | exact absurd rfl ht
        obtain ⟨m, ms, ts₁, hts, hcloses⟩ := member_completes hname hrest
        exact ⟨m :: ms, ts₁, hts, hcloses⟩
  | member =>
    rcases frames with _ | ⟨_ | _, frames⟩
    · trivial
    · trivial
    · exact member_completes h hrest
  | colon =>
    cases t with
    | colon =>
      cases h
      obtain ⟨v, ts₁, rfl, hcloses⟩ := hrest
      exact ⟨v, ts₁, rfl, hcloses⟩
    | _ => cases h
  | commaOrEnd =>
    rcases frames with _ | ⟨_ | _, frames⟩
    · cases t <;> cases h
    · cases t with
      | comma =>
        cases h
        obtain ⟨v, _, rfl, vs, ts₁, rfl, hcloses⟩ := hrest
        exact ⟨v :: vs, ts₁, by simp [elementTokens, separator], hcloses⟩
      | closeArray =>
        cases h
        exact ⟨[], ts, rfl, hrest⟩
      | _ => cases h
    · cases t with
      | comma =>
        cases h
        obtain ⟨m, ms, ts₁, rfl, hcloses⟩ := hrest
        exact ⟨m :: ms, ts₁, by simp [memberTokens, separator], hcloses⟩
      | closeObject =>
        cases h
        exact ⟨[], ts, rfl, hrest⟩
      | _ => cases h

theorem completes_of_done (h : s.done = true) : s.Completes ts ts := by
  obtain ⟨frames, room, need⟩ := s
  simp only [done, Bool.and_eq_true, beq_iff_eq] at h
  obtain ⟨rfl, rfl⟩ := h
  rfl

theorem run_completes (h : s.run ts = .ok rest) : s.Completes ts rest := by
  induction ts generalizing s with
  | nil =>
    rw [run] at h
    split at h <;> cases h
    rename_i hdone
    exact completes_of_done hdone
  | cons t ts ih =>
    rw [run] at h
    split at h
    · rename_i hdone
      cases h
      exact completes_of_done hdone
    · split at h
      · rename_i hstep
        exact step_completes hstep (ih h)
      · cases h

end Skipper

theorem skipValue_takesValues (room : Nat) : (skipValue room).TakesValues := by
  intro ts shape rest h
  cases ts with
  | nil => cases h
  | cons t ts =>
    obtain ⟨shape', -, h⟩ := bind_eq_ok.1 h
    obtain ⟨rest', hrun, ⟨⟩⟩ := bind_eq_ok.1 h
    obtain ⟨v, _, hts, rfl⟩ := Skipper.run_completes hrun
    exact ⟨v.tokens, hts, v, rfl⟩

end Cooling.Json

namespace Cooling.Config

open Json Json.Reader

/-! ## Configurations -/

theorem endFan_takesOnly : endFan.TakesOnly fun _ ts => ts = [.closeObject] := by
  intro ts a rest h
  unfold endFan at h
  split at h <;> cases h
  exact ⟨_, rfl, rfl⟩

theorem readFan_takesValues : readFan.TakesValues := by
  have hbody : (do
      let name ← readName
      let kind ← fanKind name
      expectColon
      let path ← readText "path string"
      endFan
      return { kind, path } : Reader FanSpec).TakesOnly fun _ ts =>
        ∃ name path, ts = [.string (.ok name), .colon, .string (.ok path), .closeObject] := by
    refine (readName_takesOnly.bind fun name => (takesOnly_lift (fanKind name)).bind fun kind =>
      expectColon_takesOnly.bind fun _ => (readText_takesOnly "path string").bind fun path =>
        endFan_takesOnly.bind fun _ => takesOnly_pure _).mono ?_
    rintro _ _ ⟨name, _, _, rfl, ⟨_, _, _, rfl, ⟨_, _, _, rfl, ⟨path, _, _, rfl,
      ⟨_, _, _, rfl, ⟨-, rfl⟩, rfl⟩, rfl⟩, rfl⟩, rfl⟩, rfl⟩
    exact ⟨name, path, rfl⟩
  intro ts fan rest h
  unfold readFan at h
  split at h
  · cases h
  · obtain ⟨_, rfl, name, path, rfl⟩ := hbody _ _ _ h
    exact ⟨_, rfl, .object [(name, .string path)], rfl⟩
  · obtain ⟨_, -, ⟨⟩⟩ := bind_eq_ok.1 h
  · cases h
  · cases h

theorem readSensorMember_takesValues : StepTakesValues readSensorMember := by
  intro draft name
  by_cases hname : name = correctionName
  · subst hname
    cases hgiven : draft.correction? with
    | some corrections? =>
      rw [readSensorMember_given hgiven]
      exact takesOnly_throw _
    | none =>
      rw [readSensorMember_correction hgiven]
      exact readSigned32_takesValues.array.nullable.member _
  · rw [readSensorMember_other draft hname]
    exact (skipValue_takesValues room).member _

theorem readSensor_takesValues : readSensor.TakesValues := by
  have hbody := (readMembers_takesOnly readSensorMember_takesValues {}).bind_lift
    SensorDraft.finish
  intro ts spec rest h
  unfold readSensor at h
  split at h
  · obtain ⟨_, rfl, ms, rfl⟩ := hbody _ _ _ h
    exact ⟨_, rfl, .object ms, rfl⟩
  · cases h

theorem Field.read_takesValues (f : Field) : f.read.TakesValues := by
  cases f with
  | fan => exact readFan_takesValues
  | watchdog | pollInterval => exact readWord_takesValues
  | depulse => exact readDouble_takesValues
  | dndDisk => exact readBool_takesValues
  | sensors => exact readSensor_takesValues.array

namespace Draft

theorem readMember_takesValues : StepTakesValues readMember := by
  intro d name
  cases hfield : Field.ofName? name with
  | none =>
    rw [readMember_unknown d hfield]
    exact takesOnly_throw _
  | some f =>
    obtain rfl := Field.ofName?_eq_some.1 hfield
    cases hget : d.get f with
    | some a =>
      rw [readMember_given hget]
      exact takesOnly_throw _
    | none =>
      rw [readMember_fresh hget]
      exact f.read_takesValues.member _

/-- Elements for fields in order. The end of their array is left. -/
theorem readElements_takesOnly (fields : List Field) (first : Bool) (d : Draft) :
    (readElements first fields d).TakesOnly fun _ ts =>
      ∃ vs, elementTokens first vs = ts ++ [.closeArray] := by
  induction fields generalizing first d with
  | nil => exact (takesOnly_pure d).mono fun _ _ h => ⟨[], by rw [h.2]; rfl⟩
  | cons f fields ih =>
    refine ((moreElements_takesOnly first).bind (R := fun more _ ts =>
      if more then ∃ v vs, Value.tokens v ++ elementTokens false vs = ts ++ [.closeArray]
      else ts = []) fun more => ?_).mono ?_
    · cases more with
      | false => exact (takesOnly_pure d).mono fun _ _ h => h.2
      | true =>
        change (d.readField f >>= fun d' => readElements false fields d').TakesOnly _
        rw [readField_eq]
        refine ((f.read_takesValues.map (d.set f)).bind fun d' => ih false d').mono ?_
        rintro _ _ ⟨_, _, _, ⟨_, ⟨v, rfl⟩, -⟩, ⟨vs, hvs⟩, rfl⟩
        exact ⟨v, vs, by rw [hvs, List.append_assoc]⟩
    · rintro _ _ ⟨more, _, _, rfl, hrest, rfl⟩
      cases more with
      | false => exact ⟨[], by rw [hrest]; rfl⟩
      | true =>
        obtain ⟨v, vs, hvs⟩ := hrest
        exact ⟨v :: vs, by simp [elementTokens, hvs]⟩

end Draft

theorem readConfig_takesValues : readConfig.TakesValues := by
  have hobject := (readMembers_takesOnly Draft.readMember_takesValues {}).bind_lift fun draft =>
    draft.finish (missingField Field.fan.name) (missingField Field.sensors.name)
  have harray : (do
      let draft ← Draft.readElements true Field.all {}
      let config ← draft.finish (tooShort 0) (tooShort 5)
      endArray
      return config : Reader Config).TakesOnly fun _ ts => ∃ vs, ts = elementTokens true vs := by
    refine ((Draft.readElements_takesOnly Field.all true {}).bind fun draft =>
      (takesOnly_lift _).bind fun config =>
        endArray_takesOnly.bind fun _ => takesOnly_pure _).mono ?_
    rintro _ _ ⟨_, _, _, ⟨vs, hvs⟩, ⟨_, _, _, rfl, ⟨_, _, _, rfl, ⟨-, rfl⟩, rfl⟩, rfl⟩, rfl⟩
    exact ⟨vs, by simp [hvs]⟩
  intro ts c rest h
  unfold readConfig at h
  split at h
  · obtain ⟨_, rfl, ms, rfl⟩ := hobject _ _ _ h
    exact ⟨_, rfl, .object ms, rfl⟩
  · obtain ⟨_, rfl, vs, rfl⟩ := harray _ _ _ h
    exact ⟨_, rfl, .array vs, rfl⟩
  · cases h

/-- Nothing but a JSON document describes a configuration. -/
theorem exists_document {text : String} {c : Config} (h : ofDocument text = .ok c) :
    ∃ v, Document text v := by
  obtain ⟨⟨c', rest⟩, hread, hend⟩ := bind_eq_ok.1 h
  obtain ⟨_, htokens, v, rfl⟩ := readConfig_takesValues _ _ _ hread
  dsimp only at hend
  split at hend
  · rename_i hempty
    rw [List.isEmpty_iff.1 hempty, List.append_nil] at htokens
    exact ⟨v, document_iff.2 htokens⟩
  · cases hend

end Cooling.Config
