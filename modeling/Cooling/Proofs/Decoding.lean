-- SUMMARY: What the readers make of a JSON value: which values each of them takes, and what it gives for them.
import Cooling.Proofs.JsonText

/-!
# Decoding JSON values

`read.Takes ts S` says what a reader makes of tokens, whatever follows them: it gives `a`
just if `S a` holds, and then it has taken these tokens and no other. `read.Decodes S`
says so of the tokens of every value. What a reader takes follows from what its parts
take, so there is one rule for each way in which readers are put together.
-/

namespace Cooling.Json

variable {α β σ : Type}

/-! ## What a reader takes -/

namespace Reader

theorem bind_apply (x : Reader α) (f : α → Reader β) (ts : List Token) :
    (x >>= f) ts = x ts >>= fun r => f r.1 r.2 := rfl

@[simp] theorem pure_apply (a : α) (ts : List Token) : (pure a : Reader α) ts = .ok (a, ts) := rfl

/-- On the tokens the reader gives just what the predicate says, and takes nothing that
    follows them. -/
def Takes (x : Reader α) (ts : List Token) (S : α → Prop) : Prop :=
  ∀ rest a ts', x (ts ++ rest) = .ok (a, ts') ↔ S a ∧ rest = ts'

variable {x y : Reader α} {ts ts₁ : List Token} {S S₁ : α → Prop}

theorem Takes.congr (h : x.Takes ts S) (hS : ∀ a, S a ↔ S₁ a) : x.Takes ts S₁ := by
  intro rest a ts'
  rw [h rest a ts', hS]

theorem takes_of_eq (hx : ∀ rest, x (ts ++ rest) = y (ts₁ ++ rest)) (hy : y.Takes ts₁ S) :
    x.Takes ts S := by
  intro rest a ts'
  rw [hx, hy rest a ts']

theorem takes_of_error (h : ∀ rest, ∃ e, x (ts ++ rest) = .error e) (hS : ∀ a, ¬ S a) :
    x.Takes ts S := by
  intro rest a ts'
  obtain ⟨e, he⟩ := h rest
  simp [he, hS]

theorem takes_pure (a : α) : (pure a : Reader α).Takes [] (a = ·) := by
  intro rest b ts'
  simp

theorem Takes.bind {f : α → Reader β} {T : α → β → Prop} (hx : x.Takes ts S)
    (hf : ∀ a, S a → (f a).Takes ts₁ (T a)) :
    (x >>= f).Takes (ts ++ ts₁) fun b => ∃ a, S a ∧ T a b := by
  intro rest b ts'
  rw [List.append_assoc, bind_apply, bind_eq_ok]
  constructor
  · rintro ⟨⟨a, ts₂⟩, hfirst, hthen⟩
    obtain ⟨ha, rfl⟩ := (hx _ _ _).1 hfirst
    obtain ⟨hb, rfl⟩ := (hf a ha _ _ _).1 hthen
    exact ⟨⟨a, ha, hb⟩, rfl⟩
  · rintro ⟨⟨a, ha, hb⟩, rfl⟩
    exact ⟨(a, ts₁ ++ rest), (hx _ _ _).2 ⟨ha, rfl⟩, (hf a ha _ _ _).2 ⟨hb, rfl⟩⟩

theorem Takes.map (f : α → β) (hx : x.Takes ts S) :
    (f <$> x).Takes ts fun b => ∃ a, S a ∧ f a = b := by
  have h := hx.bind fun a _ => takes_pure (f a)
  rwa [List.append_nil, ← map_eq_pure_bind] at h

theorem takes_lift (x : Except Error α) : (liftM x : Reader α).Takes [] (x = .ok ·) := by
  intro rest a ts'
  cases x with
  | ok b =>
    have hlift : (liftM (.ok b : Except Error α) : Reader α) rest = .ok (b, rest) := rfl
    simp [hlift]
  | error e =>
    have hlift : (liftM (.error e : Except Error α) : Reader α) rest = .error e := rfl
    simp [hlift]

theorem expectColon_takes : expectColon.Takes [.colon] fun _ => True := by
  intro rest a ts'
  simp [expectColon]

/-- The reader gives just what the relation says of a value, and takes its tokens only. -/
def Decodes (read : Reader α) (S : Value → α → Prop) : Prop :=
  ∀ v, read.Takes v.tokens (S v)

end Reader

open Reader

/-! ## Single values -/

theorem readWord_decodes :
    readWord.Decodes fun v a => ∃ n, v = .number (.natural n) ∧ UInt64.ofNat n = a := by
  intro v ts a ts'
  cases v with
  | number n => cases n <;> simp [Value.tokens, readWord]
  | _ => simp [Value.tokens, readWord]

/-- The value of a whole number. -/
def Number.whole? : Number → Option Int
  | natural n => some n
  | negative n => some (-n)
  | float _ => none

theorem ofInt_eq_iff {n : Int} {a : Int32} (h : Text.fits32 n = true) :
    Int32.ofInt n = a ↔ n = a.toInt := by
  obtain ⟨hlow, hhigh⟩ := Text.fits32_iff.1 h
  constructor
  · rintro rfl
    exact (Int32.toInt_ofInt_of_le hlow (by omega)).symm
  · rintro rfl
    exact Int32.ofInt_toInt a

theorem readSigned32_decodes :
    readSigned32.Decodes fun v a => ∃ n, v = .number n ∧ n.whole? = some a.toInt := by
  intro v ts a ts'
  have hlow := a.le_toInt
  have hhigh := a.toInt_lt
  cases v with
  | number n =>
    cases n with
    | natural n =>
      by_cases hn : n ≤ 2147483647
      · have hfits : Text.fits32 n = true := Text.fits32_iff.2 ⟨by omega, by omega⟩
        simp [Value.tokens, readSigned32, Number.whole?, hn, ofInt_eq_iff hfits]
      · have hne : (n : Int) ≠ a.toInt := by omega
        simp [Value.tokens, readSigned32, Number.whole?, hn, hne]
    | negative n =>
      by_cases hn : n ≤ 2147483648
      · have hfits : Text.fits32 (-n) = true := Text.fits32_iff.2 ⟨by omega, by omega⟩
        simp [Value.tokens, readSigned32, Number.whole?, hn, ofInt_eq_iff hfits, -Int32.ofInt_neg]
      · have hne : -(n : Int) ≠ a.toInt := by omega
        simp [Value.tokens, readSigned32, Number.whole?, hn, hne]
    | float x => simp [Value.tokens, readSigned32, Number.whole?]
  | _ => simp [Value.tokens, readSigned32]

theorem readDouble_decodes :
    readDouble.Decodes fun v a => ∃ n, v = .number n ∧ n.toBinary64 = a := by
  intro v ts a ts'
  cases v with
  | number n => simp [Value.tokens, readDouble]
  | _ => simp [Value.tokens, readDouble]

theorem readBool_decodes : readBool.Decodes fun v a => v = .bool a := by
  intro v ts a ts'
  cases v with
  | bool b => simp [Value.tokens, readBool]
  | _ => simp [Value.tokens, readBool]

theorem readText_decodes (wanted : String) :
    (readText wanted).Decodes fun v a => v = .string a := by
  intro v ts a ts'
  cases v with
  | string s => simp [Value.tokens, readText]
  | _ => simp [Value.tokens, readText]

variable {read : Reader α} {S : Value → α → Prop}

/-- Null gives nothing, and any other value what the reader makes of it. -/
theorem Reader.Decodes.nullable (h : read.Decodes S) (hnull : ∀ a, ¬ S .null a) :
    (readNullable read).Decodes fun v a? => (v = .null ∧ a? = none) ∨ ∃ a, S v a ∧ some a = a? := by
  intro v
  by_cases hv : v = .null
  · subst hv
    intro ts a? ts'
    simp [Value.tokens, readNullable, hnull, eq_comm]
  · have hmap : ∀ rest,
        readNullable read (v.tokens ++ rest) = (some <$> read) (v.tokens ++ rest) := by
      intro rest
      cases v with
      | null => exact absurd rfl hv
      | _ => rfl
    exact takes_of_eq hmap (((h v).map some).congr fun a? => by simp [hv])

/-! ## Arrays -/

theorem length_le_elementTokens (first : Bool) (vs : List Value) :
    vs.length ≤ (elementTokens first vs).length := by
  induction vs generalizing first with
  | nil => exact Nat.zero_le _
  | cons v vs ih =>
    have hv : 0 < v.tokens.length := by cases v <;> simp [Value.tokens]
    have := ih false
    simp only [elementTokens, List.length_append, List.length_cons]
    omega

theorem elementsUpTo_takes (h : read.Decodes S) {vs : List Value} {n : Nat} (first : Bool)
    (hn : vs.length < n) :
    (elementsUpTo read n first).Takes (elementTokens first vs) (List.Forall₂ S vs) := by
  induction vs generalizing n first with
  | nil =>
    obtain ⟨n, rfl⟩ := Nat.exists_eq_add_one_of_ne_zero (Nat.ne_of_gt hn)
    have hend : ∀ rest, elementsUpTo read (n + 1) first ([.closeArray] ++ rest) =
        (pure [] : Reader (List α)) ([] ++ rest) := fun rest => rfl
    exact takes_of_eq hend ((takes_pure []).congr fun as => by simp [eq_comm])
  | cons v vs ih =>
    obtain ⟨n, rfl⟩ := Nat.exists_eq_add_one_of_ne_zero (Nat.ne_of_gt (Nat.zero_lt_of_lt hn))
    -- The first token of a value is neither a comma nor the end of the array.
    have hmore : ∀ rest, elementsUpTo read (n + 1) first (elementTokens first (v :: vs) ++ rest) =
        (do let a ← read; (a :: ·) <$> elementsUpTo read n false : Reader (List α))
          (v.tokens ++ elementTokens false vs ++ rest) := by
      intro rest
      rw [elementTokens]
      cases first <;> cases v <;> rfl
    have hrest := ih false (Nat.lt_of_succ_lt_succ hn)
    refine takes_of_eq hmore (((h v).bind fun a _ => hrest.map (a :: ·)).congr fun as => ?_)
    cases as <;> simp [eq_comm]

/-- An array gives what its elements give. -/
theorem Reader.Decodes.array (h : read.Decodes S) :
    (readArray read).Decodes fun v as => ∃ vs, v = .array vs ∧ List.Forall₂ S vs as := by
  intro v ts as ts'
  cases v with
  | array vs =>
    have hlt : vs.length < (elementTokens true vs ++ ts).length + 1 := by
      have hle := length_le_elementTokens true vs
      simp only [List.length_append]
      omega
    simpa [Value.tokens, readArray] using elementsUpTo_takes h true hlt ts as ts'
  | _ => simp [Value.tokens, readArray]

/-! ## Objects -/

/-- The members lead from what was gathered before them to what is gathered after them, one
    step for each. -/
def Gathers (step : σ → String → Value → σ → Prop) : σ → List (String × Value) → σ → Prop
  | g, [], g' => g = g'
  | g, (name, v) :: ms, g' => ∃ g₁, step g name v g₁ ∧ Gathers step g₁ ms g'

theorem length_le_memberTokens (first : Bool) (ms : List (String × Value)) :
    ms.length ≤ (memberTokens first ms).length := by
  induction ms generalizing first with
  | nil => exact Nat.zero_le _
  | cons m ms ih =>
    have := ih false
    simp only [memberTokens, List.length_append, List.length_cons]
    omega

/-- The step of a reader of members, on the name and the value of one. -/
def StepDecodes (step : σ → String → Reader σ) (S : σ → String → Value → σ → Prop) : Prop :=
  ∀ g name v, (step g name).Takes (.colon :: v.tokens) (S g name v)

variable {step : σ → String → Reader σ} {T : σ → String → Value → σ → Prop}

theorem membersUpTo_takes (h : StepDecodes step T) {ms : List (String × Value)} {n : Nat}
    (first : Bool) (hn : ms.length < n) (g : σ) :
    (membersUpTo step n first g).Takes (memberTokens first ms) (Gathers T g ms) := by
  induction ms generalizing n first g with
  | nil =>
    obtain ⟨n, rfl⟩ := Nat.exists_eq_add_one_of_ne_zero (Nat.ne_of_gt hn)
    have hend : ∀ rest, membersUpTo step (n + 1) first g ([.closeObject] ++ rest) =
        (pure g : Reader σ) ([] ++ rest) := fun rest => rfl
    exact takes_of_eq hend (takes_pure g)
  | cons m ms ih =>
    obtain ⟨name, v⟩ := m
    obtain ⟨n, rfl⟩ := Nat.exists_eq_add_one_of_ne_zero (Nat.ne_of_gt (Nat.zero_lt_of_lt hn))
    have hname : ∀ rest, membersUpTo step (n + 1) first g
          (memberTokens first ((name, v) :: ms) ++ rest) =
        (do let g₁ ← step g name; membersUpTo step n false g₁ : Reader σ)
          (.colon :: v.tokens ++ memberTokens false ms ++ rest) := by
      intro rest
      have htokens : memberTokens first ((name, v) :: ms) = separator first ++
          (.string (.ok name) :: (.colon :: v.tokens ++ memberTokens false ms)) := rfl
      rw [htokens]
      cases first <;> rfl
    have hrest := fun g₁ => ih false (Nat.lt_of_succ_lt_succ hn) g₁
    exact takes_of_eq hname ((h g name v).bind fun g₁ _ => hrest g₁)

/-- The members of an object, once its brace has been taken. -/
theorem readMembers_takes (h : StepDecodes step T) (ms : List (String × Value)) (g : σ) :
    (readMembers step g).Takes (memberTokens true ms) (Gathers T g ms) := by
  intro rest g' ts'
  have hlt : ms.length < (memberTokens true ms ++ rest).length + 1 := by
    have hle := length_le_memberTokens true ms
    simp only [List.length_append]
    omega
  exact membersUpTo_takes h true hlt g rest g' ts'

/-! ## Skipping -/

namespace Value

def shape : Value → Shape
  | null => .null
  | bool b => .bool b
  | number n => .number n
  | string s => .string s
  | array _ => .array
  | object _ => .object

mutual
/-- How deep brackets are nested in a value. -/
def depth : Value → Nat
  | .array vs => elementsDepth vs + 1
  | .object ms => membersDepth ms + 1
  | _ => 0

/-- How deep brackets are nested in the elements of an array. -/
def elementsDepth : List Value → Nat
  | [] => 0
  | v :: vs => max v.depth (elementsDepth vs)

/-- How deep brackets are nested in the members of an object. -/
def membersDepth : List (String × Value) → Nat
  | [] => 0
  | (_, v) :: ms => max v.depth (membersDepth ms)
end

end Value

namespace Skipper

/-- What an element of an array, or its end, is met with. -/
def elementNeed : (first : Bool) → Need
  | true => .elementOrEnd
  | false => .commaOrEnd

/-- What a member of an object, or its end, is met with. -/
def memberNeed : (first : Bool) → Need
  | true => .memberOrEnd
  | false => .commaOrEnd

theorem run_cons {s s' : Skipper} {t : Token} (hdone : s.done = false) (hstep : s.step t = .ok s')
    (ts : List Token) : s.run (t :: ts) = s'.run ts := by
  simp [run, hdone, hstep]

theorem run_enter {s : Skipper} {t : Token} {frame : Frame} {need : Need} (hdone : s.done = false)
    (hstep : s.step t = s.enter frame need) (ts rest : List Token) :
    s.run (t :: ts) = .ok rest ↔
      1 < s.room ∧ run ⟨frame :: s.frames, s.room - 1, need⟩ ts = .ok rest := by
  by_cases hroom : s.room ≤ 1
  · simp [run, hdone, hstep, enter, hroom, Nat.not_lt.2 hroom]
  · simp [run, hdone, hstep, enter, hroom, Nat.lt_of_not_le hroom]

theorem run_separator_element (first : Bool) (frames : List Frame) (room : Nat) (v : Value)
    (ts : List Token) :
    run ⟨.array :: frames, room, elementNeed first⟩ (separator first ++ (v.tokens ++ ts)) =
      run ⟨.array :: frames, room, .value⟩ (v.tokens ++ ts) := by
  cases first with
  | true => cases v <;> rfl
  | false => rfl

theorem run_separator_name (first : Bool) (frames : List Frame) (room : Nat) (name : String)
    (ts : List Token) :
    run ⟨.object :: frames, room, memberNeed first⟩
        (separator first ++ (.string (.ok name) :: .colon :: ts)) =
      run ⟨.object :: frames, room, .value⟩ ts := by
  cases first <;> rfl

/-- A bracket takes one of the room, and leaves what its contents may take. -/
theorem enter_iff {room depth : Nat} {inside after : Prop}
    (h : 0 < room → (inside ↔ depth < room ∧ after)) :
    1 < room + 1 ∧ inside ↔ depth + 1 < room + 1 ∧ after := by
  constructor
  · rintro ⟨hroom, hinside⟩
    obtain ⟨hdepth, hafter⟩ := (h (Nat.lt_of_succ_lt_succ hroom)).1 hinside
    exact ⟨Nat.succ_lt_succ hdepth, hafter⟩
  · rintro ⟨hdepth, hafter⟩
    have hdepth := Nat.lt_of_succ_lt_succ hdepth
    have hroom := Nat.zero_lt_of_lt hdepth
    exact ⟨Nat.succ_lt_succ hroom, (h hroom).2 ⟨hdepth, hafter⟩⟩

mutual
/-- A value is skipped unless brackets are nested too deep in it. -/
theorem run_value (v : Value) (frames : List Frame) (room : Nat) (ts rest : List Token) :
    run ⟨frames, room + 1, .value⟩ (v.tokens ++ ts) = .ok rest ↔
      v.depth < room + 1 ∧ run ⟨frames, room + 1, .commaOrEnd⟩ ts = .ok rest := by
  have hdone : done ⟨frames, room + 1, .value⟩ = false := by simp [done]
  cases v with
  | array vs =>
    refine (run_enter hdone rfl _ _).trans (enter_iff fun hroom => ?_)
    obtain ⟨room, rfl⟩ := Nat.exists_eq_add_one_of_ne_zero (Nat.ne_of_gt hroom)
    exact run_elements true vs frames room ts rest
  | object ms =>
    refine (run_enter hdone rfl _ _).trans (enter_iff fun hroom => ?_)
    obtain ⟨room, rfl⟩ := Nat.exists_eq_add_one_of_ne_zero (Nat.ne_of_gt hroom)
    exact run_members true ms frames room ts rest
  | _ =>
    rw [Value.tokens, List.singleton_append, run_cons hdone rfl]
    simp [Value.depth]

theorem run_elements (first : Bool) (vs : List Value) (frames : List Frame) (room : Nat)
    (ts rest : List Token) :
    run ⟨.array :: frames, room + 1, elementNeed first⟩ (elementTokens first vs ++ ts) = .ok rest ↔
      Value.elementsDepth vs < room + 1 ∧
        run ⟨frames, room + 2, .commaOrEnd⟩ ts = .ok rest := by
  cases vs with
  | nil =>
    have hend : run ⟨.array :: frames, room + 1, elementNeed first⟩
        (elementTokens first [] ++ ts) = run ⟨frames, room + 2, .commaOrEnd⟩ ts := by
      cases first <;> rfl
    simp [hend, Value.elementsDepth]
  | cons v vs =>
    have hrest := run_elements false vs frames room ts rest
    rw [elementTokens, List.append_assoc, List.append_assoc, run_separator_element,
      run_value v (.array :: frames) room]
    refine (and_congr_right fun _ => hrest).trans ?_
    rw [← and_assoc, Value.elementsDepth, Nat.max_lt]

theorem run_members (first : Bool) (ms : List (String × Value)) (frames : List Frame) (room : Nat)
    (ts rest : List Token) :
    run ⟨.object :: frames, room + 1, memberNeed first⟩ (memberTokens first ms ++ ts) = .ok rest ↔
      Value.membersDepth ms < room + 1 ∧
        run ⟨frames, room + 2, .commaOrEnd⟩ ts = .ok rest := by
  cases ms with
  | nil =>
    have hend : run ⟨.object :: frames, room + 1, memberNeed first⟩
        (memberTokens first [] ++ ts) = run ⟨frames, room + 2, .commaOrEnd⟩ ts := by
      cases first <;> rfl
    simp [hend, Value.membersDepth]
  | cons m ms =>
    obtain ⟨name, v⟩ := m
    have hrest := run_members false ms frames room ts rest
    rw [memberTokens, List.append_assoc]
    simp only [List.cons_append, List.append_assoc]
    rw [run_separator_name, run_value v (.object :: frames) room]
    refine (and_congr_right fun _ => hrest).trans ?_
    rw [← and_assoc, Value.membersDepth, Nat.max_lt]
end

end Skipper

/-- A value that is skipped must not be too deep, and its shape is told. -/
theorem skipValue_decodes (room : Nat) :
    (skipValue (room + 1)).Decodes fun v shape => v.depth < room + 1 ∧ v.shape = shape := by
  intro v ts shape ts'
  have hskip : skipValue (room + 1) (v.tokens ++ ts) =
      (Skipper.run ⟨[], room + 1, .value⟩ (v.tokens ++ ts)).map fun rest => (v.shape, rest) := by
    cases v <;> rfl
  have hdone : Skipper.run ⟨[], room + 1, .commaOrEnd⟩ ts = .ok ts := by
    cases ts <;> rfl
  rw [hskip, map_eq_ok]
  simp only [Skipper.run_value v [] room ts, hdone]
  simp [eq_comm, and_assoc]

end Cooling.Json
