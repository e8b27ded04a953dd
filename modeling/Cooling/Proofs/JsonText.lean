-- SUMMARY: JSON values, the texts that a value may have, and the tokens that such a text is cut into.
import Mathlib.Data.List.Forall2
import Cooling.Json.Reader

/-!
# JSON texts

`Document text v` says that a text is a JSON document of a value, after the grammar of
JSON: white space may stand between tokens, and a string or a number may be spelt in
more than one way. Numbers are told apart only as far as the readers do, and a number
that is too great for a double, or half a character in a string, has no value here: no
reader takes one.

A document is cut into just the tokens of its value.
-/

namespace Cooling.Json

/-! ## Results -/

theorem bind_eq_ok {ε α β : Type} {x : Except ε α} {f : α → Except ε β} {b : β} :
    x >>= f = .ok b ↔ ∃ a, x = .ok a ∧ f a = .ok b := by
  cases x <;> simp [bind, Except.bind]

theorem map_eq_ok {ε α β : Type} {x : Except ε α} {f : α → β} {b : β} :
    x.map f = .ok b ↔ ∃ a, x = .ok a ∧ f a = b := by
  cases x <;> simp [Except.map]

/-! ## Values -/

/-- A JSON value. The members of an object keep their order, and a name may come again. -/
inductive Value where
  | null
  | bool (b : Bool)
  | number (n : Number)
  | string (s : String)
  | array (elements : List Value)
  | object (members : List (String × Value))

/-- What stands before an element or a member. -/
def separator : (first : Bool) → List Token
  | true => []
  | false => [.comma]

mutual
/-- The tokens of a value. -/
def Value.tokens : Value → List Token
  | .null => [.word (.ok .null)]
  | .bool b => [.word (.ok (.bool b))]
  | .number n => [.number (.ok n)]
  | .string s => [.string (.ok s)]
  | .array vs => .openArray :: elementTokens true vs
  | .object ms => .openObject :: memberTokens true ms

/-- The tokens of elements, up to the end of their array. -/
def elementTokens (first : Bool) : List Value → List Token
  | [] => [.closeArray]
  | v :: vs => separator first ++ (v.tokens ++ elementTokens false vs)

/-- The tokens of members, up to the end of their object. -/
def memberTokens (first : Bool) : List (String × Value) → List Token
  | [] => [.closeObject]
  | (name, v) :: ms =>
    separator first ++ (.string (.ok name) :: .colon :: (v.tokens ++ memberTokens false ms))
end

/-! ## Numbers -/

/-- The characters are the digits, one for each. -/
def DigitsSpelt (ds : List Nat) (cs : List Char) : Prop :=
  ds ≠ [] ∧ List.Forall₂ (fun d c => Text.digit? c = some d) ds cs

/-- The digits before the point. No zero stands before another digit. -/
def WholeSpelt (ds : List Nat) (cs : List Char) : Prop :=
  DigitsSpelt ds cs ∧ (ds.head? = some 0 → ds.length = 1)

inductive FractionSpelt : List Nat → List Char → Prop
  | absent : FractionSpelt [] []
  | present {ds cs} (h : DigitsSpelt ds cs) : FractionSpelt ds ('.' :: cs)

/-- The sign of an exponent, and whether it is a minus. -/
inductive SignSpelt : Bool → List Char → Prop
  | absent : SignSpelt false []
  | plus : SignSpelt false ['+']
  | minus : SignSpelt true ['-']

inductive ExponentSpelt : Option (Bool × List Nat) → List Char → Prop
  | absent : ExponentSpelt none []
  | present {mark down sign ds cs} (hmark : mark = 'e' ∨ mark = 'E') (hsign : SignSpelt down sign)
      (h : DigitsSpelt ds cs) : ExponentSpelt (some (down, ds)) (mark :: (sign ++ cs))

/-- The parts of a number after its sign. -/
inductive Parts.Spelt : Parts → List Char → Prop
  | intro {whole fraction exponent? w f e} (hwhole : WholeSpelt whole w)
      (hfraction : FractionSpelt fraction f) (hexponent : ExponentSpelt exponent? e) :
      Parts.Spelt { whole, fraction, exponent? } (w ++ (f ++ e))

inductive Number.Spelt : Number → List Char → Prop
  | positive {p : Parts} {n cs} (h : p.Spelt cs) (hvalue : p.value false = some n) :
      Number.Spelt n cs
  | minus {p : Parts} {n cs} (h : p.Spelt cs) (hvalue : p.value true = some n) :
      Number.Spelt n ('-' :: cs)

/-- A number ends here: what follows does not belong to it. -/
def EndsNumber (rest : List Char) : Prop :=
  ∀ c ∈ rest.head?, Text.digit? c = none ∧ c ≠ '.' ∧ c ≠ 'e' ∧ c ≠ 'E'

/-! ## Strings -/

/-- The letters of short escapes, and what they stand for. -/
def shortEscapes : List (Char × Char) :=
  [('"', '"'), ('\\', '\\'), ('/', '/'), ('b', '\x08'), ('f', '\x0c'), ('n', '\n'), ('r', '\r'),
    ('t', '\t')]

/-- How a character of a string may be spelt. One outside the first 65536 takes two numbers,
    each with ten of its binary digits. -/
inductive CharSpelt : Char → List Char → Prop
  | plain {c} (hquote : c ≠ '"') (hbackslash : c ≠ '\\') (hcontrol : 32 ≤ c.toNat) : CharSpelt c [c]
  | short {letter c} (h : (letter, c) ∈ shortEscapes) : CharSpelt c ['\\', letter]
  | numbered {c x₁ x₂ x₃ x₄} (h : fourDigits? x₁ x₂ x₃ x₄ = some c.toNat) :
      CharSpelt c ['\\', 'u', x₁, x₂, x₃, x₄]
  | pair {high low x₁ x₂ x₃ x₄ y₁ y₂ y₃ y₄} (hhigh : fourDigits? x₁ x₂ x₃ x₄ = some high)
      (hlow : fourDigits? y₁ y₂ y₃ y₄ = some low) (hfirst : 0xD800 ≤ high ∧ high ≤ 0xDBFF)
      (hsecond : 0xDC00 ≤ low ∧ low ≤ 0xDFFF) :
      CharSpelt (Char.ofNat ((high - 0xD800) * 1024 + (low - 0xDC00) + 0x10000))
        ['\\', 'u', x₁, x₂, x₃, x₄, '\\', 'u', y₁, y₂, y₃, y₄]

/-- The characters of a string, between its quotes. -/
inductive CharsSpelt : List Char → List Char → Prop
  | nil : CharsSpelt [] []
  | cons {c ds text cs} (hchar : CharSpelt c text) (h : CharsSpelt ds cs) :
      CharsSpelt (c :: ds) (text ++ cs)

/-! ## Documents -/

inductive Token.Spelt : Token → List Char → Prop
  | openObject : Token.Spelt .openObject ['\x7b']
  | closeObject : Token.Spelt .closeObject ['\x7d']
  | openArray : Token.Spelt .openArray ['[']
  | closeArray : Token.Spelt .closeArray [']']
  | colon : Token.Spelt .colon [':']
  | comma : Token.Spelt .comma [',']
  | null : Token.Spelt (.word (.ok .null)) ['n', 'u', 'l', 'l']
  | true : Token.Spelt (.word (.ok (.bool true))) ['t', 'r', 'u', 'e']
  | false : Token.Spelt (.word (.ok (.bool false))) ['f', 'a', 'l', 's', 'e']
  | number {n cs} (h : n.Spelt cs) : Token.Spelt (.number (.ok n)) cs
  | string {s cs} (h : CharsSpelt s.toList cs) :
      Token.Spelt (.string (.ok s)) ('"' :: (cs ++ ['"']))

/-- A text of tokens, with white space between them. -/
inductive Lexes : List Token → List Char → Prop
  | nil : Lexes [] []
  | space {c ts cs} (hspace : isSpace c = true) (h : Lexes ts cs) : Lexes ts (c :: cs)
  | token {t ts text cs} (htoken : t.Spelt text) (h : Lexes ts cs)
      (hnumber : ∀ n, t = .number n → EndsNumber cs) : Lexes (t :: ts) (text ++ cs)

/-- The text is a JSON document of the value. -/
def Document (text : String) (v : Value) : Prop := Lexes v.tokens text.toList

/-! ## Reading numbers -/

variable {ds : List Nat} {cs rest : List Char}

/-- No digit comes next. -/
def EndsDigits (rest : List Char) : Prop := ∀ c ∈ rest.head?, Text.digit? c = none

theorem EndsNumber.endsDigits (h : EndsNumber rest) : EndsDigits rest := fun c hc => (h c hc).1

theorem spanDigits_append (h : List.Forall₂ (fun d c => Text.digit? c = some d) ds cs)
    (hrest : EndsDigits rest) : spanDigits (cs ++ rest) = (ds, rest) := by
  induction h with
  | nil =>
    cases rest with
    | nil => rfl
    | cons c rest => simp [spanDigits, hrest c (by simp)]
  | cons hd _ ih => simp [spanDigits, hd, ih]

theorem someDigits_append (h : DigitsSpelt ds cs) (hrest : EndsDigits rest) :
    someDigits (cs ++ rest) = .ok (ds, rest) := by
  obtain ⟨hne, hds⟩ := h
  rw [someDigits, spanDigits_append hds hrest]
  cases ds with
  | nil => exact absurd rfl hne
  | cons d ds => rfl

theorem wholeDigits_append (h : WholeSpelt ds cs) (hrest : EndsDigits rest) :
    wholeDigits (cs ++ rest) = .ok (ds, rest) := by
  obtain ⟨hds, hzero⟩ := h
  simp only [wholeDigits, someDigits_append hds hrest]
  match ds with
  | [] | [0] | [_ + 1] | (_ + 1) :: _ :: _ => rfl
  | 0 :: _ :: _ => simp at hzero

theorem fractionDigits_append (h : FractionSpelt ds cs) (hrest : EndsDigits rest)
    (hpoint : rest.head? ≠ some '.') : fractionDigits (cs ++ rest) = .ok (ds, rest) := by
  cases h with
  | absent =>
    cases rest with
    | nil => rfl
    | cons c rest =>
      have hc : c ≠ '.' := by simpa using hpoint
      simp [fractionDigits, hc]
  | present h => exact someDigits_append h hrest

theorem exponentDigits_append {down : Bool} {sign : List Char} (hsign : SignSpelt down sign)
    (h : DigitsSpelt ds cs) (hrest : EndsDigits rest) :
    exponentDigits (sign ++ (cs ++ rest)) = .ok ((down, ds), rest) := by
  cases hsign with
  | absent =>
    obtain ⟨hne, hds⟩ := h
    cases hds with
    | nil => exact absurd rfl hne
    | @cons d c ds cs hd hds =>
      have hplus : c ≠ '+' := by rintro rfl; cases hd
      have hminus : c ≠ '-' := by rintro rfl; cases hd
      have hsome := someDigits_append ⟨hne, .cons hd hds⟩ hrest
      simp only [List.nil_append, List.cons_append] at hsome ⊢
      simp [exponentDigits, hplus, hminus, hsome, Except.map]
  | plus | minus => simp [exponentDigits, someDigits_append h hrest, Except.map]

theorem exponentPart_append {exponent? : Option (Bool × List Nat)}
    (h : ExponentSpelt exponent? cs) (hrest : EndsNumber rest) :
    exponentPart (cs ++ rest) = .ok (exponent?, rest) := by
  cases h with
  | absent =>
    cases rest with
    | nil => rfl
    | cons c rest =>
      obtain ⟨-, -, he, hE⟩ := hrest c rfl
      simp [exponentPart, he, hE]
  | present hmark hsign h =>
    have hdigits := exponentDigits_append hsign h hrest.endsDigits
    simp [exponentPart, hmark, hdigits, Except.map]

/-- The parts of a number are read as they are spelt. -/
theorem readNumber_append {p : Parts} {negative : Bool} {n : Number} (h : p.Spelt cs)
    (hvalue : p.value negative = some n) (hrest : EndsNumber rest) :
    readNumber negative (cs ++ rest) = .ok (n, rest) := by
  obtain ⟨hwhole, hfraction, hexponent⟩ := h
  rename_i w f e
  have hexponentHead : EndsDigits (e ++ rest) ∧ (e ++ rest).head? ≠ some '.' := by
    cases hexponent with
    | absent => exact ⟨hrest.endsDigits, fun h => (hrest _ h).2.1 rfl⟩
    | present hmark => rcases hmark with rfl | rfl <;> simp [EndsDigits, Text.digit?]
  have hfractionHead : EndsDigits (f ++ (e ++ rest)) := by
    cases hfraction with
    | absent => exact hexponentHead.1
    | present => simp [EndsDigits, Text.digit?]
  simp only [readNumber, List.append_assoc, wholeDigits_append hwhole hfractionHead,
    fractionDigits_append hfraction hexponentHead.1 hexponentHead.2,
    exponentPart_append hexponent hrest, bind, Except.bind, hvalue]

/-! What is read of a number is spelt as the grammar wants it. -/

theorem spanDigits_spelt (h : spanDigits cs = (ds, rest)) :
    ∃ text, cs = text ++ rest ∧ List.Forall₂ (fun d c => Text.digit? c = some d) ds text ∧
      EndsDigits rest := by
  induction cs generalizing ds with
  | nil =>
    obtain ⟨rfl, rfl⟩ := Prod.mk.inj h
    exact ⟨[], rfl, .nil, nofun⟩
  | cons c cs ih =>
    rw [spanDigits] at h
    split at h
    · rename_i d hd
      obtain ⟨rfl, rfl⟩ := Prod.mk.inj h
      obtain ⟨text, hcs, htext, hends⟩ := ih rfl
      exact ⟨c :: text, congrArg (c :: ·) hcs, .cons hd htext, hends⟩
    · rename_i hd
      obtain ⟨rfl, rfl⟩ := Prod.mk.inj h
      exact ⟨[], rfl, .nil, by simpa [EndsDigits] using hd⟩

theorem someDigits_spelt (h : someDigits cs = .ok (ds, rest)) :
    ∃ text, cs = text ++ rest ∧ DigitsSpelt ds text ∧ EndsDigits rest := by
  obtain ⟨ds', rest', hspan⟩ : ∃ ds' rest', spanDigits cs = (ds', rest') := ⟨_, _, rfl⟩
  rw [someDigits, hspan] at h
  cases ds' with
  | nil => cases rest' <;> cases h
  | cons d ds' =>
    cases h
    obtain ⟨text, hcs, htext, hends⟩ := spanDigits_spelt hspan
    exact ⟨text, hcs, ⟨nofun, htext⟩, hends⟩

theorem wholeDigits_spelt (h : wholeDigits cs = .ok (ds, rest)) :
    ∃ text, cs = text ++ rest ∧ WholeSpelt ds text ∧ EndsDigits rest := by
  obtain ⟨⟨ds', rest'⟩, hsome, hrest⟩ := bind_eq_ok.1 h
  obtain ⟨text, hcs, htext, hends⟩ := someDigits_spelt hsome
  dsimp only at hrest
  split at hrest
  · cases hrest
  · rename_i hzero
    cases hrest
    refine ⟨text, hcs, ⟨htext, fun hhead => ?_⟩, hends⟩
    match ds, hhead with
    | [_], _ => rfl
    | _ :: d :: ds, rfl => exact absurd rfl (hzero d ds)

theorem fractionDigits_spelt (h : fractionDigits cs = .ok (ds, rest)) (hcs : EndsDigits cs) :
    ∃ text, cs = text ++ rest ∧ FractionSpelt ds text ∧ EndsDigits rest := by
  unfold fractionDigits at h
  split at h
  · obtain ⟨text, rfl, htext, hends⟩ := someDigits_spelt h
    exact ⟨'.' :: text, rfl, .present htext, hends⟩
  · cases h
    exact ⟨[], rfl, .absent, hcs⟩

theorem exponentDigits_spelt {down : Bool} (h : exponentDigits cs = .ok ((down, ds), rest)) :
    ∃ sign text, cs = sign ++ (text ++ rest) ∧ SignSpelt down sign ∧ DigitsSpelt ds text ∧
      EndsDigits rest := by
  unfold exponentDigits at h
  split at h <;> obtain ⟨⟨ds', rest'⟩, hsome, ⟨⟩⟩ := map_eq_ok.1 h <;>
    obtain ⟨text, rfl, htext, hends⟩ := someDigits_spelt hsome
  · exact ⟨['+'], text, rfl, .plus, htext, hends⟩
  · exact ⟨['-'], text, rfl, .minus, htext, hends⟩
  · exact ⟨[], text, rfl, .absent, htext, hends⟩

theorem exponentPart_spelt {exponent? : Option (Bool × List Nat)}
    (h : exponentPart cs = .ok (exponent?, rest)) (hcs : EndsDigits cs) :
    ∃ text, cs = text ++ rest ∧ ExponentSpelt exponent? text ∧ EndsDigits rest := by
  unfold exponentPart at h
  split at h
  · split at h
    · rename_i c cs' hmark
      obtain ⟨⟨⟨down, ds⟩, rest'⟩, hdigits, ⟨⟩⟩ := map_eq_ok.1 h
      obtain ⟨sign, text, rfl, hsign, htext, hends⟩ := exponentDigits_spelt hdigits
      exact ⟨c :: (sign ++ text), by simp, .present hmark hsign htext, hends⟩
    · cases h
      exact ⟨[], rfl, .absent, hcs⟩
  · cases h
    exact ⟨[], rfl, .absent, hcs⟩

/-- A number is read only from parts that are spelt there. -/
theorem readNumber_spelt {negative : Bool} {n : Number}
    (h : readNumber negative cs = .ok (n, rest)) :
    ∃ text p, cs = text ++ rest ∧ Parts.Spelt p text ∧ p.value negative = some n ∧
      EndsDigits rest := by
  obtain ⟨⟨whole, cs₁⟩, hwhole, h₁⟩ := bind_eq_ok.1 h
  obtain ⟨⟨fraction, cs₂⟩, hfraction, h₂⟩ := bind_eq_ok.1 h₁
  obtain ⟨⟨exponent?, cs₃⟩, hexponent, h₃⟩ := bind_eq_ok.1 h₂
  obtain ⟨w, hcs, hw, hends₁⟩ := wholeDigits_spelt hwhole
  obtain ⟨f, hcs₁, hf, hends₂⟩ := fractionDigits_spelt hfraction hends₁
  obtain ⟨e, hcs₂, he, hends₃⟩ := exponentPart_spelt hexponent hends₂
  dsimp only at h₃
  split at h₃
  · rename_i n' hvalue
    cases h₃
    exact ⟨w ++ (f ++ e), _, by simp [hcs, hcs₁, hcs₂], .intro hw hf he, hvalue, hends₃⟩
  · cases h₃

/-! ## Reading strings -/

theorem numbered_append {c x₁ x₂ x₃ x₄ : Char}
    (h : fourDigits? x₁ x₂ x₃ x₄ = some c.toNat) :
    numbered (x₁ :: x₂ :: x₃ :: x₄ :: rest) = .ok (c, rest) := by
  have hnot : ¬ (0xD800 ≤ c.toNat ∧ c.toNat ≤ 0xDFFF) := by
    have hvalid := c.valid
    simp only [UInt32.isValidChar, Nat.isValidChar] at hvalid
    change ¬ (0xD800 ≤ c.val.toNat ∧ c.val.toNat ≤ 0xDFFF)
    omega
  have hlow : ¬ (0xDC00 ≤ c.toNat ∧ c.toNat ≤ 0xDFFF) := by omega
  have hhigh : ¬ (0xD800 ≤ c.toNat ∧ c.toNat ≤ 0xDBFF) := by omega
  simp [numbered, fourDigits, h, hlow, hhigh, bind, Except.bind]

theorem numbered_pair {high low : Nat} {x₁ x₂ x₃ x₄ y₁ y₂ y₃ y₄ : Char}
    (hhigh : fourDigits? x₁ x₂ x₃ x₄ = some high) (hlow : fourDigits? y₁ y₂ y₃ y₄ = some low)
    (hfirst : 0xD800 ≤ high ∧ high ≤ 0xDBFF) (hsecond : 0xDC00 ≤ low ∧ low ≤ 0xDFFF) :
    numbered (x₁ :: x₂ :: x₃ :: x₄ :: '\\' :: 'u' :: y₁ :: y₂ :: y₃ :: y₄ :: rest) =
      .ok (Char.ofNat ((high - 0xD800) * 1024 + (low - 0xDC00) + 0x10000), rest) := by
  have hnot : ¬ (0xDC00 ≤ high ∧ high ≤ 0xDFFF) := by omega
  simp [numbered, fourDigits, secondHalf, hhigh, hlow, hnot, hfirst, hsecond, bind, Except.bind]

/-- One more character of a string is read as it is spelt. -/
theorem stringChars_append_char {c : Char} {text : List Char} (h : CharSpelt c text) (n : Nat) :
    stringChars (n + 1) (text ++ rest) =
      (stringChars n rest).map fun (ds, cs) => (c :: ds, cs) := by
  have hmap : ∀ x : Except Error (List Char × List Char),
      (do let (ds, rest) ← x; .ok (c :: ds, rest)) = x.map fun (ds, cs) => (c :: ds, cs) := by
    intro x
    cases x <;> rfl
  cases h with
  | plain hquote hbackslash hcontrol =>
    rw [← hmap]
    simp [stringChars, hquote, hbackslash, Nat.not_lt.2 hcontrol]
  | short h =>
    rw [← hmap]
    simp only [shortEscapes, List.mem_cons, Prod.mk.injEq, List.not_mem_nil, or_false] at h
    rcases h with ⟨rfl, rfl⟩ | ⟨rfl, rfl⟩ | ⟨rfl, rfl⟩ | ⟨rfl, rfl⟩ | ⟨rfl, rfl⟩ | ⟨rfl, rfl⟩ |
      ⟨rfl, rfl⟩ | ⟨rfl, rfl⟩ <;> rfl
  | numbered h =>
    rw [← hmap]
    simp [stringChars, escape, numbered_append h, bind, Except.bind]
  | pair hhigh hlow hfirst hsecond =>
    rw [← hmap]
    simp [stringChars, escape, numbered_pair hhigh hlow hfirst hsecond, bind, Except.bind]

theorem stringChars_append {ds : List Char} (h : CharsSpelt ds cs) {n : Nat} (hn : ds.length < n) :
    stringChars n (cs ++ '"' :: rest) = .ok (ds, rest) := by
  induction h generalizing n with
  | nil =>
    cases n with
    | zero => cases hn
    | succ n => simp [stringChars]
  | cons hchar _ ih =>
    cases n with
    | zero => cases hn
    | succ n =>
      rw [List.append_assoc, stringChars_append_char hchar, ih (Nat.lt_of_succ_lt_succ hn)]
      rfl

theorem CharsSpelt.length_le {ds : List Char} (h : CharsSpelt ds cs) : ds.length ≤ cs.length := by
  induction h with
  | nil => exact Nat.le_refl _
  | cons hchar _ ih =>
    cases hchar <;> simp only [List.length_cons, List.length_append] <;> omega

theorem readString_append {s : String} (h : CharsSpelt s.toList cs) :
    readString (cs ++ '"' :: rest) = .ok (s, rest) := by
  have hlength : s.toList.length < (cs ++ '"' :: rest).length + 1 := by
    have hle := h.length_le
    simp only [List.length_append]
    omega
  rw [readString, stringChars_append h hlength]
  simp [Except.map]

/-! What is read of a string is spelt as the grammar wants it. -/

theorem hexDigit?_lt {c : Char} {d : Nat} (h : hexDigit? c = some d) : d < 16 := by
  have hle : ∀ {a b : Char}, a ≤ b → a.toNat ≤ b.toNat := fun h => h
  unfold hexDigit? at h
  split_ifs at h with hc hc hc
  all_goals
    cases h
    have hbound := hle hc.2
    simp only [Char.reduceToNat] at hbound
    omega

theorem fourDigits?_lt {x₁ x₂ x₃ x₄ : Char} {n : Nat} (h : fourDigits? x₁ x₂ x₃ x₄ = some n) :
    n < 65536 := by
  simp only [fourDigits?, Option.bind_eq_bind, Option.bind_eq_some_iff, pure, Option.some.injEq]
    at h
  obtain ⟨d₁, h₁, d₂, h₂, d₃, h₃, d₄, h₄, rfl⟩ := h
  have := hexDigit?_lt h₁
  have := hexDigit?_lt h₂
  have := hexDigit?_lt h₃
  have := hexDigit?_lt h₄
  omega

theorem fourDigits_spelt {n : Nat} (h : fourDigits cs = .ok (n, rest)) :
    ∃ x₁ x₂ x₃ x₄, cs = x₁ :: x₂ :: x₃ :: x₄ :: rest ∧ fourDigits? x₁ x₂ x₃ x₄ = some n := by
  unfold fourDigits at h
  split at h
  · split at h
    · rename_i hn
      cases h
      exact ⟨_, _, _, _, rfl, hn⟩
    · cases h
  · split at h <;> cases h

theorem numbered_spelt {c : Char} (h : numbered cs = .ok (c, rest)) :
    ∃ text, cs = text ++ rest ∧ CharSpelt c ('\\' :: 'u' :: text) := by
  obtain ⟨⟨n, rest₁⟩, hdigits, h₁⟩ := bind_eq_ok.1 h
  obtain ⟨x₁, x₂, x₃, x₄, rfl, hn⟩ := fourDigits_spelt hdigits
  dsimp only at h₁
  split at h₁
  · cases h₁
  · rename_i hlow
    split at h₁
    · rename_i hhigh
      unfold secondHalf at h₁
      split at h₁
      · cases h₁
      · cases h₁
      · obtain ⟨⟨m, rest₂⟩, hdigits₂, h₂⟩ := bind_eq_ok.1 h₁
        obtain ⟨y₁, y₂, y₃, y₄, rfl, hm⟩ := fourDigits_spelt hdigits₂
        dsimp only at h₂
        split at h₂
        · rename_i hsecond
          obtain ⟨rfl, rfl⟩ := Prod.mk.inj (Except.ok.inj h₂)
          exact ⟨[x₁, x₂, x₃, x₄, '\\', 'u', y₁, y₂, y₃, y₄], rfl, .pair hn hm hhigh hsecond⟩
        · cases h₂
      · cases h₁
    · rename_i hhigh
      cases h₁
      have hlt := fourDigits?_lt hn
      have hvalid : n.isValidChar := by
        simp only [Nat.isValidChar]
        omega
      have hnat : (Char.ofNat n).toNat = n := by
        rw [Char.ofNat, dif_pos hvalid]
        rfl
      exact ⟨[x₁, x₂, x₃, x₄], rfl, .numbered (hn.trans (congrArg some hnat.symm))⟩

theorem escape_spelt {c : Char} (h : escape cs = .ok (c, rest)) :
    ∃ text, cs = text ++ rest ∧ CharSpelt c ('\\' :: text) := by
  unfold escape at h
  split at h
  case h_1 | h_11 => cases h
  case h_10 =>
    obtain ⟨text, rfl, htext⟩ := numbered_spelt h
    exact ⟨'u' :: text, rfl, htext⟩
  all_goals
    cases h
    exact ⟨[_], rfl, .short (by decide)⟩

theorem stringChars_spelt {n : Nat} {ds : List Char} (h : stringChars n cs = .ok (ds, rest)) :
    ∃ text, cs = text ++ '"' :: rest ∧ CharsSpelt ds text := by
  induction n generalizing cs ds with
  | zero => cases h
  | succ n ih =>
    cases cs with
    | nil => cases h
    | cons c cs =>
      rw [stringChars] at h
      split at h
      · rename_i hquote
        cases h
        exact ⟨[], by rw [hquote]; rfl, .nil⟩
      · rename_i hquote
        split at h
        · rename_i hbackslash
          obtain ⟨⟨d, rest₁⟩, hescape, h₁⟩ := bind_eq_ok.1 h
          obtain ⟨⟨ds', rest₂⟩, hchars, h₂⟩ := bind_eq_ok.1 h₁
          cases h₂
          obtain ⟨text, rfl, htext⟩ := escape_spelt hescape
          obtain ⟨texts, rfl, htexts⟩ := ih hchars
          exact ⟨'\\' :: text ++ texts, by simp [hbackslash], .cons htext htexts⟩
        · rename_i hbackslash
          split at h
          · cases h
          · rename_i hcontrol
            obtain ⟨⟨ds', rest₂⟩, hchars, h₂⟩ := bind_eq_ok.1 h
            cases h₂
            obtain ⟨texts, rfl, htexts⟩ := ih hchars
            exact ⟨[c] ++ texts, rfl,
              .cons (.plain hquote hbackslash (Nat.not_lt.1 hcontrol)) htexts⟩

theorem readString_spelt {s : String} (h : readString cs = .ok (s, rest)) :
    ∃ text, cs = text ++ '"' :: rest ∧ CharsSpelt s.toList text := by
  obtain ⟨⟨ds, rest'⟩, hchars, ⟨⟩⟩ := map_eq_ok.1 h
  simpa using stringChars_spelt hchars

/-! ## Cutting a text into tokens -/

theorem Parts.Spelt.head {p : Parts} (h : p.Spelt cs) :
    ∃ c cs' d, cs = c :: cs' ∧ Text.digit? c = some d := by
  obtain ⟨⟨⟨hne, hds⟩, -⟩, -, -⟩ := h
  cases hds with
  | nil => exact absurd rfl hne
  | cons hd _ => exact ⟨_, _, _, rfl, hd⟩

/-- A number begins with its sign or a digit. -/
theorem token_number {n : Number} (h : n.Spelt cs) (hrest : EndsNumber rest) :
    ∃ c cs', cs = c :: cs' ∧ token c (cs' ++ rest) = (.number (.ok n), rest) := by
  cases h with
  | positive h hvalue =>
    obtain ⟨c, cs', d, rfl, hd⟩ := h.head
    have hread : readNumber false (c :: (cs' ++ rest)) = .ok (n, rest) :=
      readNumber_append h hvalue hrest
    refine ⟨c, cs', rfl, ?_⟩
    unfold token
    split <;> first | cases hd | skip
    simp [hd, token.ofNumber, hread]
  | minus h hvalue =>
    have hread := readNumber_append h hvalue hrest
    exact ⟨'-', _, rfl, by simp [token, token.ofNumber, hread]⟩

/-- A token is cut off the front of a text. -/
theorem token_append {t : Token} (h : t.Spelt cs)
    (hnumber : ∀ n, t = .number n → EndsNumber rest) :
    ∃ c cs', cs = c :: cs' ∧ isSpace c = false ∧ token c (cs' ++ rest) = (t, rest) := by
  cases h with
  | number h =>
    obtain ⟨c, cs', rfl, htoken⟩ := token_number h (hnumber _ rfl)
    refine ⟨c, cs', rfl, ?_, htoken⟩
    cases hspace : isSpace c with
    | false => rfl
    | true =>
      simp only [isSpace, Bool.or_eq_true, beq_iff_eq] at hspace
      rcases hspace with ((rfl | rfl) | rfl) | rfl <;> cases htoken
  | string h =>
    refine ⟨'"', _, rfl, rfl, ?_⟩
    simp [token, readString_append h]
  | null | true | false =>
    exact ⟨_, _, rfl, rfl, by simp [token, token.ofWord, afterWord]⟩
  | _ => exact ⟨_, _, rfl, rfl, rfl⟩

theorem Token.Spelt.ne_nil {t : Token} (h : t.Spelt cs) : cs ≠ [] := by
  have hends : EndsNumber [] := nofun
  obtain ⟨c, cs', rfl, -⟩ := token_append h fun _ _ => hends
  exact List.cons_ne_nil c cs'

/-- A text is cut into the tokens that it spells. -/
theorem Lexes.tokensUpTo_eq {ts : List Token} (h : Lexes ts cs) {n : Nat} (hn : cs.length ≤ n) :
    tokensUpTo n cs = ts := by
  induction h generalizing n with
  | nil => cases n <;> rfl
  | space hspace _ ih =>
    cases n with
    | zero => cases hn
    | succ n => simpa [tokensUpTo, hspace] using ih (Nat.le_of_succ_le_succ hn)
  | @token t ts text cs htoken _ hnumber ih =>
    obtain ⟨c, text, rfl, hspace, htoken⟩ := token_append htoken hnumber
    cases n with
    | zero => cases hn
    | succ n =>
      have hle : cs.length ≤ n := by
        simp only [List.cons_append, List.length_cons, List.length_append] at hn
        omega
      simp [tokensUpTo, hspace, htoken, ih hle]

theorem afterWord_eq_ok {word : List Char} (h : afterWord word cs = .ok rest) :
    cs = word ++ rest := by
  induction word generalizing cs with
  | nil =>
    cases h
    rfl
  | cons w word ih =>
    cases cs with
    | nil => cases h
    | cons c cs =>
      rw [afterWord] at h
      split at h
      · rename_i hc
        rw [hc, ih h]
        rfl
      · cases h

/-- Whether a token has no error in it. -/
def Token.faultless : Token → Bool
  | .word (.error _) | .number (.error _) | .string (.error _) | .stray => false
  | _ => true

theorem ofWord_spelt {w : Word} {word : String} {t : Token} {c : Char}
    (hw : Token.Spelt (.word (.ok w)) (c :: word.toList))
    (h : token.ofWord cs w word = (t, rest)) (ht : t.faultless = true) :
    ∃ text, c :: cs = text ++ rest ∧ t.Spelt text ∧ ∀ n, t = .number n → EndsDigits rest := by
  unfold token.ofWord at h
  split at h <;> obtain ⟨rfl, rfl⟩ := Prod.mk.inj h
  · rename_i hword
    exact ⟨_, congrArg (c :: ·) (afterWord_eq_ok hword), hw, nofun⟩
  · cases ht

theorem ofNumber_spelt {x : Except Error (Number × List Char)} {t : Token}
    (h : token.ofNumber x = (t, rest)) (ht : t.faultless = true) :
    ∃ n, x = .ok (n, rest) ∧ t = .number (.ok n) := by
  unfold token.ofNumber at h
  split at h <;> obtain ⟨rfl, rfl⟩ := Prod.mk.inj h
  · exact ⟨_, rfl, rfl⟩
  · cases ht

/-- A token without an error that is cut off stands there. -/
theorem token_spelt {t : Token} {c : Char} (h : token c cs = (t, rest))
    (ht : t.faultless = true) :
    ∃ text, c :: cs = text ++ rest ∧ t.Spelt text ∧ ∀ n, t = .number n → EndsDigits rest := by
  unfold token at h
  split at h
  case h_1 => cases h; exact ⟨_, rfl, .openObject, nofun⟩
  case h_2 => cases h; exact ⟨_, rfl, .closeObject, nofun⟩
  case h_3 => cases h; exact ⟨_, rfl, .openArray, nofun⟩
  case h_4 => cases h; exact ⟨_, rfl, .closeArray, nofun⟩
  case h_5 => cases h; exact ⟨_, rfl, .colon, nofun⟩
  case h_6 => cases h; exact ⟨_, rfl, .comma, nofun⟩
  case h_7 => exact ofWord_spelt .null h ht
  case h_8 => exact ofWord_spelt .true h ht
  case h_9 => exact ofWord_spelt .false h ht
  case h_10 =>
    split at h <;> obtain ⟨rfl, rfl⟩ := Prod.mk.inj h
    · rename_i hstring
      obtain ⟨text, rfl, htext⟩ := readString_spelt hstring
      exact ⟨'"' :: (text ++ ['"']), by simp, .string htext, nofun⟩
    · cases ht
  case h_11 =>
    obtain ⟨n, hread, rfl⟩ := ofNumber_spelt h ht
    obtain ⟨text, p, rfl, hp, hvalue, hends⟩ := readNumber_spelt hread
    exact ⟨'-' :: text, rfl, .number (.minus hp hvalue), fun _ _ => hends⟩
  case h_12 =>
    split at h
    · obtain ⟨n, hread, rfl⟩ := ofNumber_spelt h ht
      obtain ⟨text, p, hcs, hp, hvalue, hends⟩ := readNumber_spelt hread
      exact ⟨text, hcs, .number (.positive hp hvalue), fun _ _ => hends⟩
    · obtain ⟨rfl, rfl⟩ := Prod.mk.inj h
      cases ht

/-- No token begins like the rest of a number. -/
theorem Lexes.endsNumber {ts : List Token} (h : Lexes ts cs) (hdigits : EndsDigits cs) :
    EndsNumber cs := by
  have hother : ∀ c ∈ cs.head?, c ≠ '.' ∧ c ≠ 'e' ∧ c ≠ 'E' := by
    cases h with
    | nil => nofun
    | space hspace _ =>
      rintro c ⟨⟩
      refine ⟨?_, ?_, ?_⟩ <;> rintro rfl <;> cases hspace
    | token htoken _ hnumber =>
      obtain ⟨c', text, rfl, -, heq⟩ := token_append htoken hnumber
      rintro c ⟨⟩
      refine ⟨?_, ?_, ?_⟩ <;> rintro rfl <;> cases heq <;> cases htoken
  exact fun c hc => ⟨hdigits c hc, hother c hc⟩

theorem lexes_tokensUpTo {n : Nat} (hn : cs.length ≤ n)
    (h : ∀ t ∈ tokensUpTo n cs, t.faultless = true) : Lexes (tokensUpTo n cs) cs := by
  induction n generalizing cs with
  | zero =>
    rw [List.eq_nil_of_length_eq_zero (Nat.le_zero.1 hn)]
    exact .nil
  | succ n ih =>
    cases cs with
    | nil => exact .nil
    | cons c cs =>
      rw [tokensUpTo] at h ⊢
      split at h
      · rename_i hspace
        rw [if_pos hspace]
        exact .space hspace (ih (Nat.le_of_succ_le_succ hn) h)
      · rename_i hspace
        rw [if_neg hspace]
        obtain ⟨t, rest, htoken⟩ : ∃ t rest, token c cs = (t, rest) := ⟨_, _, rfl⟩
        simp only [htoken, List.forall_mem_cons] at h ⊢
        obtain ⟨text, hcs, htext, hends⟩ := token_spelt htoken h.1
        have hlength := congrArg List.length hcs
        have hpos := List.length_pos_iff.2 htext.ne_nil
        simp only [List.length_append] at hlength
        have hrest := ih (by omega) h.2
        rw [hcs]
        exact .token htext hrest fun n hnumber => hrest.endsNumber (hends n hnumber)

theorem separator_faultless (first : Bool) : ∀ t ∈ separator first, t.faultless = true := by
  cases first <;> simp [separator, Token.faultless]

mutual
theorem Value.tokens_faultless (v : Value) : ∀ t ∈ v.tokens, t.faultless = true := by
  cases v with
  | array vs => simpa [Value.tokens, Token.faultless] using elementTokens_faultless true vs
  | object ms => simpa [Value.tokens, Token.faultless] using memberTokens_faultless true ms
  | _ => simp [Value.tokens, Token.faultless]

theorem elementTokens_faultless (first : Bool) (vs : List Value) :
    ∀ t ∈ elementTokens first vs, t.faultless = true := by
  cases vs with
  | nil => simp [elementTokens, Token.faultless]
  | cons v vs =>
    have htokens := List.forall_mem_append.2 ⟨v.tokens_faultless, elementTokens_faultless false vs⟩
    exact List.forall_mem_append.2 ⟨separator_faultless first, htokens⟩

theorem memberTokens_faultless (first : Bool) (ms : List (String × Value)) :
    ∀ t ∈ memberTokens first ms, t.faultless = true := by
  cases ms with
  | nil => simp [memberTokens, Token.faultless]
  | cons m ms =>
    obtain ⟨name, v⟩ := m
    have htokens := List.forall_mem_append.2 ⟨v.tokens_faultless, memberTokens_faultless false ms⟩
    refine List.forall_mem_append.2 ⟨separator_faultless first, ?_⟩
    exact List.forall_mem_cons.2 ⟨rfl, List.forall_mem_cons.2 ⟨rfl, htokens⟩⟩
end

/-- A document of a value is a text that is cut into the tokens of the value. -/
theorem document_iff {text : String} {v : Value} :
    Document text v ↔ tokens text.toList = v.tokens := by
  refine ⟨fun h => h.tokensUpTo_eq (Nat.le_refl _), fun h => ?_⟩
  have hfaultless : ∀ t ∈ tokens text.toList, t.faultless = true := by
    rw [h]
    exact v.tokens_faultless
  have hlexes : Lexes (tokens text.toList) text.toList :=
    lexes_tokensUpTo (Nat.le_refl _) hfaultless
  rwa [h] at hlexes

deriving instance DecidableEq for Token

instance (text : String) (v : Value) : Decidable (Document text v) :=
  decidable_of_iff _ document_iff.symm

end Cooling.Json
