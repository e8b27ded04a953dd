-- SUMMARY: The fields that blanks separate in a text, and the numbers that a text can spell, each as a relation that the readers decide.
import Mathlib.Data.List.DropRight
import Cooling.Text.Blank
import Cooling.Text.Digits

/-!
# Fields and numerals

The fields of a text are what stands between its blanks. A numeral is one or more digits of
ASCII, with a sign before them or without. Both are said here without an algorithm, and the
readers of texts are shown to find just these fields and numbers. Trimming takes blanks off
the ends of a text and leaves a field as it is.
-/

namespace Cooling.Text

/-! ## Fields -/

/-- The text consists of the fields, in order, with blanks between them. There may be more
    blanks before the first field and after the last one. -/
inductive Fields : List Char → List (List Char) → Prop
  | none {blanks : List Char} (hblanks : ∀ c ∈ blanks, isBlank c = true) : Fields blanks []
  | cons {blanks field rest : List Char} {fields : List (List Char)}
      (hblanks : ∀ c ∈ blanks, isBlank c = true)
      (hne : field ≠ []) (hfield : ∀ c ∈ field, isBlank c = false)
      (hend : ∀ c ∈ rest.head?, isBlank c = true) (hrest : Fields rest fields) :
      Fields (blanks ++ (field ++ rest)) (field :: fields)

variable {cs field rest blanks : List Char}

theorem words_append_of_isBlank (h : ∀ c ∈ blanks, isBlank c = true) (cs : List Char) :
    words (blanks ++ cs) = words cs := by
  induction blanks with
  | nil => rfl
  | cons c blanks ih =>
    obtain ⟨hc, hblanks⟩ := List.forall_mem_cons.1 h
    rw [List.cons_append, words_cons_of_isBlank hc, ih hblanks]

/-- The first piece goes on until there is a break. -/
theorem pieces_append {sep : Char → Bool} {p : List Char} {ps : List (List Char)}
    (hfield : ∀ c ∈ field, sep c = false) (hrest : pieces sep rest = p :: ps) :
    pieces sep (field ++ rest) = (field ++ p) :: ps := by
  induction field with
  | nil => exact hrest
  | cons c field ih =>
    obtain ⟨hc, hfield⟩ := List.forall_mem_cons.1 hfield
    simp [pieces, hc, ih hfield]

/-- A field ends at the first blank, or at the end of the text. -/
theorem words_append_of_field (hne : field ≠ []) (hfield : ∀ c ∈ field, isBlank c = false)
    (hend : ∀ c ∈ rest.head?, isBlank c = true) : words (field ++ rest) = field :: words rest := by
  have hkept : (!field.isEmpty) = true := by simpa using hne
  cases rest with
  | nil =>
    have hbreak : pieces isBlank [] = [[]] := rfl
    rw [words, pieces_append hfield hbreak]
    simp [hkept]
  | cons c rest =>
    have hc : isBlank c = true := hend c rfl
    have hbreak : pieces isBlank (c :: rest) = [] :: pieces isBlank rest := if_pos hc
    rw [words_cons_of_isBlank hc, words, pieces_append hfield hbreak]
    simp [words, hkept]

theorem Fields.words_eq {fields : List (List Char)} (h : Fields cs fields) :
    words cs = fields := by
  induction h with
  | none hblanks =>
    have h := words_append_of_isBlank hblanks []
    rwa [List.append_nil] at h
  | cons hblanks hne hfield hend hrest ih =>
    rw [words_append_of_isBlank hblanks, words_append_of_field hne hfield hend, ih]

/-- One more blank at the start changes no field. -/
theorem Fields.blank_cons {c : Char} {fields : List (List Char)} (h : Fields cs fields)
    (hc : isBlank c = true) : Fields (c :: cs) fields := by
  cases h with
  | none hblanks => exact .none (List.forall_mem_cons.2 ⟨hc, hblanks⟩)
  | cons hblanks hne hfield hend hrest =>
    exact .cons (List.forall_mem_cons.2 ⟨hc, hblanks⟩) hne hfield hend hrest

theorem Fields.of_field {fields : List (List Char)} (hne : field ≠ [])
    (hfield : ∀ c ∈ field, isBlank c = false) (hend : ∀ c ∈ rest.head?, isBlank c = true)
    (hrest : Fields rest fields) : Fields (field ++ rest) (field :: fields) :=
  .cons (List.forall_mem_nil _) hne hfield hend hrest

/-- Any other character is a field by itself, or the first one of the field that follows. -/
theorem Fields.exists_cons {c : Char} {fields : List (List Char)} (h : Fields cs fields)
    (hc : isBlank c = false) : ∃ fields', Fields (c :: cs) fields' := by
  by_cases hend : ∀ x ∈ cs.head?, isBlank x = true
  · have halone : ∀ x ∈ [c], isBlank x = false := List.forall_mem_singleton.2 hc
    exact ⟨[c] :: fields, .of_field (List.cons_ne_nil c []) halone hend h⟩
  · cases h with
    | none hblanks => exact absurd (fun x hx => hblanks x (List.mem_of_mem_head? hx)) hend
    | @cons blanks field rest fields hblanks hne hfield hend' hrest =>
      cases blanks with
      | nil =>
        have hlonger : ∀ x ∈ c :: field, isBlank x = false := List.forall_mem_cons.2 ⟨hc, hfield⟩
        exact ⟨(c :: field) :: fields, .of_field (List.cons_ne_nil c field) hlonger hend' hrest⟩
      | cons b blanks =>
        refine absurd ?_ hend
        rintro _ ⟨⟩
        exact hblanks b (.head _)

theorem exists_fields (cs : List Char) : ∃ fields, Fields cs fields := by
  induction cs with
  | nil => exact ⟨[], .none nofun⟩
  | cons c cs ih =>
    obtain ⟨fields, h⟩ := ih
    cases hc : isBlank c with
    | true => exact ⟨fields, h.blank_cons hc⟩
    | false => exact h.exists_cons hc

/-- The words of a text are its fields. -/
theorem words_eq_iff {fields : List (List Char)} : words cs = fields ↔ Fields cs fields := by
  refine ⟨?_, Fields.words_eq⟩
  rintro rfl
  obtain ⟨fields, h⟩ := exists_fields cs
  rwa [h.words_eq]

/-! ## Trimming -/

/-- The way to evaluate that no character is blank. -/
theorem all_visible_iff : cs.all (fun c => !isBlank c) = true ↔ ∀ c ∈ cs, isBlank c = false := by
  simp

theorem trimEnd_eq_nil_iff : trimEnd cs = [] ↔ ∀ c ∈ cs, isBlank c = true := by
  simp [trimEnd, List.dropWhile_eq_nil_iff]

/-- Nothing but white space is left of what is all white space. -/
theorem trim_eq_nil_iff : trim cs = [] ↔ ∀ c ∈ cs, isBlank c = true := by
  rw [trim, trimEnd_eq_nil_iff, trimStart]
  constructor
  · intro hdropped
    rw [← List.dropWhile_eq_nil_iff]
    by_contra hne
    have hhead := List.head_dropWhile_not isBlank hne
    rw [hdropped _ (List.head_mem hne)] at hhead
    cases hhead
  · intro hall c hc
    exact hall c ((List.dropWhile_suffix isBlank).subset hc)

theorem trimEnd_append_of_isBlank (h : ∀ c ∈ blanks, isBlank c = true) (cs : List Char) :
    trimEnd (cs ++ blanks) = trimEnd cs := by
  have hreversed : ∀ c ∈ blanks.reverse, isBlank c = true := fun c hc => h c (List.mem_reverse.1 hc)
  rw [trimEnd, List.reverse_append, List.dropWhile_append_of_pos hreversed, trimEnd]

/-- Nothing is trimmed from the start of a text whose first character can be seen. -/
theorem trimStart_eq_self (h : ∀ c ∈ cs.head?, isBlank c = false) : trimStart cs = cs := by
  cases cs with
  | nil => rfl
  | cons c cs => rw [trimStart, List.dropWhile_cons_of_neg (by simp [h c rfl])]

/-- Nothing is trimmed from the end of a text whose last character can be seen. -/
theorem trimEnd_eq_self (h : ∀ c ∈ cs.getLast?, isBlank c = false) : trimEnd cs = cs := by
  refine List.rdropWhile_eq_self_iff.2 fun hne => ?_
  rw [h _ (List.getLast_mem_getLast? hne)]
  exact Bool.false_ne_true

/-- Nothing is trimmed from a text that ends with a field. -/
theorem trimEnd_append_of_field (hne : field ≠ []) (hfield : ∀ c ∈ field, isBlank c = false)
    (cs : List Char) : trimEnd (cs ++ field) = cs ++ field := by
  refine trimEnd_eq_self fun c hc => hfield c (List.mem_of_mem_getLast? ?_)
  rwa [List.getLast?_append_of_ne_nil cs hne] at hc

/-- The text is the word with blanks around it. The word has no blanks at its own ends, but
    may have some inside. -/
inductive Pads : List Char → List Char → Prop
  | intro {front word back : List Char} (hfront : ∀ c ∈ front, isBlank c = true)
      (hback : ∀ c ∈ back, isBlank c = true) (hhead : ∀ c ∈ word.head?, isBlank c = false)
      (hlast : ∀ c ∈ word.getLast?, isBlank c = false) : Pads (front ++ (word ++ back)) word

variable {word : List Char}

theorem Pads.trim_eq (h : Pads cs word) : trim cs = word := by
  cases h with
  | @intro front word back hfront hback hhead hlast =>
    rw [trim, trimStart, List.dropWhile_append_of_pos hfront]
    cases word with
    | nil => exact trimEnd_eq_nil_iff.2 fun c hc => hback c ((List.dropWhile_suffix _).subset hc)
    | cons c word =>
      have hstart : trimStart (c :: word ++ back) = c :: word ++ back := trimStart_eq_self hhead
      rw [← trimStart, hstart, trimEnd_append_of_isBlank hback, trimEnd_eq_self hlast]

theorem pads_trim (cs : List Char) : Pads cs (trim cs) := by
  have hkept : trim cs ++ (trimStart cs).rtakeWhile isBlank = trimStart cs :=
    List.rdropWhile_append_rtakeWhile
  have hsplit : cs.takeWhile isBlank ++ (trim cs ++ (trimStart cs).rtakeWhile isBlank) = cs := by
    rw [hkept, trimStart, List.takeWhile_append_dropWhile]
  have hhead : ∀ c ∈ (trim cs).head?, isBlank c = false := by
    intro c hc
    have hfirst := List.head?_dropWhile_not isBlank cs
    rw [← trimStart, ← hkept, List.mem_head?_append_of_mem_head? hc] at hfirst
    exact hfirst
  have hlast : ∀ c ∈ (trim cs).getLast?, isBlank c = false := by
    intro c hc
    obtain ⟨hne, rfl⟩ := List.mem_getLast?_eq_getLast hc
    exact Bool.not_eq_true _ ▸ List.rdropWhile_last_not isBlank (trimStart cs) hne
  have hfront : ∀ c ∈ cs.takeWhile isBlank, isBlank c = true := fun c => List.mem_takeWhile_imp
  have hback : ∀ c ∈ (trimStart cs).rtakeWhile isBlank, isBlank c = true :=
    fun c => List.mem_rtakeWhile_imp
  have hpads := Pads.intro hfront hback hhead hlast
  rwa [hsplit] at hpads

/-! ## Numerals -/

/-- One or more digits. -/
structure Digits (cs : List Char) : Prop where
  ne_nil : cs ≠ []
  digits : ∀ c ∈ cs, c.isDigit = true

theorem isBlank_of_isDigit {c : Char} (h : c.isDigit = true) : isBlank c = false := by
  simp only [Char.isDigit, Bool.and_eq_true, decide_eq_true_eq] at h
  have hge : 48 ≤ c.toNat := h.1
  have hle : c.toNat ≤ 57 := h.2
  simp only [isBlank, Bool.or_eq_false_iff, Bool.and_eq_false_iff, decide_eq_false_iff_not,
    beq_eq_false_iff_ne]
  omega

theorem Digits.visible (h : Digits cs) : ∀ c ∈ cs, isBlank c = false :=
  fun c hc => isBlank_of_isDigit (h.digits c hc)

/-- The value of digits, after others of value `n`. -/
def decimalFrom (n : Nat) (digits : List Char) : Nat :=
  digits.foldl (fun n c => 10 * n + (c.toNat - '0'.toNat)) n

/-- The number that digits stand for. -/
def decimal (digits : List Char) : Nat := decimalFrom 0 digits

/-- The text is a numeral for the number. -/
inductive Spells : List Char → Int → Prop
  | plain {digits : List Char} (h : Digits digits) : Spells digits (decimal digits)
  | plus {digits : List Char} (h : Digits digits) : Spells ('+' :: digits) (decimal digits)
  | minus {digits : List Char} (h : Digits digits) : Spells ('-' :: digits) (-decimal digits)

/-- The text is a numeral for a number of 32 bits, with a sign. -/
structure Spells32 (cs : List Char) (n : Int) : Prop where
  spells : Spells cs n
  ge : -2147483648 ≤ n
  le : n ≤ 2147483647

/-- The text is a numeral without a minus sign for the number. -/
inductive SpellsNatural : List Char → Nat → Prop
  | plain {digits : List Char} (h : Digits digits) : SpellsNatural digits (decimal digits)
  | plus {digits : List Char} (h : Digits digits) : SpellsNatural ('+' :: digits) (decimal digits)

theorem digit?_eq (c : Char) :
    digit? c = if c.isDigit then some (c.toNat - '0'.toNat) else none := by
  simp [digit?, Char.isDigit, Char.le_def]

theorem digitsFrom?_eq_some_iff {n k : Nat} :
    digitsFrom? n cs = some k ↔ (∀ c ∈ cs, c.isDigit = true) ∧ decimalFrom n cs = k := by
  induction cs generalizing n with
  | nil => simp [digitsFrom?, decimalFrom]
  | cons c cs ih =>
    rw [digitsFrom?, digit?_eq]
    by_cases hc : c.isDigit = true
    · simp [hc, ih, decimalFrom]
    · simp [hc]

theorem natural?_eq_some_iff {k : Nat} : natural? cs = some k ↔ Digits cs ∧ decimal cs = k := by
  cases cs with
  | nil => exact iff_of_false nofun fun h => h.1.ne_nil rfl
  | cons c cs =>
    rw [natural?, digitsFrom?_eq_some_iff]
    · exact and_congr_left' ⟨fun h => ⟨List.cons_ne_nil c cs, h⟩, Digits.digits⟩
    · exact nofun

/-- Digits are read as they are: none of them is a sign. -/
theorem withSign?_of_digits (h : Digits cs) : withSign? cs = (natural? cs).map Int.ofNat := by
  unfold withSign?
  split
  · exact absurd (h.digits '+' (.head _)) (by decide)
  · exact absurd (h.digits '-' (.head _)) (by decide)
  · rfl

theorem withPlus?_of_digits (h : Digits cs) : withPlus? cs = natural? cs := by
  unfold withPlus?
  split
  · exact absurd (h.digits '+' (.head _)) (by decide)
  · rfl

theorem withPlus?_eq_some_iff {n : Nat} : withPlus? cs = some n ↔ SpellsNatural cs n := by
  constructor
  · intro h
    unfold withPlus? at h
    split at h
    all_goals obtain ⟨hdigits, rfl⟩ := natural?_eq_some_iff.1 h
    · exact .plus hdigits
    · exact .plain hdigits
  · intro h
    cases h with
    | plain h => rw [withPlus?_of_digits h, natural?_eq_some_iff.2 ⟨h, rfl⟩]
    | plus h => exact natural?_eq_some_iff.2 ⟨h, rfl⟩

theorem unsigned?_eq_some_iff {bound n : Nat} :
    unsigned? bound cs = some n ↔ SpellsNatural cs n ∧ n < bound := by
  rw [unsigned?, Option.filter_eq_some_iff, withPlus?_eq_some_iff, decide_eq_true_iff]

theorem unsigned?_of_digits {bound : Nat} (h : Digits cs) (hlt : decimal cs < bound) :
    unsigned? bound cs = some (decimal cs) :=
  unsigned?_eq_some_iff.2 ⟨.plain h, hlt⟩

theorem withSign?_eq_some_iff {n : Int} : withSign? cs = some n ↔ Spells cs n := by
  constructor
  · intro h
    unfold withSign? at h
    split at h
    all_goals
      obtain ⟨k, hk, rfl⟩ := Option.map_eq_some_iff.1 h
      obtain ⟨hdigits, rfl⟩ := natural?_eq_some_iff.1 hk
    · exact .plus hdigits
    · exact .minus hdigits
    · exact .plain hdigits
  · intro h
    cases h with
    | plain h => rw [withSign?_of_digits h, natural?_eq_some_iff.2 ⟨h, rfl⟩]; rfl
    | plus h => rw [withSign?, natural?_eq_some_iff.2 ⟨h, rfl⟩]; rfl
    | minus h => rw [withSign?, natural?_eq_some_iff.2 ⟨h, rfl⟩]; rfl

/-- The numbers that are read are those that are spelt. -/
theorem signed32?_eq_some_iff {n : Int} : signed32? cs = some n ↔ Spells32 cs n := by
  unfold signed32?
  rw [Option.filter_eq_some_iff, withSign?_eq_some_iff, fits32_iff]
  exact ⟨fun ⟨hspells, hge, hle⟩ => ⟨hspells, hge, hle⟩, fun h => ⟨h.spells, h.ge, h.le⟩⟩

theorem Spells32.unique {n k : Int} (hn : Spells32 cs n) (hk : Spells32 cs k) : n = k :=
  Option.some.inj ((signed32?_eq_some_iff.2 hn).symm.trans (signed32?_eq_some_iff.2 hk))

theorem signed32?_eq_none_iff : signed32? cs = none ↔ ∀ n, ¬Spells32 cs n := by
  rw [Option.eq_none_iff_forall_ne_some]
  exact forall_congr' fun n => not_congr signed32?_eq_some_iff

/-! ## Numerals as they are written -/

/-- The digits are those that stand for the number, with no more zeros than need be. -/
structure Canonical (numeral : List Char) (n : Nat) : Prop where
  digits : Digits numeral
  decimal_eq : decimal numeral = n
  /-- Only the numeral of zero starts with one. -/
  head : numeral.head? = some '0' → numeral = ['0']

/-- By induction on the number without its last digit: the first digit stays the same. -/
theorem head?_toDigits {n : Nat} (hn : n ≠ 0) : (Nat.toDigits 10 n).head? ≠ some '0' := by
  induction n using Nat.strong_induction_on with
  | h n ih =>
    rcases Nat.lt_or_ge n 10 with hlt | hge
    · have hdigit : ∀ d < 10, d ≠ 0 → d.digitChar ≠ '0' := by decide
      rw [Nat.toDigits_of_lt_base hlt]
      exact fun h => hdigit n hlt hn (Option.some.inj h)
    · have hfront : (Nat.toDigits 10 (n / 10)).head? ≠ some '0' := ih (n / 10) (by omega) (by omega)
      rw [Nat.toDigits_of_base_le (by decide) hge,
        List.head?_append_of_ne_nil _ Nat.toDigits_ne_nil]
      exact hfront

/-- Numbers are written as canonical numerals. -/
theorem canonical_toDigits (n : Nat) : Canonical (Nat.toDigits 10 n) n where
  digits := ⟨Nat.toDigits_ne_nil, fun _ => Nat.isDigit_of_mem_toDigits (by decide) (by decide)⟩
  decimal_eq := Nat.ofDigitChars_toDigits (by decide) (by decide)
  head := by
    rcases Nat.eq_zero_or_pos n with rfl | hn
    · exact fun _ => rfl
    · exact fun h => absurd h (head?_toDigits hn.ne')

end Cooling.Text
