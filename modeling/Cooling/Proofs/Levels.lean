-- SUMMARY: Which texts are read as a level, and the one text in which each level is written.
import Cooling.Proofs.LevelLines
import Cooling.Proofs.Lines

/-!
# Levels

A level can be spelt in many ways: with blanks around it, with or without the word `level`,
and a number with a plus sign and with zeros before it. It is written in one way only, as a
single line, and that is read as the same level again.
-/

namespace Cooling.Level

/-! ## Spellings -/

/-- The word means the level: a number of 32 bits in decimal, with a plus sign or without, or
    one of the known names. -/
inductive Means : List Char → Level → Prop
  | plain {word : List Char} {level : Level} (h : Says word level) : Means word level
  | plus {digits : List Char} (h : Text.Digits digits) (hle : Text.decimal digits ≤ 4294967295) :
      Means ('+' :: digits) (.numeric (UInt32.ofNat (Text.decimal digits)))

/-- The text is a word for the level, behind the word `level` and blanks, which both may be
    missing. -/
inductive Spelling : List Char → Level → Prop
  | unlabelled {word : List Char} {level : Level} (h : Means word level) : Spelling word level
  | labelled {gap word : List Char} {level : Level} (hgap : ∀ c ∈ gap, Text.isBlank c = true)
      (h : Means word level) : Spelling ("level".toList ++ (gap ++ word)) level

/-- The word with which a level is written, and its number, which only a numeral has. -/
inductive Written : List Char → Option UInt32 → Prop
  | number {digits : List Char} {n : UInt32} (h : Text.Canonical digits n.toNat) :
      Written digits (some n)
  | name {name : String} (h : name ∈ names) : Written name.toList none

variable {word given : List Char} {level : Level} {s : String}

theorem ofWord?_eq_some_iff : ofWord? word = some level ↔ Means word level := by
  constructor
  · intro h
    unfold ofWord? at h
    split at h
    · rename_i n hn
      obtain rfl := Option.some.inj h
      obtain ⟨hspells, hlt⟩ := Text.unsigned?_eq_some_iff.1 hn
      cases hspells with
      | plain hdigits => exact .plain (.number hdigits (Nat.le_of_lt_succ hlt))
      | plus hdigits => exact .plus hdigits (Nat.le_of_lt_succ hlt)
    · split at h
      · rename_i hname
        obtain rfl := Option.some.inj h
        have hsays := Says.name hname
        rw [String.toList_ofList] at hsays
        exact .plain hsays
      · cases h
  · intro h
    cases h with
    | plain h => exact h.ofWord?_eq
    | plus h hle =>
      rw [ofWord?, Text.unsigned?_eq_some_iff.2 ⟨.plus h, Nat.lt_succ_of_le hle⟩]

/-- No word for a level starts like the word `level`, or with a blank. -/
theorem Means.head (h : Means word level) :
    ∀ c ∈ word.head?, c ≠ 'l' ∧ Text.isBlank c = false := by
  have hdigit : ∀ c : Char, c.isDigit = true → c ≠ 'l' := by
    rintro _ hdigit rfl
    cases hdigit
  have hname : ∀ name ∈ names, name.toList.head? ≠ some 'l' := by decide
  cases h with
  | plain h =>
    intro c hc
    have hmem := List.mem_of_mem_head? hc
    refine ⟨?_, h.visible c hmem⟩
    cases h with
    | number h hle => exact hdigit c (h.digits c hmem)
    | name h => exact fun hl => hname _ h (hl ▸ hc)
  | plus h hle =>
    rintro _ ⟨⟩
    decide

/-- A text without the word `level` before it is taken as it is. -/
theorem bare_of_means (h : Means word level) : bare word = word := by
  have hnone : Text.afterStart? "level".toList word = none := by
    refine Option.eq_none_iff_forall_ne_some.2 fun rest hrest => ?_
    rw [Text.afterStart?_eq_some_iff] at hrest
    exact (h.head 'l' (hrest ▸ rfl)).1 rfl
  rw [bare, hnone]

theorem bare_labelled {gap : List Char} (hgap : ∀ c ∈ gap, Text.isBlank c = true)
    (h : Means word level) : bare ("level".toList ++ (gap ++ word)) = word := by
  rw [bare, Text.afterStart?_eq_some_iff.2 rfl]
  dsimp only
  rw [Text.trimStart, List.dropWhile_append_of_pos hgap]
  exact Text.trimStart_eq_self fun c hc => (h.head c hc).2

/-- What is read from a text without blanks around it. -/
theorem ofWord?_bare_eq_some_iff : ofWord? (bare given) = some level ↔ Spelling given level := by
  rw [ofWord?_eq_some_iff]
  constructor
  · intro h
    unfold bare at h
    split at h
    · rename_i rest hrest
      obtain rfl := Text.afterStart?_eq_some_iff.1 hrest
      rw [← List.takeWhile_append_dropWhile (p := Text.isBlank) (l := rest)]
      exact .labelled (fun c => List.mem_takeWhile_imp) h
    · exact .unlabelled h
  · intro h
    cases h with
    | unlabelled h => rwa [bare_of_means h]
    | labelled hgap h => rwa [bare_labelled hgap h]

/-- The texts that are read as a level. -/
theorem parse_eq_ok_iff :
    parse s = .ok level ↔ ∃ given, Text.Pads s.toList given ∧ Spelling given level := by
  have hparse : parse s = .ok level ↔ ofWord? (bare (Text.trim s.toList)) = some level := by
    unfold parse
    dsimp only
    cases ofWord? (bare (Text.trim s.toList)) <;> simp
  rw [hparse, ofWord?_bare_eq_some_iff]
  constructor
  · exact fun h => ⟨_, Text.pads_trim _, h⟩
  · rintro ⟨given, hpads, h⟩
    rwa [hpads.trim_eq]

theorem parse_error {f : Failure} (h : parse s = .error f) : f.kind = .config := by
  unfold parse at h
  dsimp only at h
  split at h
  · cases h
  · cases h
    rfl

/-! ## The written form -/

theorem written_numeric (n : UInt32) : ∃ word, Written word (numeric n).number? ∧
    Says word (numeric n) ∧ (numeric n).text = "level " ++ String.ofList word := by
  have hcanonical := Text.canonical_toDigits n.toNat
  have hle : Text.decimal (Nat.toDigits 10 n.toNat) ≤ 4294967295 := by
    rw [hcanonical.decimal_eq]
    exact Nat.le_of_lt_succ n.toNat_lt
  have hsays := Says.number hcanonical.digits hle
  rw [hcanonical.decimal_eq, UInt32.ofNat_toNat] at hsays
  exact ⟨_, .number hcanonical, hsays, rfl⟩

/-- A level that a word means is written with a word that means it as well. -/
theorem Says.exists_written (h : Says word level) : ∃ word', Written word' level.number? ∧
    Says word' level ∧ level.text = "level " ++ String.ofList word' := by
  cases h with
  | number h hle => exact written_numeric _
  | @name name h => exact ⟨_, .name h, .name h, by rw [String.ofList_toList]; rfl⟩

theorem Spelling.says (h : Spelling given level) : ∃ word, Says word level := by
  have hmeans : ∀ {word}, Means word level → ∃ word, Says word level := by
    intro word h
    cases h with
    | plain h => exact ⟨_, h⟩
    | plus hdigits hle => exact ⟨_, .number hdigits hle⟩
  cases h with
  | unlabelled h => exact hmeans h
  | labelled hgap h => exact hmeans h

/-- The text is the word behind the word `level`, all in one line, and is read as the level. -/
theorem text_read_back (h : Says word level) (htext : level.text = "level " ++ String.ofList word) :
    Text.Lines level.text.toList [level.text.toList] ∧ parse level.text = .ok level := by
  have hchars : level.text.toList = "level ".toList ++ word := by
    rw [htext]
    simp
  constructor
  · rw [hchars]
    refine .last (List.cons_ne_nil _ _) fun hfeed => ?_
    rcases List.mem_append.1 hfeed with hlabel | hword
    · exact absurd hlabel (by decide)
    · cases h.visible '\n' hword
  · rw [htext, parse_command h.ne_nil h.visible, h.ofWord?_eq]

/-- A text is read as a level if and only if it spells it, and is a mistake in the
    configuration otherwise. The level is then written as a single line, with the canonical
    word for it, and the same level is read from that. So is any number. -/
theorem parse_canonical (s : String) :
    (∀ level, parse s = .ok level ↔
      ∃ given, Text.Pads s.toList given ∧ Spelling given level) ∧
    (∀ f, parse s = .error f → f.kind = .config) ∧
    (∀ level, parse s = .ok level → ∃ word, Written word level.number? ∧
      level.text = "level " ++ String.ofList word ∧
      Text.Lines level.text.toList [level.text.toList] ∧ parse level.text = .ok level) ∧
    ∀ n, parse (numeric n).text = .ok (numeric n) := by
  refine ⟨fun level => parse_eq_ok_iff, fun f => parse_error, fun level hparse => ?_, fun n => ?_⟩
  · obtain ⟨given, -, hspelling⟩ := parse_eq_ok_iff.1 hparse
    obtain ⟨_, hsays⟩ := hspelling.says
    obtain ⟨word, hwritten, hsays, htext⟩ := hsays.exists_written
    obtain ⟨hline, hback⟩ := text_read_back hsays htext
    exact ⟨word, hwritten, htext, hline, hback⟩
  · obtain ⟨word, -, hsays, htext⟩ := written_numeric n
    exact (text_read_back hsays htext).2

/-- Zeros and a plus sign are not written again. -/
example : parse " level\t+007\n" = .ok (numeric 7) ∧ (numeric 7).text = "level 7" := by
  decide +kernel

end Cooling.Level
