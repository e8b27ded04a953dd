-- SUMMARY: Which level a status text shows, which level the driver makes of it, and when the two are the same.
import Cooling.Proofs.Custody
import Cooling.Proofs.Fields

/-!
# Level lines

A line of a status text that shows the level is a label, a gap of spaces and tabulators, and
a word, which may be missing. The driver takes what follows the last space or tabulator of
the line, once blanks at its end are gone. That is the word if there is both a gap and a
word. Without a word the gap is gone with the blanks, and without a gap there is nothing to
split at: in both cases the label is taken for a part of the level, and what is written when
the fan is restored is not a level command.
-/

namespace Cooling

open Program

/-! ## Words for levels -/

namespace Level

/-- The word means the level: a number of 32 bits in decimal, or one of the known names. -/
inductive Says : List Char → Level → Prop
  | number {digits : List Char} (h : Text.Digits digits) (hle : Text.decimal digits ≤ 4294967295) :
      Says digits (.numeric (UInt32.ofNat (Text.decimal digits)))
  | name {name : String} (h : name ∈ names) : Says name.toList (.named name)

variable {word : List Char} {level : Level}

/-- The known names are words, and none of them is a number. -/
theorem names_words : ∀ name ∈ names, name.toList ≠ [] ∧
    name.toList.all (fun c => !Text.isBlank c) = true ∧
    Text.unsigned? 4294967296 name.toList = none := by decide

theorem Says.ne_nil (h : Says word level) : word ≠ [] := by
  cases h with
  | number h hle => exact h.ne_nil
  | name h => exact (names_words _ h).1

theorem Says.visible (h : Says word level) : ∀ c ∈ word, Text.isBlank c = false := by
  cases h with
  | number h hle => exact h.visible
  | name h => exact Text.all_visible_iff.1 (names_words _ h).2.1

/-- A word that means a level is read as that level. -/
theorem Says.ofWord?_eq (h : Says word level) : ofWord? word = some level := by
  cases h with
  | number h hle =>
    rw [ofWord?, Text.unsigned?_of_digits h (Nat.lt_succ_of_le hle)]
  | @name name h =>
    rw [ofWord?, (names_words name h).2.2, String.ofList_toList, if_pos h]

/-- The label of a line with a level is no part of a level. -/
theorem ofWord?_label (word : List Char) : ofWord? ("level:".toList ++ word) = none := by
  have hnumber : Text.unsigned? 4294967296 ("level:".toList ++ word) = none := rfl
  have hname : String.ofList ("level:".toList ++ word) ∉ names := by
    intro h
    have hcolon : ∀ name ∈ names, ':' ∉ name.toList := by decide
    exact hcolon _ h (by simp)
  rw [ofWord?, hnumber, if_neg hname]

/-- A level command is read as the level that its word means. -/
theorem parse_command (hne : word ≠ []) (hword : ∀ c ∈ word, Text.isBlank c = false) :
    parse ("level " ++ String.ofList word) =
      match ofWord? word with
      | some level => .ok level
      | none => .error (unknown ("level ".toList ++ word)) := by
  have hchars : ("level " ++ String.ofList word).toList = "level ".toList ++ word := by simp
  have htrim : Text.trim ("level ".toList ++ word) = "level ".toList ++ word :=
    Text.trimEnd_append_of_field hne hword "level ".toList
  have hbare : bare ("level ".toList ++ word) = word :=
    Text.trimStart_eq_self fun c hc => hword c (List.mem_of_mem_head? hc)
  cases hlevel : ofWord? word <;> simp only [parse, hchars, htrim, hbare, hlevel]

end Level

/-! ## Lines that show a level -/

namespace ThinkpadStatus

/-- The line shows a level: the gap between its label and its word, and the word, if there
    is one. -/
inductive ShowsLevel : (line gap word : List Char) → Prop
  | intro {gap word trailing : List Char} (hgap : ∀ c ∈ gap, c = ' ' ∨ c = '\t')
      (hword : word = [] ∨ ∃ level, Level.Says word level)
      (htrailing : ∀ c ∈ trailing, Text.isBlank c = true) :
      ShowsLevel ("level:".toList ++ (gap ++ (word ++ trailing))) gap word

/-- What the driver takes for the level of a line. -/
def lastPart (line : List Char) : List Char :=
  ((Text.trimEnd line).reverse.takeWhile (fun c => c != ' ' && c != '\t')).reverse

/-- The lines with a level in them. -/
def levelLines (status : String) : List (List Char) :=
  (Text.lines status.toList).filter (Text.hasInfix "level:".toList)

variable {line gap word : List Char}

/-- What follows the last separator. -/
theorem reverse_takeWhile_reverse {p : Char → Bool} {separator : Char} {word : List Char}
    (hseparator : p separator = false) (hword : ∀ c ∈ word, p c = true) (cs : List Char) :
    ((cs ++ separator :: word).reverse.takeWhile p).reverse = word := by
  have hreversed : ∀ c ∈ word.reverse, p c = true := fun c hc => hword c (List.mem_reverse.1 hc)
  rw [List.reverse_append, List.reverse_cons, List.append_assoc,
    List.takeWhile_append_of_pos hreversed]
  simp [hseparator]

/-- What separates a word from what is before it is blank. -/
theorem ne_separator_of_visible {c : Char} (h : Text.isBlank c = false) :
    (c != ' ' && c != '\t') = true := by
  simp only [Bool.and_eq_true, bne_iff_ne]
  constructor <;> (rintro rfl; cases h)

/-- The word is found if there is a gap before it. -/
theorem ShowsLevel.lastPart_eq (h : ShowsLevel line gap word) (hgap : gap ≠ [])
    (hword : word ≠ []) : lastPart line = word := by
  cases h with
  | @intro gap word trailing hseparators hmeans htrailing =>
    obtain ⟨level, hmeans⟩ := hmeans.resolve_left hword
    have hsplit := List.dropLast_append_getLast hgap
    have hseparator := hseparators _ (List.getLast_mem hgap)
    generalize gap.dropLast = front at hsplit
    generalize gap.getLast hgap = separator at hsplit hseparator
    have hkept : ("level:".toList ++ gap) ++ word =
        ("level:".toList ++ front) ++ separator :: word := by
      rw [← hsplit]
      simp only [List.append_assoc, List.singleton_append]
    rw [lastPart, ← List.append_assoc, ← List.append_assoc,
      Text.trimEnd_append_of_isBlank htrailing, Text.trimEnd_append_of_field hword hmeans.visible,
      hkept]
    refine reverse_takeWhile_reverse ?_ ?_ _
    · rcases hseparator with rfl | rfl <;> rfl
    · exact fun c hc => ne_separator_of_visible (hmeans.visible c hc)

theorem ShowsLevel.visible (h : ShowsLevel line gap word) :
    ∀ c ∈ "level:".toList ++ word, Text.isBlank c = false := by
  cases h with
  | intro hseparators hmeans htrailing =>
    refine List.forall_mem_append.2 ⟨Text.all_visible_iff.1 (by decide), ?_⟩
    rcases hmeans with rfl | ⟨level, hmeans⟩
    · exact nofun
    · exact hmeans.visible

/-- Without a gap, or without a word behind it, the label is found as well. -/
theorem ShowsLevel.lastPart_eq_label (h : ShowsLevel line gap word)
    (hshort : gap = [] ∨ word = []) : lastPart line = "level:".toList ++ word := by
  cases h with
  | @intro gap word trailing hseparators hmeans htrailing =>
    have hvisible := ShowsLevel.visible (.intro hseparators hmeans htrailing)
    obtain ⟨blanks, hblanks, hline⟩ : ∃ blanks, (∀ c ∈ blanks, Text.isBlank c = true) ∧
        "level:".toList ++ (gap ++ (word ++ trailing)) = ("level:".toList ++ word) ++ blanks := by
      rcases hshort with rfl | rfl
      · exact ⟨trailing, htrailing, (List.append_assoc _ _ _).symm⟩
      · refine ⟨gap ++ trailing, List.forall_mem_append.2 ⟨fun c hc => ?_, htrailing⟩, by simp⟩
        rcases hseparators c hc with rfl | rfl <;> decide
    have htrimmed : Text.trimEnd ("level:".toList ++ word) = "level:".toList ++ word :=
      Text.trimEnd_append_of_field (List.cons_ne_nil _ _) hvisible []
    rw [lastPart, hline, Text.trimEnd_append_of_isBlank hblanks, htrimmed,
      List.takeWhile_eq_self_iff.2, List.reverse_reverse]
    exact fun c hc => ne_separator_of_visible (hvisible c (List.mem_reverse.1 hc))

theorem filterMap_levelValue? (lines : List (List Char)) :
    lines.filterMap levelValue? = (lines.filter (Text.hasInfix "level:".toList)).map lastPart := by
  induction lines with
  | nil => rfl
  | cons line lines ih =>
    cases hlevel : Text.hasInfix "level:".toList line with
    | true =>
      have hvalue : levelValue? line = some (lastPart line) := if_pos hlevel
      rw [List.filterMap_cons_some hvalue, ih, List.filter_cons_of_pos hlevel, List.map_cons]
    | false =>
      have hnone := Bool.not_eq_true _ ▸ hlevel
      have hvalue : levelValue? line = none := if_neg hnone
      rw [List.filterMap_cons_none hvalue, ih, List.filter_cons_of_neg hnone]

/-- The last line with a level in it is the one that counts. -/
theorem level_eq (status : String) :
    level status = (levelLines status).getLast?.elim fallback fun line =>
      if lastPart line = [] then fallback else String.ofList (lastPart line) := by
  rw [level, filterMap_levelValue?, List.getLast?_map, levelLines]
  generalize ((Text.lines status.toList).filter (Text.hasInfix "level:".toList)).getLast? = last
  cases last with
  | none => rfl
  | some line => cases hlast : lastPart line <;> simp [hlast]

/-- The level that a word stands for, or automatic mode if there is no word. -/
inductive Promises : List Char → Level → Prop
  | word {word : List Char} {level : Level} (h : Level.Says word level) : Promises word level
  | nothing : Promises [] (.named fallback)

/-! ## What is restored -/

variable {status : String} {level : Level}

/-- Without a line with a level in it, automatic mode is restored. -/
theorem parse_level_of_nil (h : levelLines status = []) :
    Level.parse ("level " ++ ThinkpadStatus.level status) = .ok (.named fallback) := by
  rw [level_eq, h]
  rfl

/-- A gap and a word make a level command. -/
theorem parse_level_of_gap (hlast : (levelLines status).getLast? = some line)
    (h : ShowsLevel line gap word) (hgap : gap ≠ []) (hmeans : Level.Says word level) :
    Level.parse ("level " ++ ThinkpadStatus.level status) = .ok level := by
  have hshown : ThinkpadStatus.level status = String.ofList word := by
    rw [level_eq, hlast, Option.elim_some, h.lastPart_eq hgap hmeans.ne_nil, if_neg hmeans.ne_nil]
  rw [hshown, Level.parse_command hmeans.ne_nil hmeans.visible, hmeans.ofWord?_eq]

/-- Otherwise the label is taken for a part of the level, which nobody knows then. -/
theorem parse_level_of_label (hlast : (levelLines status).getLast? = some line)
    (h : ShowsLevel line gap word) (hshort : gap = [] ∨ word = []) :
    ThinkpadStatus.level status = "level:" ++ String.ofList word ∧
      Level.parse ("level " ++ ThinkpadStatus.level status) =
        .error (Level.unknown ("level level:".toList ++ word)) := by
  have hne : "level:".toList ++ word ≠ [] := List.cons_ne_nil _ _
  have hshown : ThinkpadStatus.level status = String.ofList ("level:".toList ++ word) := by
    rw [level_eq, hlast, Option.elim_some, h.lastPart_eq_label hshort, if_neg hne]
  refine ⟨by rw [hshown, String.ofList_append]; rfl, ?_⟩
  rw [hshown, Level.parse_command hne h.visible, Level.ofWord?_label]
  rfl

end ThinkpadStatus

namespace ThinkpadFan

open ThinkpadStatus

variable {path status : String} {m : Machine} {fan : ThinkpadFan}

/-- What a fan that is found takes down. -/
theorem initialLevel_of_find (hfile : m.files.get? path = some status.toUTF8)
    (hfound : (find path).run.value m = .ok fan) :
    '\x00' ∉ path.toList ∧ fan = { path, initialLevel := ThinkpadStatus.level status } := by
  have hfind : (Fan.find .thinkpad path).run.value m = .ok (.thinkpad fan) :=
    (wp_run_map (m := m) Fan.thinkpad (find path)
      (Q := fun r _ _ => r = .ok (.thinkpad fan))).2 (congrArg (Except.map Fan.thinkpad) hfound)
  obtain ⟨⟨hpath, -⟩, bytes, contents, hbytes, hdecode, hshown⟩ :=
    Fan.find_shows .thinkpad path m _ hfind
  obtain rfl := Fan.thinkpad.inj hshown
  obtain rfl : status.toUTF8 = bytes := Option.some.inj (hfile.symm.trans hbytes)
  rw [ControlFile.decode_toUTF8] at hdecode
  obtain rfl : status = contents := Except.ok.inj hdecode
  exact ⟨hpath, rfl⟩

/-- What is written when a fan that was found is restored, and when that is the level that its
    status text promised: if there is no line with a level in it, or if the last one has both a
    gap and a word. Otherwise it is a text that means no level. -/
theorem restores_promise_iff (hfile : m.files.get? path = some status.toUTF8)
    (hfound : (find path).run.value m = .ok fan) :
    (∀ m', fan.restore.run.WritesOnce path s!"level {fan.initialLevel}"
      (fun r result => r = result.mapError (notRestored path fan.initialLevel)) m') ∧
    (levelLines status = [] →
      Level.parse s!"level {fan.initialLevel}" = .ok (.named fallback)) ∧
    ∀ line gap word level, (levelLines status).getLast? = some line →
      ShowsLevel line gap word → Promises word level →
      (Level.parse s!"level {fan.initialLevel}" = .ok level ↔ gap ≠ [] ∧ word ≠ []) ∧
      (gap = [] ∨ word = [] →
        fan.initialLevel = "level:" ++ String.ofList word ∧
        ∃ f, Level.parse s!"level {fan.initialLevel}" = .error f ∧ f.kind = .config) := by
  obtain ⟨hpath, rfl⟩ := initialLevel_of_find hfile hfound
  refine ⟨fun m' => restore_once hpath rfl m', parse_level_of_nil, ?_⟩
  intro line gap word level hlast hshows hpromises
  have hlabel := parse_level_of_label hlast hshows
  refine ⟨⟨fun hparse => ?_, fun ⟨hgap, hword⟩ => ?_⟩, fun hshort => ?_⟩
  · rw [← not_or]
    intro hshort
    cases hparse.symm.trans (hlabel hshort).2
  · cases hpromises with
    | word hmeans => exact parse_level_of_gap hlast hshows hgap hmeans
    | nothing => exact absurd rfl hword
  · exact ⟨(hlabel hshort).1, _, (hlabel hshort).2, rfl⟩

/-- A status text that has a line for the level, but no level in it. -/
def unset : String := "level:\t\t\ncommands: level <level>"

/-- A fan that shows no level behind its label is not restored to automatic mode. -/
theorem unset_not_restored :
    let m : Machine := { files := (∅ : Registry ByteArray).set "fan" unset.toUTF8 }
    ∃ fan, (find "fan").run.value m = .ok fan ∧
      fan.restore.run.WritesOnce "fan" "level level:"
        (fun r result => r = result.mapError (notRestored "fan" "level:")) m ∧
      Level.parse "level level:" ≠ .ok (.named "auto") := by
  intro m
  have hfile : m.files.get? "fan" = some unset.toUTF8 := by rw [Registry.get?_set, if_pos rfl]
  have hlines : levelLines unset = ["level:\t\t".toList] := by decide
  have hgap : ∀ c ∈ ['\t', '\t'], c = ' ' ∨ c = '\t' := by simp
  have hshows : ShowsLevel "level:\t\t".toList ['\t', '\t'] [] :=
    .intro hgap (.inl rfl) (List.forall_mem_nil _)
  obtain ⟨fan, hfound⟩ := find_takesLevels (m := m) ⟨rfl, rfl, rfl⟩ (by decide) hfile (by decide)
  have hlast : (levelLines unset).getLast? = some "level:\t\t".toList := by rw [hlines]; rfl
  obtain ⟨hwrites, -, hlevel⟩ := restores_promise_iff hfile hfound
  obtain ⟨hiff, hlabel⟩ := hlevel _ _ _ _ hlast hshows .nothing
  have hinitial : fan.initialLevel = "level:" := (hlabel (.inr rfl)).1
  rw [hinitial] at hwrites hiff
  exact ⟨fan, hfound, hwrites m, fun hparse => (hiff.1 hparse).2 rfl⟩

end ThinkpadFan

end Cooling
