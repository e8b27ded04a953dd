-- SUMMARY: Which status texts a ThinkPad fan is found by, and which level it takes from their lines.
import Cooling.Proofs.LevelLines
import Cooling.Proofs.Lines

/-!
# Status texts

A status text is read line by line. A line with the label of the level shows a level, whatever
else is in it. Any other line with the label of the commands may say that levels are taken.
One such line will do, wherever it stands. Of the lines that show a level the last one counts,
and of that line only what follows its last space or tabulator. So the other lines can come
and go.
-/

namespace Cooling

open Program

namespace ThinkpadStatus

/-! ## Lines -/

/-- The line says that levels are taken. -/
structure Offers (line : List Char) : Prop where
  commands : "commands:".toList <:+: line
  level : "level <level>".toList <:+: line
  unlabelled : ¬"level:".toList <:+: line

/-- The line holds one of the labels that are looked for. -/
def Tells (line : List Char) : Prop :=
  "level:".toList <:+: line ∨ "commands:".toList <:+: line

instance (line : List Char) : Decidable (Tells line) := inferInstanceAs (Decidable (_ ∨ _))

/-- The part is what the line ends in, from behind its last space or tabulator on. Blanks at
    the end of the line do not count. -/
inductive EndsIn : (line part : List Char) → Prop
  | intro {front part blanks : List Char} (hfront : ∀ c ∈ front.getLast?, c = ' ' ∨ c = '\t')
      (hpart : ∀ c ∈ part, c ≠ ' ' ∧ c ≠ '\t') (hlast : ∃ c ∈ part.getLast?, Text.isBlank c = false)
      (hblanks : ∀ c ∈ blanks, Text.isBlank c = true) : EndsIn (front ++ (part ++ blanks)) part

variable {line part : List Char}

theorem offersLevels_iff : offersLevels line = true ↔ Offers line := by
  simp only [offersLevels, Bool.and_eq_true, Bool.not_eq_true', Text.hasInfix_iff,
    Text.hasInfix_eq_false_iff]
  exact ⟨fun ⟨⟨hlabel, hcommands⟩, hlevel⟩ => ⟨hcommands, hlevel, hlabel⟩,
    fun h => ⟨⟨h.unlabelled, h.commands⟩, h.level⟩⟩

theorem Offers.tells (h : Offers line) : Tells line := .inr h.commands

theorem EndsIn.lastPart_eq (h : EndsIn line part) : lastPart line = part := by
  cases h with
  | @intro front part blanks hfront hpart hlast hblanks =>
    obtain ⟨last, hlast, hvisible⟩ := hlast
    have hne : part ≠ [] := by
      rintro rfl
      cases hlast
    have hkept : Text.trimEnd (front ++ part) = front ++ part := by
      refine Text.trimEnd_eq_self fun c hc => ?_
      rw [List.getLast?_append_of_ne_nil _ hne, hlast] at hc
      exact Option.some.inj hc ▸ hvisible
    have hchars : ∀ c ∈ part, (c != ' ' && c != '\t') = true := by
      simpa using hpart
    rw [lastPart, ← List.append_assoc, Text.trimEnd_append_of_isBlank hblanks, hkept]
    rcases List.eq_nil_or_concat' front with rfl | ⟨front, separator, rfl⟩
    · exact List.rtakeWhile_eq_self_iff.2 hchars
    · rw [List.append_assoc]
      refine reverse_takeWhile_reverse ?_ hchars front
      rcases hfront separator (by simp) with rfl | rfl <;> rfl

theorem EndsIn.ne_nil (h : EndsIn line part) : part ≠ [] := by
  cases h with
  | intro hfront hpart hlast hblanks =>
    rintro rfl
    obtain ⟨c, hc, -⟩ := hlast
    cases hc

theorem EndsIn.separated (h : EndsIn line part) : ∀ c ∈ part, c ≠ ' ' ∧ c ≠ '\t' := by
  cases h with
  | intro hfront hpart hlast hblanks => exact hpart

theorem EndsIn.subset (h : EndsIn line part) : part ⊆ line := by
  cases h with
  | @intro front part blanks => exact (List.infix_append' front part blanks).subset

/-- A line that is not all blank ends in the part that is taken. -/
theorem endsIn_lastPart (hvisible : ∃ c ∈ line, Text.isBlank c = false) :
    EndsIn line (lastPart line) := by
  let inside : Char → Bool := fun c => c != ' ' && c != '\t'
  have htrimmed : Text.trimEnd line ++ line.rtakeWhile Text.isBlank = line :=
    List.rdropWhile_append_rtakeWhile
  have hparts : (Text.trimEnd line).rdropWhile inside ++ lastPart line = Text.trimEnd line :=
    List.rdropWhile_append_rtakeWhile
  have hne : Text.trimEnd line ≠ [] := by
    intro hnil
    obtain ⟨c, hc, hvisible⟩ := hvisible
    rw [Text.trimEnd_eq_nil_iff.1 hnil c hc] at hvisible
    cases hvisible
  have hlast : Text.isBlank ((Text.trimEnd line).getLast hne) = false :=
    Bool.not_eq_true _ ▸ List.rdropWhile_last_not Text.isBlank line hne
  have hpart : lastPart line ≠ [] := fun hnil =>
    List.rtakeWhile_eq_nil_iff.1 hnil hne (ne_separator_of_visible hlast)
  have hends : EndsIn ((Text.trimEnd line).rdropWhile inside ++
      (lastPart line ++ line.rtakeWhile Text.isBlank)) (lastPart line) := by
    refine .intro ?_ ?_ ⟨(Text.trimEnd line).getLast hne, ?_, hlast⟩
      fun c => List.mem_rtakeWhile_imp
    · intro c hc
      obtain ⟨hfront, rfl⟩ := List.mem_getLast?_eq_getLast hc
      simpa [inside, or_iff_not_imp_left] using List.rdropWhile_last_not inside _ hfront
    · intro c hc
      simpa [inside] using List.mem_rtakeWhile_imp hc
    · rw [← List.getLast?_append_of_ne_nil _ hpart, hparts]
      exact List.getLast_mem_getLast? hne
  rwa [← List.append_assoc, hparts, htrimmed] at hends

theorem endsIn_iff (hvisible : ∃ c ∈ line, Text.isBlank c = false) :
    EndsIn line part ↔ lastPart line = part := by
  refine ⟨EndsIn.lastPart_eq, ?_⟩
  rintro rfl
  exact endsIn_lastPart hvisible

/-- A line with the label of the level is not all blank. -/
theorem visible_of_label (h : "level:".toList <:+: line) : ∃ c ∈ line, Text.isBlank c = false :=
  ⟨'l', h.subset (by decide), by decide⟩

/-! ## The level of a status text -/

variable {status : String} {lines : List (List Char)}

theorem levelLines_eq (hlines : Text.Lines status.toList lines) :
    levelLines status = lines.filter (Text.hasInfix "level:".toList) := by
  rw [levelLines, hlines.lines_eq]

theorem takesLevels_iff (hlines : Text.Lines status.toList lines) :
    takesLevels status = true ↔ ∃ line ∈ lines, Offers line := by
  simp only [takesLevels, hlines.lines_eq, List.any_eq_true, offersLevels_iff]

theorem level_of_unshown (hlines : Text.Lines status.toList lines)
    (hnone : ∀ line ∈ lines, ¬"level:".toList <:+: line) : level status = fallback := by
  have hempty : levelLines status = [] := by
    rw [levelLines_eq hlines]
    exact List.filter_eq_nil_iff.2 fun line hline => mt Text.hasInfix_iff.1 (hnone line hline)
  rw [level_eq, hempty]
  rfl

theorem label_of_mem (h : line ∈ levelLines status) : "level:".toList <:+: line :=
  Text.hasInfix_iff.1 (List.mem_filter.1 h).2

theorem level_eq_lastPart (hlast : (levelLines status).getLast? = some line) :
    level status = String.ofList (lastPart line) := by
  have hlabel := label_of_mem (List.mem_of_mem_getLast? hlast)
  have hne : lastPart line ≠ [] := (endsIn_lastPart (visible_of_label hlabel)).ne_nil
  rw [level_eq, hlast, Option.elim_some, if_neg hne]

/-- The last line with the label of the level alone decides which level is taken. -/
theorem level_of_shown {front back : List (List Char)}
    (hlines : Text.Lines status.toList (front ++ line :: back))
    (hline : "level:".toList <:+: line) (hback : ∀ other ∈ back, ¬"level:".toList <:+: other) :
    (level status).toList = part ↔ EndsIn line part := by
  have hafter : back.filter (Text.hasInfix "level:".toList) = [] :=
    List.filter_eq_nil_iff.2 fun other hother => mt Text.hasInfix_iff.1 (hback other hother)
  have hlast : (levelLines status).getLast? = some line := by
    rw [levelLines_eq hlines, List.filter_append,
      List.filter_cons_of_pos (Text.hasInfix_iff.2 hline), hafter, List.getLast?_concat]
  rw [level_eq_lastPart hlast, String.toList_ofList, endsIn_iff (visible_of_label hline)]

/-- The level is a word of its own, whatever the status text is. -/
theorem level_word (status : String) : level status ≠ "" ∧
    ∀ c ∈ (level status).toList, c ≠ ' ' ∧ c ≠ '\t' ∧ c ≠ '\n' := by
  cases hlast : (levelLines status).getLast? with
  | none =>
    have hvisible : ∀ c ∈ fallback.toList, Text.isBlank c = false :=
      Text.all_visible_iff.1 (by decide)
    rw [level_eq, hlast]
    refine ⟨by decide, fun c hc => ⟨?_, ?_, ?_⟩⟩ <;> (rintro rfl; cases hvisible _ hc)
  | some line =>
    have hmem := List.mem_of_mem_getLast? hlast
    have hends := endsIn_lastPart (visible_of_label (label_of_mem hmem))
    have hfeedless : '\n' ∉ line :=
      (Text.lines_eq_iff.1 rfl).feedless line (List.mem_filter.1 hmem).1
    rw [level_eq_lastPart hlast, String.toList_ofList]
    refine ⟨fun hnil => hends.ne_nil (String.ofList_eq_empty_iff.1 hnil), fun c hc => ?_⟩
    obtain ⟨hspace, htab⟩ := hends.separated c hc
    exact ⟨hspace, htab, fun hfeed => hfeedless (hends.subset (hfeed ▸ hc))⟩

/-- Lines without a label do not matter, neither for whether levels are taken nor for which
    level is. -/
theorem takes_congr {status' : String} {lines' : List (List Char)}
    (hlines : Text.Lines status.toList lines) (hlines' : Text.Lines status'.toList lines')
    (h : lines'.filter (fun line => Tells line) = lines.filter (fun line => Tells line)) :
    takesLevels status' = takesLevels status ∧ level status' = level status := by
  have hoffers : ∀ ls : List (List Char),
      (∃ line ∈ ls, Offers line) ↔ ∃ line ∈ ls.filter (fun line => Tells line), Offers line := by
    refine fun ls => exists_congr fun line => and_congr_left fun hline => ?_
    simp [hline.tells]
  have hlabelled : ∀ ls : List (List Char), ls.filter (Text.hasInfix "level:".toList) =
      (ls.filter (fun line => Tells line)).filter (Text.hasInfix "level:".toList) := by
    intro ls
    rw [List.filter_filter]
    refine List.filter_congr fun line _ => ?_
    cases hlabel : Text.hasInfix "level:".toList line with
    | true =>
      have htells : Tells line := .inl (Text.hasInfix_iff.1 hlabel)
      rw [decide_eq_true htells, Bool.and_true]
    | false => rfl
  constructor
  · rw [Bool.eq_iff_iff, takesLevels_iff hlines, takesLevels_iff hlines', hoffers, h, ← hoffers]
  · rw [level_eq, level_eq, levelLines_eq hlines, levelLines_eq hlines', hlabelled, h, ← hlabelled]

end ThinkpadStatus

/-! ## Finding a fan -/

namespace ThinkpadFan

open ThinkpadStatus

variable {path status : String} {m : Machine}

/-- Without faults a status text alone decides whether a fan is found, and which. -/
theorem find_faultless (hpath : '\x00' ∉ path.toList) (hm : m.faults = [])
    (hfile : m.files.get? path = some status.toUTF8) :
    (find path).run.wp (fun r _ _ => r =
      if takesLevels status then .ok { path, initialLevel := level status }
      else .error (takesNoLevels path)) m := by
  have hfind := value_find path m
  have hread : (ControlFile.read path).value m = .ok status := by
    rw [(ControlFile.read_value hpath m).1, Machine.readFile_faultless hm, Machine.contents, hfile]
    exact ControlFile.decode_toUTF8 status
  rwa [hread] at hfind

/-- The fan is the one with the path, and its level is what the lines of a status text say. -/
structure TakenFrom (path : String) (lines : List (List Char)) (fan : ThinkpadFan) : Prop where
  fan_eq : fan = { path, initialLevel := fan.initialLevel }
  word : fan.initialLevel ≠ "" ∧
    ∀ c ∈ fan.initialLevel.toList, c ≠ ' ' ∧ c ≠ '\t' ∧ c ≠ '\n'
  unshown : (∀ line ∈ lines, ¬"level:".toList <:+: line) → fan.initialLevel = "auto"
  /-- The last line with a level decides alone. -/
  shown : ∀ front line back, lines = front ++ line :: back → "level:".toList <:+: line →
    (∀ other ∈ back, ¬"level:".toList <:+: other) →
    ∀ part, fan.initialLevel.toList = part ↔ EndsIn line part

/-- Without faults a fan is found if and only if a line of its status text says that levels
    are taken. Nothing is written, and any failure is one of the system. The level of the fan
    is the last one that is shown. Another status text is as good, on any machine, if it has
    the same lines with a label, in the same order. -/
theorem find_goes_by_lines (hpath : '\x00' ∉ path.toList) (hm : m.faults = [])
    (hfile : m.files.get? path = some status.toUTF8) :
    ∃ lines, Text.Lines status.toList lines ∧ (find path).run.wp (fun r _ es =>
      ((∃ fan, r = .ok fan) ↔ ∃ line ∈ lines, Offers line) ∧
      (∀ f, r = .error f → f.kind = .system) ∧ writesIn es = [] ∧
      (∀ fan, r = .ok fan → TakenFrom path lines fan) ∧
      ∀ m' status' lines', m'.faults = [] → m'.files.get? path = some (String.toUTF8 status') →
        Text.Lines status'.toList lines' →
        lines'.filter (fun line => Tells line) = lines.filter (fun line => Tells line) →
        (find path).run.value m' = r) m := by
  obtain ⟨lines, hlines⟩ := Text.exists_lines status.toList
  refine ⟨lines, hlines, wp_mono (wp_and (find_faultless hpath hm hfile) wp_self) ?_⟩
  rintro r m₁ es ⟨hr, -, rfl⟩
  refine ⟨?_, ?_, (asks_find path).writesIn_eq_nil (by decide) m, ?_, ?_⟩
  · rw [← takesLevels_iff hlines, hr]
    cases takesLevels status <;> simp
  · rintro f rfl
    cases htakes : takesLevels status with
    | true => simp [htakes] at hr
    | false =>
      rw [htakes] at hr
      cases hr
      rfl
  · rintro fan rfl
    obtain rfl : fan = { path, initialLevel := level status } := by
      cases htakes : takesLevels status with
      | true => simpa [htakes] using hr
      | false => simp [htakes] at hr
    refine ⟨rfl, level_word status, level_of_unshown hlines, ?_⟩
    rintro front line back rfl hline hback part
    exact level_of_shown hlines hline hback
  · intro m' status' lines' hm' hfile' hlines' hsame
    obtain ⟨htakes, hlevel⟩ := takes_congr hlines hlines' hsame
    have hvalue : (find path).run.value m' = _ := find_faultless hpath hm' hfile'
    rw [hvalue, htakes, hlevel, hr]

/-- A status text with both endings of lines, which shows the level twice, the second time
    behind a line that offers levels, and goes on with a line that only seems to show it. -/
def wordy : String :=
  "status:\t\tenabled\r\nlevel:\t\tauto\r\ncommands:\tlevel <level>\nlevel:  disengaged \r\nlevels: 7"

/-- The fan is found by the third line of this text, and its level is that of the fourth. -/
theorem wordy_goes_by_lines :
    let m : Machine := { files := (∅ : Registry ByteArray).set "fan" wordy.toUTF8 }
    ∃ fan, (find "fan").run.value m = .ok fan ∧ fan.initialLevel = "disengaged" := by
  intro m
  have hfile : m.files.get? "fan" = some wordy.toUTF8 := by rw [Registry.get?_set, if_pos rfl]
  obtain ⟨lines, hlines, hfound, -, -, htaken, -⟩ :=
    find_goes_by_lines (m := m) (by decide) rfl hfile
  obtain rfl : lines = ["status:\t\tenabled".toList, "level:\t\tauto".toList,
      "commands:\tlevel <level>".toList, "level:  disengaged ".toList, "levels: 7".toList] := by
    rw [← hlines.lines_eq]
    decide +kernel
  have hoffers : Offers "commands:\tlevel <level>".toList := offersLevels_iff.1 (by decide)
  have hlabel : "level:".toList <:+: "level:  disengaged ".toList := Text.hasInfix_iff.1 (by decide)
  have hback : ∀ other ∈ ["levels: 7".toList], ¬"level:".toList <:+: other :=
    List.forall_mem_singleton.2 (Text.hasInfix_eq_false_iff.1 (by decide))
  have hends : EndsIn ("level:  ".toList ++ ("disengaged".toList ++ [' '])) "disengaged".toList :=
    .intro (by simp) (by simp) ⟨'d', rfl, rfl⟩ (List.forall_mem_singleton.2 rfl)
  obtain ⟨fan, hfan⟩ := hfound.2 ⟨_, by simp, hoffers⟩
  refine ⟨fan, hfan, String.toList_inj.1 ?_⟩
  exact ((htaken fan hfan).shown [_, _, _] _ _ rfl hlabel hback _).2 hends

end ThinkpadFan

end Cooling
