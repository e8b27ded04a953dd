-- SUMMARY: The lines of a text and the parts that stand in them, each as a relation that the readers decide.
import Cooling.Proofs.Fields

/-!
# Lines

A line goes on up to a line feed, or up to the end of the text. One carriage return before
the line feed belongs to it, and any other one to the line. This is said here without an
algorithm. Every text has just one list of lines, which is the one that the readers go by.
-/

namespace Cooling.Text

/-- The text consists of the lines, in order. All of them end with a line feed, but for the
    last one, which is not empty then. -/
inductive Lines : List Char → List (List Char) → Prop
  | nil : Lines [] []
  | last {line : List Char} (hne : line ≠ []) (hline : '\n' ∉ line) : Lines line [line]
  | feed {line rest : List Char} {lines : List (List Char)} (hline : '\n' ∉ line)
      (hreturn : line.getLast? ≠ some '\r') (hrest : Lines rest lines) :
      Lines (line ++ '\n' :: rest) (line :: lines)
  | returnFeed {line rest : List Char} {lines : List (List Char)} (hline : '\n' ∉ line)
      (hrest : Lines rest lines) : Lines (line ++ '\r' :: '\n' :: rest) (line :: lines)

variable {cs line rest : List Char} {ls : List (List Char)}

/-- A character that ends no line belongs to the line that follows. -/
theorem lines_cons {c : Char} (hfeed : c ≠ '\n') (hreturn : c = '\r' → cs.head? ≠ some '\n') :
    lines (c :: cs) =
      match lines cs with
      | [] => [[c]]
      | l :: ls => (c :: l) :: ls :=
  lines.eq_4 c cs hfeed fun _ hc hcs => hreturn hc (hcs ▸ rfl)

/-- A line goes on until something ends it. -/
theorem lines_append {l : List Char} (hline : '\n' ∉ line)
    (hreturn : line.getLast? = some '\r' → rest.head? ≠ some '\n')
    (hrest : lines rest = l :: ls) : lines (line ++ rest) = (line ++ l) :: ls := by
  induction line with
  | nil => exact hrest
  | cons c line ih =>
    rw [List.mem_cons, not_or] at hline
    obtain ⟨hc, hline⟩ := hline
    have hfront : line.getLast? = some '\r' → rest.head? ≠ some '\n' := by
      intro hlast
      exact hreturn (by rw [List.getLast?_cons, hlast]; rfl)
    rw [List.cons_append, lines_cons (Ne.symm hc), ih hline hfront]
    · rfl
    · rintro rfl
      cases line with
      | nil => exact hreturn rfl
      | cons d line => exact fun hd => hline (Option.some.inj hd ▸ .head _)

theorem lines_append_feed (hline : '\n' ∉ line) (hreturn : line.getLast? ≠ some '\r')
    (rest : List Char) : lines (line ++ '\n' :: rest) = line :: lines rest := by
  have hrest : lines ('\n' :: rest) = [] :: lines rest := rfl
  rw [lines_append hline (fun h => absurd h hreturn) hrest, List.append_nil]

theorem lines_append_returnFeed (hline : '\n' ∉ line) (rest : List Char) :
    lines (line ++ '\r' :: '\n' :: rest) = line :: lines rest := by
  have hrest : lines ('\r' :: '\n' :: rest) = [] :: lines rest := rfl
  rw [lines_append hline (fun _ => by simp) hrest, List.append_nil]

theorem lines_of_line (hne : line ≠ []) (hline : '\n' ∉ line) : lines line = [line] := by
  induction line with
  | nil => exact absurd rfl hne
  | cons c line ih =>
    rw [List.mem_cons, not_or] at hline
    obtain ⟨hc, hline⟩ := hline
    cases line with
    | nil => exact lines_cons (Ne.symm hc) nofun
    | cons d line =>
      have hd : (d :: line).head? ≠ some '\n' := fun hd => hline (Option.some.inj hd ▸ .head _)
      rw [lines_cons (Ne.symm hc) fun _ => hd, ih (List.cons_ne_nil d line) hline]

theorem Lines.lines_eq (h : Lines cs ls) : lines cs = ls := by
  induction h with
  | nil => rfl
  | last hne hline => exact lines_of_line hne hline
  | feed hline hreturn hrest ih => rw [lines_append_feed hline hreturn, ih]
  | returnFeed hline hrest ih => rw [lines_append_returnFeed hline, ih]

/-- The induction is on the length: the first line feed leaves a shorter text behind it. -/
theorem exists_lines (cs : List Char) : ∃ ls, Lines cs ls := by
  induction hlength : cs.length using Nat.strong_induction_on generalizing cs with
  | h n ih =>
    by_cases hfeed : '\n' ∈ cs
    · obtain ⟨front, rest, rfl, hfront⟩ := List.eq_append_cons_of_mem hfeed
      obtain ⟨ls, hrest⟩ := ih rest.length (by simp at hlength; omega) rest rfl
      by_cases hreturn : front.getLast? = some '\r'
      · obtain ⟨line, rfl⟩ := List.getLast?_eq_some_iff.1 hreturn
        have hline : '\n' ∉ line := fun h => hfront (List.mem_append_left _ h)
        rw [List.append_assoc, List.singleton_append]
        exact ⟨line :: ls, .returnFeed hline hrest⟩
      · exact ⟨front :: ls, .feed hfront hreturn hrest⟩
    · by_cases hne : cs = []
      · exact ⟨[], hne ▸ .nil⟩
      · exact ⟨[cs], .last hne hfeed⟩

/-- The lines that are read are those of the text. -/
theorem lines_eq_iff : lines cs = ls ↔ Lines cs ls := by
  refine ⟨?_, Lines.lines_eq⟩
  rintro rfl
  obtain ⟨ls, h⟩ := exists_lines cs
  rwa [h.lines_eq]

/-- No line holds a line feed. -/
theorem Lines.feedless (h : Lines cs ls) : ∀ line ∈ ls, '\n' ∉ line := by
  induction h with
  | nil => exact nofun
  | last hne hline => exact List.forall_mem_singleton.2 hline
  | feed hline hreturn hrest ih => exact List.forall_mem_cons.2 ⟨hline, ih⟩
  | returnFeed hline hrest ih => exact List.forall_mem_cons.2 ⟨hline, ih⟩

/-! ## Parts of a line -/

theorem hasInfix_iff {needle : List Char} : hasInfix needle cs = true ↔ needle <:+: cs := by
  induction cs with
  | nil => simp [hasInfix]
  | cons c cs ih =>
    rw [hasInfix, Bool.or_eq_true, List.isPrefixOf_iff_prefix, ih, List.infix_cons_iff]

theorem hasInfix_eq_false_iff {needle : List Char} :
    hasInfix needle cs = false ↔ ¬needle <:+: cs := by
  rw [← hasInfix_iff, Bool.not_eq_true]

end Cooling.Text
