-- SUMMARY: The mode of a PWM channel through the lives of its drivers: what one of them hands back is what the next one takes down.
import Cooling.Proofs.Custody
import Cooling.Proofs.Lines

/-!
# Modes from life to life

A driver takes down the mode of its channel when it is found and writes it back when it
hands the channel over. The mode is the first line of the mode file without the blanks
around it, and that is a text whose own first line, without blanks, is itself. So the next
driver takes down the same mode, however the channel was used in between.
-/

namespace Cooling

open Program

/-! ## Files that can be read -/

/-- No fault keeps a file from being read. -/
structure Machine.Readable (m : Machine) (path : String) : Prop where
  opens : (m.tries path .openRead).1 = none
  reads : ((m.tries path .openRead).2.triesOnce path .read).1 = none

theorem Machine.Readable.readFile {m : Machine} {path : String} (h : m.Readable path)
    {bytes : ByteArray} (hfile : m.files.get? path = some bytes) :
    (m.readFile path).1 = .ok bytes := by
  obtain ⟨hopens, hreads⟩ := h
  have hfiles : (m.tries path .openRead).2.files = m.files := rfl
  unfold Machine.readFile openFile
  generalize m.tries path .openRead = opened at *
  obtain ⟨e, m₁⟩ := opened
  obtain rfl : e = none := hopens
  dsimp only at hfiles hreads ⊢
  rw [hfiles, hfile]
  dsimp only
  generalize m₁.triesOnce path .read = done at *
  obtain ⟨e, m₂⟩ := done
  obtain rfl : e = none := hreads
  rfl

theorem Machine.readable_faultless {m : Machine} (hm : m.faults = []) (path : String) :
    m.Readable path := by
  constructor
  · rw [tries_faultless hm]
  · rw [tries_faultless hm, triesOnce_faultless hm]

/-! ## The mode as a fixed point -/

namespace Text

variable {cs word : List Char}

/-- A word without blanks at its ends can stand without blanks around it. -/
theorem Pads.self (h : Pads cs word) : Pads word word := by
  cases h with
  | @intro front word back hfront hback hhead hlast =>
    have hbare : Pads ([] ++ (word ++ [])) word := .intro nofun nofun hhead hlast
    rwa [List.nil_append, List.append_nil] at hbare

theorem Pads.subset (h : Pads cs word) : word ⊆ cs := by
  cases h with
  | intro => exact fun c hc => List.mem_append_right _ (List.mem_append_left _ hc)

end Text

namespace PwmFan

/-- The contents of a mode file show a mode: their first line is the mode with blanks around
    it. Without a line the mode is empty. -/
inductive ShowsMode : List Char → List Char → Prop
  | none : ShowsMode [] []
  | first {contents line mode : List Char} {lines : List (List Char)}
      (hlines : Text.Lines contents (line :: lines)) (hpads : Text.Pads line mode) :
      ShowsMode contents mode

theorem ShowsMode.trim_eq {cs mode : List Char} (h : ShowsMode cs mode) :
    Text.trim ((Text.lines cs).headD []) = mode := by
  cases h with
  | none => rfl
  | first hlines hpads =>
    rw [hlines.lines_eq]
    exact hpads.trim_eq

theorem showsMode_trim (cs : List Char) : ShowsMode cs (Text.trim ((Text.lines cs).headD [])) := by
  obtain ⟨ls, hlines⟩ := Text.exists_lines cs
  rw [hlines.lines_eq]
  cases hlines with
  | nil => exact .none
  | last hne hline => exact .first (.last hne hline) (Text.pads_trim _)
  | feed hline hreturn hrest => exact .first (.feed hline hreturn hrest) (Text.pads_trim _)
  | returnFeed hline hrest => exact .first (.returnFeed hline hrest) (Text.pads_trim _)

/-- The mode that is taken down is the one that the contents show. -/
theorem mode_eq_iff {contents mode' : String} :
    mode contents = mode' ↔ ShowsMode contents.toList mode'.toList := by
  constructor
  · rintro rfl
    rw [mode, String.toList_ofList]
    exact showsMode_trim contents.toList
  · intro h
    rw [mode, h.trim_eq, String.ofList_toList]

/-- A mode that was shown shows itself when it stands alone. -/
theorem ShowsMode.self {cs mode : List Char} (h : ShowsMode cs mode) : ShowsMode mode mode := by
  cases h with
  | none => exact .none
  | @first _ line _ lines hlines hpads =>
    by_cases hne : mode = []
    · exact hne ▸ .none
    · have hfeed : '\n' ∉ mode := fun hmem =>
        hlines.feedless line (.head _) (hpads.subset hmem)
      exact .first (.last hne hfeed) hpads.self

theorem mode_mode (contents : String) : mode (mode contents) = mode contents :=
  mode_eq_iff.2 (mode_eq_iff.1 rfl).self

/-! ## Finding the channel -/

/-- A mode file that holds a text and can be read gives the channel. -/
theorem find_readable {path text : String} {m : Machine}
    (hpath : '\x00' ∉ (modePathFor path).toList)
    (hfile : m.files.get? (modePathFor path) = some text.toUTF8)
    (hm : m.Readable (modePathFor path)) :
    (Fan.find .pwm path).run.value m = .ok (.pwm { path, initialMode := mode text }) := by
  have hread : (ControlFile.read (modePathFor path)).wp (fun r _ _ => r = .ok text) m := by
    refine wp_mono (ControlFile.read_value hpath m) ?_
    rintro r m' es ⟨rfl, -⟩
    rw [hm.readFile hfile]
    exact ControlFile.decode_toUTF8 text
  change (ExceptT.run (Fan.pwm <$> find path)).wp (fun r _ _ => r = _) m
  unfold find
  rw [wp_run_map, wp_run_bind, Attempt.wp_ofProgram]
  refine wp_mono hread ?_
  rintro r m' es rfl
  rfl

/-! ## Lives of drivers -/

open Custody

/-- Operations keep a quiet machine quiet and every file in place. -/
theorem after_quiet {c : Custody} (hm : c.machine.Quiet) (os : List Fan.Operation) :
    (c.after (os.map .operation)).machine.Quiet ∧ ∀ name, (c.machine.files.get? name).isSome →
      ((c.after (os.map .operation)).machine.files.get? name).isSome := by
  induction os generalizing c with
  | nil => exact ⟨hm, fun _ h => h⟩
  | cons o os ih =>
    obtain ⟨hquiet, hkeeps, -⟩ := (c.fan.perform o).run_quiet hm
    obtain ⟨hquiet', hkeeps'⟩ := ih (c := c.step (.operation o)) hquiet
    exact ⟨hquiet', fun name h => hkeeps' name (hkeeps name h)⟩

/-- The life of a driver. The channel is found on one machine, used in any way while the
    machine changes, and handed back by writes that succeed. Then its mode file is let alone
    until the machine is the other one. -/
inductive Life (path : String) (m : Machine) (fan : Fan) : Machine → Prop
  | intro {m₁ : Machine} {front quiet : List Event} {o : Fan.Operation}
      (hfound : (Fan.find .pwm path).run.run m = (.ok fan, m₁))
      (hfront : ∀ e ∈ front, e.handsBack = false) (ho : o.handsBack = true)
      (hwritten : ∀ w ∈ writesIn ((Custody.after ⟨fan, m₁⟩ front).trace o), w.result = .ok ())
      (hquiet : ∀ e ∈ quiet, e.Spares (modePathFor path)) :
      Life path m fan (Custody.after ⟨fan, m₁⟩ (front ++ .operation o :: quiet)).machine

/-- Drivers that live one after the other. -/
inductive Lives (path : String) : Machine → List Fan → Machine → Prop
  | nil (m : Machine) : Lives path m [] m
  | cons {m m₁ m₂ : Machine} {fan : Fan} {fans : List Fan} (hlife : Life path m fan m₁)
      (hlives : Lives path m₁ fans m₂) : Lives path m (fan :: fans) m₂

/-- A life leaves the mode file with the mode that it found there. -/
theorem Life.leaves {path text : String} {m m' : Machine} {fan : Fan}
    (hfile : m.files.get? (modePathFor path) = some text.toUTF8) (h : Life path m fan m') :
    fan = .pwm { path, initialMode := mode text } ∧
      m'.files.get? (modePathFor path) = some (mode text).toUTF8 := by
  cases h with
  | @intro m₁ front quiet o hfound hfront ho hwritten hquiet =>
    obtain ⟨hready, bytes, contents, hbytes, hdecode, hshown⟩ :=
      Fan.find_shows .pwm path m fan (congrArg Prod.fst hfound)
    subst hshown
    obtain rfl : text.toUTF8 = bytes := Option.some.inj (hfile.symm.trans hbytes)
    obtain rfl : text = contents :=
      Except.ok.inj ((ControlFile.decode_toUTF8 text).symm.trans hdecode)
    obtain ⟨time, result, hat, -⟩ :=
      handsBackAt_of_ready (c := ⟨Fan.shown .pwm path text, m₁⟩) hready hfront ho quiet
    rw [hat.writes] at hwritten
    have hok : result = .ok () := hwritten _ (.head _)
    have hleft := hat.leaves hok quiet (List.prefix_refl quiet) hquiet
    exact ⟨rfl, hleft⟩

/-- All drivers take down the same mode, and the last one leaves it. -/
theorem Lives.keeps {path : String} {m m' : Machine} {fans : List Fan}
    (h : Lives path m fans m') {text : String}
    (hfile : m.files.get? (modePathFor path) = some text.toUTF8) :
    (∀ fan ∈ fans, fan = .pwm { path, initialMode := mode text }) ∧
      m'.files.get? (modePathFor path) =
        some (if fans.isEmpty then text else mode text).toUTF8 := by
  induction h generalizing text with
  | nil m => exact ⟨nofun, hfile⟩
  | cons hlife hlives ih =>
    obtain ⟨hfan, hleft⟩ := hlife.leaves hfile
    obtain ⟨hfans, hfile'⟩ := ih hleft
    rw [mode_mode, ite_self] at hfile'
    rw [mode_mode] at hfans
    exact ⟨List.forall_mem_cons.2 ⟨hfan, hfans⟩, hfile'⟩

/-- The mode of a channel does not drift: with lives of drivers one after the other, as many
    as one likes, each takes down the mode that the mode file showed before all of them, the
    last one leaves the file with that mode alone, and a further driver takes it down again
    if nothing keeps the file from being read. -/
theorem mode_kept {path text : String} {m m' : Machine} {fans : List Fan}
    (hpath : '\x00' ∉ (modePathFor path).toList)
    (hfile : m.files.get? (modePathFor path) = some text.toUTF8) (hlives : Lives path m fans m') :
    ∃ mode, ShowsMode text.toList mode.toList ∧
      (∀ fan ∈ fans, fan = .pwm { path, initialMode := mode }) ∧
      (fans ≠ [] → m'.files.get? (modePathFor path) = some mode.toUTF8) ∧
      (m'.Readable (modePathFor path) →
        (Fan.find .pwm path).run.value m' = .ok (.pwm { path, initialMode := mode })) := by
  obtain ⟨hfans, hleft⟩ := hlives.keeps hfile
  refine ⟨mode text, mode_eq_iff.1 rfl, hfans, fun hne => ?_, fun hreadable => ?_⟩
  · rwa [List.isEmpty_eq_false_iff.2 hne, if_neg Bool.false_ne_true] at hleft
  · rw [find_readable hpath hleft hreadable]
    split
    · rfl
    · rw [mode_mode]

/-- On a quiet machine a channel with a mode file has a life, whatever is done with it. -/
theorem exists_life {path text : String} {m : Machine} (hm : m.Quiet)
    (hpath : '\x00' ∉ (modePathFor path).toList)
    (hfile : m.files.get? (modePathFor path) = some text.toUTF8) {os : List Fan.Operation}
    (hos : ∀ o ∈ os, o.handsBack = false) :
    ∃ m', m'.Quiet ∧ Life path m (.pwm { path, initialMode := mode text }) m' := by
  obtain ⟨m₁, hfound, hquiet₁, hthere⟩ : ∃ m₁, (Fan.find .pwm path).run.run m =
      (.ok (.pwm { path, initialMode := mode text }), m₁) ∧ m₁.Quiet ∧
      (m₁.files.get? (modePathFor path)).isSome := by
    have hreadable := Machine.readable_faultless hm.faults (modePathFor path)
    obtain ⟨hquiet, hkeeps, -⟩ := (Fan.find .pwm path).run.run_quiet hm
    exact ⟨(Fan.find .pwm path).run.after m, Prod.ext (find_readable hpath hfile hreadable) rfl,
      hquiet, hkeeps _ (Option.isSome_of_eq_some hfile)⟩
  let start : Custody := ⟨.pwm { path, initialMode := mode text }, m₁⟩
  have hready : start.fan.Ready := ⟨hpath, rfl⟩
  have hfront : ∀ e ∈ os.map Event.operation, e.handsBack = false := List.forall_mem_map.2 hos
  obtain ⟨hquiet₂, hkeeps⟩ := after_quiet (c := start) hquiet₁ os
  obtain ⟨time, result, hat, -⟩ := handsBackAt_of_ready hready hfront (o := .restore) rfl []
  obtain ⟨hquiet₃, -, hwritten⟩ := Program.run_quiet (Fan.perform _ .restore) hquiet₂
  refine ⟨_, ?_, .intro hfound hfront (o := .restore) rfl (fun w hw => ?_) (List.forall_mem_nil _)⟩
  · rw [after_append]
    exact hquiet₃
  · refine hwritten w hw ?_
    rw [hat.writes, List.mem_singleton] at hw
    rw [hw]
    exact hkeeps _ hthere

/-- A mode between blanks and before a second line is what the drivers find, one after the
    other. -/
theorem padded_mode_kept :
    let text := "\t5 \r\n2\n"
    let m : Machine := { files := (∅ : Registry ByteArray).set "pwm_enable" text.toUTF8 }
    let fan : Fan := .pwm { path := "pwm", initialMode := "5" }
    ∃ m', Lives "pwm" m [fan, fan] m' ∧ m'.files.get? "pwm_enable" = some "5".toUTF8 ∧
      (Fan.find .pwm "pwm").run.value m' = .ok fan := by
  intro text m fan
  have hfile : m.files.get? "pwm_enable" = some text.toUTF8 := by
    rw [Registry.get?_set, if_pos rfl]
  have hpath : '\x00' ∉ (modePathFor "pwm").toList := by decide
  have hmode : mode text = "5" := by decide
  have hmode' : mode "5" = "5" := by decide
  have hos : ∀ o ∈ [Fan.Operation.takeOver, .setSpeed (.numeric 3)], o.handsBack = false := by
    simp [Fan.Operation.handsBack]
  obtain ⟨m₁, hquiet₁, hlife⟩ := exists_life ⟨rfl, rfl, rfl⟩ hpath hfile hos
  rw [hmode] at hlife
  obtain ⟨-, hfile₁⟩ := hlife.leaves hfile
  obtain ⟨m₂, hquiet₂, hlife₂⟩ := exists_life hquiet₁ hpath (hmode ▸ hfile₁) hos
  rw [hmode'] at hlife₂
  have hlives : Lives "pwm" m [fan, fan] m₂ := .cons hlife (.cons hlife₂ (.nil m₂))
  obtain ⟨mode', -, hfans, hleft, hfound⟩ := mode_kept hpath hfile hlives
  have hfan := hfans fan (.head _)
  obtain rfl : "5" = mode' := congrArg PwmFan.initialMode (Fan.pwm.inj hfan)
  exact ⟨m₂, hlives, hleft nofun, hfound (Machine.readable_faultless hquiet₂.faults _)⟩

end PwmFan

end Cooling
