-- SUMMARY: The writes in a trace, and what each operation of a fan writes.
import Cooling.Proofs.Clock
import Cooling.Fan

/-!
# Writes

A program writes to a file by one request, however often the host is interrupted
while it works on it. Every operation of a fan makes a few writes at most. Its
outcome is that of its writes: an operation of a ThinkPad fan fails as soon as one
of its writes does, so the failed write is its last one.
-/

namespace Cooling

/-! ## The writes of a trace -/

/-- A request to write, and how it ended. -/
structure Write where
  time : Instant
  path : String
  contents : ByteArray
  result : Except OsError Unit

/-- Writing a text. -/
def Write.ofText (time : Instant) (path text : String) (result : Except OsError Unit) : Write :=
  ⟨time, path, text.toUTF8, result⟩

/-- The write that an entry notes, if it notes one. -/
def Entry.write? : Entry → Option Write
  | ⟨time, .writeFile path contents, result, _⟩ => some ⟨time, path, contents, result⟩
  | _ => none

/-- The writes of a trace, in order. -/
def writesIn (es : List Entry) : List Write := es.filterMap Entry.write?

@[simp] theorem writesIn_nil : writesIn [] = [] := rfl
@[simp] theorem writesIn_append (es fs : List Entry) :
    writesIn (es ++ fs) = writesIn es ++ writesIn fs := List.filterMap_append

theorem Entry.write?_of_ne {e : Entry} (h : e.request.kind ≠ .write) : e.write? = none := by
  unfold Entry.write?
  split
  · exact absurd rfl h
  · rfl

@[simp] theorem writesIn_now (m : Machine) : writesIn [m.entry .now] = [] := rfl
@[simp] theorem writesIn_log (m : Machine) (severity : Severity) (message : String) :
    writesIn [m.entry (.log severity message)] = [] := rfl

theorem Program.Asks.writesIn_eq_nil {x : Program α} {kinds : List Request.Kind}
    (hx : x.Asks kinds) (hw : .write ∉ kinds) (m : Machine) : writesIn (x.trace m) = [] :=
  hx.filterMap_eq_nil hw (fun _ => Entry.write?_of_ne) m

/-! ## Programs that write once -/

/-- The program takes no time and writes a text once. `Q` holds of its value and of how
    the write ended. -/
def Program.WritesOnce (x : Program α) (path text : String) (Q : α → Except OsError Unit → Prop)
    (m : Machine) : Prop :=
  x.wp (fun a m' es => m.SameTiming m' ∧
    ∃ result, writesIn es = [.ofText m.clock path text result] ∧ Q a result) m

theorem ControlFile.write_once {path : String} (hpath : '\x00' ∉ path.toList) (text : String)
    (m : Machine) : (write path text).WritesOnce path text (fun r result => r = result) m := by
  unfold write access
  rw [if_neg hpath]
  exact ⟨m.sameTiming_serve (r := .writeFile path text.toUTF8) nofun, _, rfl, rfl⟩

theorem Attempt.ofProgram_write_once {path : String} (hpath : '\x00' ∉ path.toList)
    (text : String) (failure : OsError → Failure) (m : Machine) :
    (ofProgram (ControlFile.write path text) failure).run.WritesOnce path text
      (fun r result => r = result.mapError failure) m := by
  unfold Program.WritesOnce
  rw [wp_ofProgram]
  refine Program.wp_mono (ControlFile.write_once hpath text m) ?_
  rintro r m' es ⟨htiming, result, hwrites, rfl⟩
  exact ⟨htiming, r, hwrites, rfl⟩

/-! ## Paths with the null character -/

/-- The host is not asked about a path that names no file. -/
theorem ControlFile.write_nul {path : String} (hnul : '\x00' ∈ path.toList) (text : String) :
    write path text = pure (.error .nulInPath) := if_pos hnul

theorem Fan.writeLevel_nul {path : String} (hnul : '\x00' ∈ path.toList) (text : String) :
    (writeLevel path text).run = pure (.error (levelRefused path text .nulInPath)) := by
  unfold writeLevel
  rw [Attempt.run_ofProgram, ControlFile.write_nul hnul]
  rfl

theorem ThinkpadFan.setSpeed_nul {fan : ThinkpadFan} (hnul : '\x00' ∈ fan.path.toList)
    (level : Level) :
    (fan.setSpeed level).run = pure (.error (Fan.levelRefused fan.path level.text .nulInPath)) := by
  unfold setSpeed
  rw [ExceptT.run_bind, Fan.writeLevel_nul hnul]
  rfl

/-! ## Machines without faults -/

namespace Machine

variable {m : Machine}

/-- Without faults every step on a file succeeds. -/
theorem tries_faultless (hm : m.faults = []) (path : String) (step : FileStep) :
    m.tries path step = (none, m) := by
  obtain ⟨files, faults⟩ := m
  obtain rfl : faults = [] := hm
  rfl

theorem triesOnce_faultless (hm : m.faults = []) (path : String) (step : FileStep) :
    m.triesOnce path step = (none, m) := by
  obtain ⟨files, faults⟩ := m
  obtain rfl : faults = [] := hm
  rfl

/-- The contents of a file, if it is there. -/
def contents (m : Machine) (path : String) : Except OsError ByteArray :=
  (m.files.get? path).elim (.error .noEntry) .ok

theorem openFile_faultless (hm : m.faults = []) (path : String) :
    m.openFile path = (m.contents path, m) := by
  unfold Machine.openFile contents
  rw [tries_faultless hm]
  dsimp only
  cases m.files.get? path <;> rfl

theorem readFile_faultless (hm : m.faults = []) (path : String) :
    m.readFile path = (m.contents path, m) := by
  unfold Machine.readFile
  rw [openFile_faultless hm]
  cases m.contents path with
  | error e => rfl
  | ok bytes =>
    dsimp only
    rw [triesOnce_faultless hm]

end Machine

/-! ## Quiet machines -/

/-- Nothing on the machine fails, and nothing will change from outside. -/
structure Machine.Quiet (m : Machine) : Prop where
  faults : m.faults = []
  pending : m.pending = []
  running : m.running = true

namespace Machine

variable {m : Machine}

theorem Quiet.withFiles (hm : m.Quiet) (files : Registry ByteArray) :
    { m with files := files }.Quiet :=
  ⟨hm.faults, hm.pending, hm.running⟩

/-- Writing keeps the machine quiet and every file in place. A file that is there can
    be written. -/
theorem Quiet.writeFile (hm : m.Quiet) (path : String) (bytes : ByteArray) :
    ∃ files, (m.writeFile path bytes).2 = { m with files } ∧
      (∀ name, (m.files.get? name).isSome → (files.get? name).isSome) ∧
      ((m.files.get? path).isSome → (m.writeFile path bytes).1 = .ok ()) := by
  have hset : ∀ (files : Registry ByteArray) (bytes : ByteArray) (name : String),
      (files.get? name).isSome → ((files.set path bytes).get? name).isSome := by
    intro files bytes name h
    rw [Registry.get?_set]
    split
    · rfl
    · exact h
  unfold Machine.writeFile
  rw [tries_faultless hm.faults]
  dsimp only
  cases m.files.get? path with
  | none => exact ⟨m.files, rfl, fun _ h => h, nofun⟩
  | some old =>
    dsimp only
    split
    · exact ⟨_, rfl, hset _ _, fun _ => rfl⟩
    · rw [tries_faultless (hm.withFiles _).faults]
      exact ⟨_, rfl, fun name h => hset _ _ name (hset _ _ name h), fun _ => rfl⟩

/-- Requests keep the machine quiet and every file in place, and only those to write
    change a file. -/
theorem Quiet.serve (hm : m.Quiet) (r : Request) :
    (m.serve r).2.Quiet ∧
      (∀ name, (m.files.get? name).isSome → ((m.serve r).2.files.get? name).isSome) ∧
      (r.kind ≠ .write → (m.serve r).2.files = m.files) := by
  suffices h : (m.answer r).2.Quiet ∧
      (∀ name, (m.files.get? name).isSome → ((m.answer r).2.files.get? name).isSome) ∧
      (r.kind ≠ .write → (m.answer r).2.files = m.files) from
    ⟨⟨h.1.faults, h.1.pending, h.1.running⟩, h.2⟩
  cases r with
  | openFile path =>
    simp only [answer, openFile_faultless hm.faults]
    cases m.contents path <;> exact ⟨hm, fun _ h => h, fun _ => rfl⟩
  | readFile path =>
    rw [answer, readFile_faultless hm.faults]
    exact ⟨hm, fun _ h => h, fun _ => rfl⟩
  | writeFile path bytes =>
    obtain ⟨files, hfiles, hkeeps, -⟩ := hm.writeFile path bytes
    simp only [answer, hfiles]
    exact ⟨hm.withFiles files, hkeeps, fun h => absurd rfl h⟩
  | sleep d =>
    rw [answer, hm.pending]
    exact ⟨⟨hm.faults, rfl, hm.running⟩, fun _ h => h, fun _ => rfl⟩
  | _ => exact ⟨hm, fun _ h => h, fun _ => rfl⟩

theorem Quiet.drift_eq (hm : m.Quiet) : m.drift = 0 := by
  rw [drift, hm.pending]
  rfl

end Machine

/-- On a quiet machine a program can write to every file that is there. -/
theorem Program.run_quiet (x : Program α) {m : Machine} (hm : m.Quiet) :
    x.wp (fun _ m' es => m'.Quiet ∧
      (∀ name, (m.files.get? name).isSome → (m'.files.get? name).isSome) ∧
      ∀ w ∈ writesIn es, (m.files.get? w.path).isSome → w.result = .ok ()) m := by
  induction x generalizing m with
  | done a => exact ⟨hm, fun _ h => h, nofun⟩
  | ask r next ih =>
    obtain ⟨hserve, hkeeps, -⟩ := hm.serve r
    obtain ⟨hquiet, hkeeps', hwrites⟩ := ih (m.serve r).1 hserve
    refine ⟨hquiet, fun name h => hkeeps' name (hkeeps name h), ?_⟩
    intro w hw hpath
    obtain ⟨e, he, hew⟩ := List.mem_filterMap.1 hw
    rcases List.mem_cons.1 he with rfl | he
    · cases r with
      | writeFile path bytes =>
        cases hew
        exact (hm.writeFile path bytes).choose_spec.2.2 hpath
      | _ => cases hew
    · exact hwrites w (List.mem_filterMap.2 ⟨e, he, hew⟩) (hkeeps w.path hpath)

/-! ## ThinkPad fans -/

namespace ThinkpadFan

open Program

variable {fan : ThinkpadFan}

theorem takeOver_once (hpath : '\x00' ∉ fan.path.toList) (m : Machine) :
    fan.takeOver.run.WritesOnce fan.path s!"watchdog {fan.watchdog.seconds}"
      (fun r result => r = result.mapError (notArmed fan.path)) m :=
  Attempt.ofProgram_write_once hpath _ _ m

/-- Setting the level feeds the watchdog at the time of the write. -/
theorem setSpeed_once (hpath : '\x00' ∉ fan.path.toList) (level : Level) (m : Machine) :
    (fan.setSpeed level).run.WritesOnce fan.path level.text
      (fun r result => r = match result with
        | .ok () => .ok { fan with lastPing := some m.clock }
        | .error e => .error (Fan.levelRefused fan.path level.text e)) m := by
  unfold WritesOnce setSpeed
  rw [wp_run_bind]
  refine wp_mono (Attempt.ofProgram_write_once hpath _ _ m) ?_
  rintro r m' es ⟨htiming, result, hwrites, rfl⟩
  cases result with
  | error e => exact ⟨htiming, .error e, hwrites, rfl⟩
  | ok a =>
    refine ⟨htiming.trans m'.sameTiming_now, .ok a, ?_, ?_⟩
    · rw [writesIn_append, hwrites]; rfl
    · rw [← htiming.clock]; rfl

theorem restore_once (hpath : '\x00' ∉ fan.path.toList) (hpending : fan.restorePending = true)
    (m : Machine) :
    fan.restore.run.WritesOnce fan.path s!"level {fan.initialLevel}"
      (fun r result => r = result.mapError (notRestored fan.path fan.initialLevel)) m := by
  unfold WritesOnce restore
  rw [if_pos hpending, wp_run_bind]
  refine wp_mono (Attempt.ofProgram_write_once hpath _ _ m) ?_
  rintro r m' es ⟨htiming, result, hwrites, rfl⟩
  cases result with
  | error e => exact ⟨htiming, .error e, hwrites, rfl⟩
  | ok a =>
    refine ⟨htiming.trans (m'.sameTiming_log _ _), .ok a, ?_, rfl⟩
    rw [writesIn_append, hwrites]
    rfl

/-- Without depulsing, the host is asked for the time, and the level is set if the watchdog
    is due. -/
theorem wp_keep_steady (hdepulse : fan.depulse = .zero) (level : Level) {m : Machine}
    {Q : Except Failure ThinkpadFan → Machine → List Entry → Prop} :
    (fan.keep level).run.wp Q m ↔
      (if fan.watchdogDue m.clock then fan.setSpeed level else pure fan).run.wp
        (fun r m' es => Q r m' (m.entry .now :: es)) (m.serve .now).2 := by
  unfold keep
  rw [if_neg (not_not_intro hdepulse), wp_run_bind, wp_run_lift, now, wp_request]
  rfl

/-- With depulsing, the fan is let run free, and once it does, the level is set after a
    sleep. -/
theorem wp_keep_depulsing (hdepulse : fan.depulse ≠ .zero) (level : Level) {m : Machine}
    {Q : Except Failure ThinkpadFan → Machine → List Entry → Prop} :
    (fan.keep level).run.wp Q m ↔
      (Fan.writeLevel fan.path "level disengaged").run.wp (fun r m' es =>
        match r with
        | .ok () => (fan.setSpeed level).run.wp
            (fun r m'' fs => Q r m'' (es ++ m'.entry (.sleep fan.depulse) :: fs))
            (m'.serve (.sleep fan.depulse)).2
        | .error f => Q (.error f) m' es) m := by
  unfold keep
  rw [if_pos hdepulse, wp_run_bind]
  refine iff_of_eq (congrArg (fun P => wp _ P m) (funext fun r => ?_))
  cases r with
  | ok a =>
    funext m' es
    refine propext ((wp_run_bind _ _).trans ?_)
    rw [wp_run_lift, Program.sleep, wp_request]
    rfl
  | error f => rfl

/-- Without depulsing, the level is set if the watchdog is due, and else nothing is done. -/
theorem keep_steady (hpath : '\x00' ∉ fan.path.toList) (hdepulse : fan.depulse = .zero)
    (level : Level) (m : Machine) :
    (fan.keep level).run.wp (fun r m' es => m.SameTiming m' ∧
      if fan.watchdogDue m.clock then
        ∃ result, writesIn es = [.ofText m.clock fan.path level.text result] ∧
          r = match result with
            | .ok () => .ok { fan with lastPing := some m.clock }
            | .error e => .error (Fan.levelRefused fan.path level.text e)
      else writesIn es = [] ∧ r = .ok fan) m := by
  have hnow : m.SameTiming (m.serve .now).2 := m.sameTiming_now
  rw [wp_keep_steady hdepulse]
  split
  · refine wp_mono (setSpeed_once hpath level (m.serve .now).2) ?_
    rintro r m' es ⟨htiming, result, hwrites, hr⟩
    exact ⟨hnow.trans htiming, result, hwrites, hr⟩
  · exact ⟨hnow, rfl, rfl⟩

/-- With depulsing, the fan is let run free, and the level is set after the sleep. -/
theorem keep_depulsing (hpath : '\x00' ∉ fan.path.toList) (hdepulse : fan.depulse ≠ .zero)
    (level : Level) (m : Machine) :
    (fan.keep level).run.wp (fun r m' es =>
      (∃ e, writesIn es = [.ofText m.clock fan.path "level disengaged" (.error e)] ∧
        m.SameTiming m' ∧ r = .error (Fan.levelRefused fan.path "level disengaged" e)) ∨
      ∃ result, writesIn es = [.ofText m.clock fan.path "level disengaged" (.ok ()),
          .ofText m'.clock fan.path level.text result] ∧
        m.Elapses m' fan.depulse.nanos ∧
        r = match result with
          | .ok () => .ok { fan with lastPing := some m'.clock }
          | .error e => .error (Fan.levelRefused fan.path level.text e)) m := by
  rw [wp_keep_depulsing hdepulse]
  refine wp_mono (Attempt.ofProgram_write_once hpath _ _ m) ?_
  rintro r m' es ⟨htiming, result, hwrites, rfl⟩
  cases result with
  | error e => exact .inl ⟨e, hwrites, htiming, rfl⟩
  | ok a =>
    refine wp_mono (setSpeed_once hpath level (m'.serve (.sleep fan.depulse)).2) ?_
    rintro r m'' fs ⟨htiming', result, hwrites', hr⟩
    refine .inr ⟨result, ?_, (htiming.elapses_sleep _).trans_sameTiming htiming', ?_⟩
    · have hslept : writesIn (m'.entry (.sleep fan.depulse) :: fs) = writesIn fs := rfl
      rw [writesIn_append, hslept, hwrites, hwrites', htiming'.clock]
      rfl
    · rw [htiming'.clock]; exact hr

end ThinkpadFan

end Cooling
