-- SUMMARY: What a session asks for while it loads its configuration and builds its drivers, and what it has built then.
import Cooling.Proofs.Writes
import Cooling.Session.Run

/-!
# Preparing a session

Before a session does what it was called for, it loads the configuration and
builds its drivers. It only reads files, logs, and calls vendor libraries until
then, so nothing is written and no time passes. The drivers carry the settings of
the configuration, and the path of a driver names a file.
-/

namespace Cooling

open Program

/-! ## Control files -/

namespace ControlFile

variable {P : Request → Prop} {path : String}

theorem every_access {x : Program (Except OsError α)} (hx : x.Every P) :
    (access path x).Every P := by
  unfold access
  split
  · exact every_pure _
  · exact hx

theorem every_read (h : P (.readFile path)) : (read path).Every P := by
  refine every_access ((every_request h).bind fun r => ?_)
  cases r <;> exact every_pure _

theorem every_readFrom (h : P (.readFile path)) (offset : Nat) :
    (readFrom path offset).Every P := by
  refine every_access ((every_request h).bind fun r => ?_)
  cases r <;> exact every_pure _

theorem asks_check (path : String) : (check path).Asks [.file] :=
  every_access (every_request (.head _))

theorem asks_read (path : String) : (read path).Asks [.file] := every_read (.head _)

/-- Only a path without the null character is asked about. -/
theorem access_ok {program : Program (Except OsError α)} {m : Machine} {a : α}
    (h : (access path program).value m = .ok a) : '\x00' ∉ path.toList := by
  unfold access at h
  split at h
  · cases h
  · assumption

theorem check_ok {m : Machine} (h : (check path).value m = .ok ()) : '\x00' ∉ path.toList :=
  access_ok h

theorem read_ok {m : Machine} {text : String} (h : (read path).value m = .ok text) :
    '\x00' ∉ path.toList :=
  access_ok h

/-- The text that bytes are, if they are one. -/
theorem decode_eq_ok_iff {bytes : ByteArray} {text : String} :
    decode bytes = .ok text ↔ bytes = text.toUTF8 := by
  constructor
  · intro h
    unfold decode at h
    split at h
    · rename_i text' htext
      obtain rfl : text' = text := Except.ok.inj h
      obtain ⟨hvalid, hbytes⟩ := Option.dite_none_right_eq_some.1 htext
      obtain rfl : String.fromUTF8 bytes hvalid = text' := Option.some.inj hbytes
      rfl
    · cases h
  · rintro rfl
    have h : String.fromUTF8? text.toUTF8 = some text := dif_pos text.isValidUTF8
    unfold decode
    rw [h]

theorem decode_toUTF8 (text : String) : decode text.toUTF8 = .ok text := decode_eq_ok_iff.2 rfl

theorem decode_of_not_text {bytes : ByteArray} (h : ∀ text : String, bytes ≠ text.toUTF8) :
    decode bytes = .error .notUtf8 := by
  cases hdecode : decode bytes with
  | ok text => exact absurd (decode_eq_ok_iff.1 hdecode) (h text)
  | error e =>
    unfold decode at hdecode
    split at hdecode
    · cases hdecode
    · exact hdecode.symm

/-- Reading a file leaves only an entry in the journal. -/
theorem read_value (hpath : '\x00' ∉ path.toList) (m : Machine) :
    (read path).wp (fun r m' _ => r = (m.readFile path).1.bind decode ∧
      m' = (m.serve (.readFile path)).2) m := by
  unfold read access
  rw [if_neg hpath, wp_bind, wp_request, Machine.serve_fst, Machine.answer]
  cases (m.readFile path).1 with
  | ok bytes => exact ⟨rfl, rfl⟩
  | error e => exact ⟨rfl, rfl⟩

theorem readFrom_value (hpath : '\x00' ∉ path.toList) (offset : Nat) (m : Machine) :
    (readFrom path offset).wp (fun r _ _ => r =
      (m.readFile path).1.bind fun bytes => decode (bytes.extract offset bytes.size)) m := by
  unfold readFrom access
  rw [if_neg hpath, wp_bind, wp_request, Machine.serve_fst, Machine.answer]
  cases (m.readFile path).1 with
  | ok bytes => rfl
  | error e => rfl

/-- Without faults a file that is there can be opened. -/
theorem check_faultless {m : Machine} (hm : m.faults = []) (hpath : '\x00' ∉ path.toList)
    {bytes : ByteArray} (hfile : m.files.get? path = some bytes) :
    (check path).wp (fun r m' _ => r = .ok () ∧ m'.faults = [] ∧ m'.files = m.files) m := by
  unfold check access
  rw [if_neg hpath, wp_request]
  simp only [Machine.serve_snd, Machine.serve_fst, Machine.answer, Machine.openFile_faultless hm,
    Machine.contents, hfile]
  exact ⟨rfl, hm, rfl⟩

/-- On a quiet machine a text that is there is read. -/
theorem read_quiet {m : Machine} (hm : m.Quiet) {path text : String}
    (hpath : '\x00' ∉ path.toList) (hfile : m.files.get? path = some text.toUTF8) :
    (read path).wp (fun r m' _ => r = .ok text ∧ m'.Quiet ∧ m'.files = m.files) m := by
  obtain ⟨hquiet, -, hfiles⟩ := hm.serve (.readFile path)
  refine wp_mono (read_value hpath m) ?_
  rintro r m' es ⟨rfl, rfl⟩
  refine ⟨?_, hquiet, hfiles nofun⟩
  rw [Machine.readFile_faultless hm.faults, Machine.contents, hfile]
  exact decode_toUTF8 text

end ControlFile

/-! ## The configuration -/

namespace Config

theorem asks_load (path : String) : (load path).run.Asks [.file, .log] := by
  have hread := (ControlFile.asks_read path).mono [.file, .log] (by decide)
  refine (Every.run_ofProgram hread).run_bind fun text => ?_
  refine Every.run_bind (every_pure _) fun config => ?_
  exact (Every.run_lift (every_request (by simp [Request.kind]))).run_bind fun _ => every_run_pure _

/-- The way to evaluate `ofText`: options can be compared. -/
theorem eq_ok_of_toOption {x : Except ε α} {a : α} (h : x.toOption = some a) : x = .ok a := by
  cases x with
  | error e => cases h
  | ok b => exact congrArg Except.ok (Option.some.inj h)

/-- On a quiet machine a configuration that makes sense is loaded. -/
theorem load_quiet {m : Machine} (hm : m.Quiet) {path text : String} {config : Config}
    (htext : ofText text = .ok config) (hpath : '\x00' ∉ path.toList)
    (hfile : m.files.get? path = some text.toUTF8) :
    (load path).run.wp (fun r m' _ => r = .ok config ∧ m'.Quiet ∧ m'.files = m.files) m := by
  unfold load
  rw [wp_run_bind, Attempt.wp_ofProgram]
  refine wp_mono (ControlFile.read_quiet hm hpath hfile) ?_
  rintro _ m' es ⟨rfl, hquiet, hfiles⟩
  rw [mapError_ok]
  dsimp only
  rw [wp_run_bind, htext]
  refine ⟨rfl, ?_⟩
  obtain ⟨hquiet', -, hfiles'⟩ := hquiet.serve (.log .debug _)
  exact ⟨hquiet', (hfiles' nofun).trans hfiles⟩

end Config

/-! ## Fans -/

/-- The least that the status text of a ThinkPad fan has to say. -/
def ThinkpadStatus.bare : String := "commands: level <level>"

/-- A fan is found if its control file can be read and takes levels. -/
theorem ThinkpadFan.value_find (path : String) (m : Machine) :
    (find path).run.value m =
      match (ControlFile.read path).value m with
      | .ok status =>
        if ThinkpadStatus.takesLevels status then
          .ok { path, initialLevel := ThinkpadStatus.level status }
        else .error (takesNoLevels path)
      | .error e => .error (unreadable path e) := by
  suffices h : (find path).run.wp (fun r _ _ => r = _) m from h
  unfold find
  rw [wp_run_bind, Attempt.wp_ofProgram, wp_iff]
  cases (ControlFile.read path).value m with
  | error e => rfl
  | ok status =>
    rw [mapError_ok]
    dsimp only
    refine (wp_run_guard _ _).2 ?_
    cases ThinkpadStatus.takesLevels status <;> rfl

/-- On a quiet machine a fan that takes levels is found. -/
theorem ThinkpadFan.find_takesLevels {m : Machine} (hm : m.Quiet) {path status : String}
    (hpath : '\x00' ∉ path.toList) (hstatus : m.files.get? path = some status.toUTF8)
    (htakes : ThinkpadStatus.takesLevels status = true) :
    (find path).run.wp (fun r _ _ => ∃ fan, r = .ok fan) m := by
  have hfind := value_find path m
  obtain ⟨hread, -⟩ := ControlFile.read_quiet hm hpath hstatus
  rw [hread] at hfind
  dsimp only at hfind
  rw [if_pos htakes] at hfind
  exact ⟨_, hfind⟩

theorem ThinkpadFan.find_quiet {m : Machine} (hm : m.Quiet) {path : String}
    (hpath : '\x00' ∉ path.toList)
    (hstatus : m.files.get? path = some ThinkpadStatus.bare.toUTF8) :
    (find path).run.wp (fun r _ _ => ∃ fan, r = .ok fan) m :=
  find_takesLevels hm hpath hstatus (by decide)

theorem ThinkpadFan.asks_find (path : String) : (find path).run.Asks [.file, .log] := by
  have hread := (ControlFile.asks_read path).mono [.file, .log] (by decide)
  refine (Every.run_ofProgram hread).run_bind fun status => ?_
  refine Every.run_guard ?_
  exact (Every.run_lift (every_request (by simp [Request.kind]))).run_bind fun _ => every_run_pure _

/-- A fan that was found has a control file, and its level has yet to be restored. -/
theorem ThinkpadFan.find_ok (path : String) :
    Gives (find path) fun fan =>
      '\x00' ∉ path.toList ∧ fan = { path, initialLevel := fan.initialLevel } := by
  refine (gives_ofProgram fun m text h => ControlFile.read_ok h).bind fun status hpath => ?_
  refine Gives.guard ?_
  exact (gives_true _).bind fun _ _ => gives_pure ⟨hpath, rfl⟩

theorem PwmFan.asks_find (path : String) : (find path).run.Asks [.file, .log] := by
  have hread := (ControlFile.asks_read (modePathFor path)).mono [.file, .log] (by decide)
  refine (Every.run_ofProgram hread).run_bind fun contents => ?_
  exact (Every.run_lift (every_request (by simp [Request.kind]))).run_bind fun _ => every_run_pure _

/-- A channel that was found has a mode file, and its mode has yet to be restored. -/
theorem PwmFan.find_ok (path : String) :
    Gives (find path) fun fan =>
      '\x00' ∉ (modePathFor path).toList ∧ fan = { path, initialMode := fan.initialMode } := by
  refine (gives_ofProgram fun m text h => ControlFile.read_ok h).bind fun contents hpath => ?_
  exact (gives_true _).bind fun _ _ => gives_pure ⟨hpath, rfl⟩

namespace Config

theorem asks_buildFan (c : Config) : c.buildFan.run.Asks [.file, .log] := by
  unfold buildFan
  split
  · exact (ThinkpadFan.asks_find _).run_bind fun _ => every_run_pure _
  · dsimp only
    split
    · refine (Every.run_lift (every_request (by simp [Request.kind]))).run_bind fun _ => ?_
      exact (PwmFan.asks_find _).run_map _
    · exact (PwmFan.asks_find _).run_map _

/-- The fan is the one that the configuration names, as it is found, with the settings
    of the configuration. -/
def Describes (c : Config) : Fan → Prop
  | .thinkpad fan => c.fan.kind = .thinkpad ∧ fan.path = c.fan.path ∧
      '\x00' ∉ fan.path.toList ∧ fan.watchdog = c.watchdog ∧ fan.depulse = c.depulse ∧
      fan.pollInterval = c.pollInterval ∧ fan.lastPing = none ∧ fan.restorePending = true
  | .pwm fan => c.fan.kind = .pwm ∧ fan.path = c.fan.path ∧
      '\x00' ∉ fan.modePath.toList ∧ fan.restorePending = true

theorem buildFan_ok (c : Config) : Gives c.buildFan c.Describes := by
  unfold buildFan
  split
  · rename_i hkind
    refine (ThinkpadFan.find_ok c.fan.path).bind fun fan ⟨hpath, hfan⟩ => gives_pure ?_
    rw [hfan]
    exact ⟨hkind, rfl, hpath, rfl, rfl, rfl, rfl, rfl⟩
  · rename_i hkind
    have hfind : Gives (Fan.pwm <$> PwmFan.find c.fan.path) c.Describes := by
      refine Gives.map fun m fan h => ?_
      obtain ⟨hpath, hfan⟩ := PwmFan.find_ok c.fan.path m fan h
      rw [hfan]
      exact ⟨hkind, rfl, hpath, rfl⟩
    dsimp only
    split
    · exact (gives_true _).bind fun _ _ => hfind
    · exact hfind

end Config

/-! ## Sessions with a fan -/

namespace Session

/-- What comes before a fan is held: only root may do that, the configuration is
    loaded, and the fan is found. -/
def prepareFan (path : String) : Stage (Config × Fan) := do
  let user ← Program.userId
  if user ≠ 0 then throw notRoot
  let config ← load path
  let fan ← attempting "Failed to set up fan" config.buildFan
  return (config, fan)

theorem runFan_eq (patience : Nat) (path : String) (level : Level) (seconds? : Option Nat) :
    runFan patience path level seconds? = (do
      let (config, fan) ← prepareFan path
      let deadline? ← deadlineAfter fan seconds?
      holdAndHandBack patience fan level config.pollInterval deadline?) := by
  simp only [runFan, prepareFan, bind_assoc]
  refine congrArg (liftM Program.userId >>= ·) (funext fun user => ?_)
  split
  · rfl
  · simp only [bind_assoc, pure_bind]

theorem Asks.attempting {x : Attempt α} {context : String} {kinds : List Request.Kind}
    (hx : x.run.Asks kinds) : (attempting context x).run.Asks kinds := by
  refine Every.bind hx fun r => ?_
  cases r <;> exact every_pure _

theorem wp_attempting {x : Attempt α} {context : String} {m : Machine}
    {Q : Except Breakdown α → Machine → List Entry → Prop} :
    (attempting context x).run.wp Q m ↔
      x.run.wp (fun r m' es => Q (r.mapError (.failure (some context))) m' es) m := by
  unfold attempting
  rw [ExceptT.run_mk, wp_bind]
  refine iff_of_eq (congrArg (fun P => wp _ P m) (funext fun r => ?_))
  cases r <;> (funext m' es; simp)

theorem Gives.attempting {x : Attempt α} {context : String} {R : α → Prop} (hx : Gives x R) :
    Gives (attempting context x) R := by
  intro m a
  suffices h : (Session.attempting context x).run.wp (fun r _ _ => r = .ok a → R a) m from h
  rw [wp_attempting]
  refine wp_mono (hx.wp m) fun r _ _ hr => ?_
  cases r with
  | ok b => exact fun hb => hr a (by cases hb; rfl)
  | error f => exact nofun

theorem asks_prepareFan (path : String) :
    (prepareFan path).run.Asks [.user, .file, .log] := by
  refine (Every.run_lift (every_request (.head _))).run_bind fun user => Every.run_guard ?_
  have hload := (Config.asks_load path).mono [.user, .file, .log] (by decide)
  refine (Asks.attempting hload).run_bind fun config => ?_
  have hbuild := config.asks_buildFan.mono [.user, .file, .log] (by decide)
  exact (Asks.attempting hbuild).run_bind fun fan => every_run_pure _

/-- Preparing writes nothing and takes no time, and gives the fan of the configuration. -/
theorem prepareFan_spec (path : String) (m : Machine) :
    (prepareFan path).run.wp (fun r m' es => m.SameTiming m' ∧ writesIn es = [] ∧
      ∀ config fan, r = .ok (config, fan) → config.Describes fan) m := by
  have hasks := asks_prepareFan path
  refine ⟨hasks.sameTiming (by decide) m, hasks.writesIn_eq_nil (by decide) m, ?_⟩
  suffices h : (prepareFan path).run.wp
      (fun r _ _ => ∀ config fan, r = .ok (config, fan) → config.Describes fan) m from h
  unfold prepareFan
  rw [wp_run_bind, wp_run_lift, userId, wp_request]
  refine (wp_run_guard _ _).2 ?_
  split
  · rintro _ _ ⟨⟩
  · rw [wp_run_bind]
    refine wp_of_forall fun r m' es => ?_
    cases r with
    | error b => rintro _ _ ⟨⟩
    | ok config =>
      simp only [wp_run_bind, wp_attempting]
      refine wp_mono (config.buildFan_ok.wp m') fun r m'' fs hbuild => ?_
      cases r with
      | error f => rintro _ _ ⟨⟩
      | ok fan =>
        rintro _ _ ⟨⟩
        exact hbuild fan rfl

/-- On a quiet machine root finds the ThinkPad fan of a configuration that makes sense. -/
theorem prepareFan_quiet {m : Machine} (hm : m.Quiet) (hroot : m.userId = 0) {path text : String}
    {config : Config} (htext : Config.ofText text = .ok config)
    (hkind : config.fan.kind = .thinkpad) (hpath : '\x00' ∉ path.toList)
    (hfan : '\x00' ∉ config.fan.path.toList) (hfile : m.files.get? path = some text.toUTF8)
    (hstatus : m.files.get? config.fan.path = some ThinkpadStatus.bare.toUTF8) :
    (prepareFan path).run.wp (fun r _ _ => ∃ fan, r = .ok (config, fan)) m := by
  obtain ⟨hquiet, -, hfiles⟩ := hm.serve .userId
  replace hfiles : (m.serve .userId).2.files = m.files := hfiles nofun
  have hallowed : ¬(m.serve .userId).1 ≠ 0 := not_not_intro hroot
  unfold prepareFan
  rw [wp_run_bind, wp_run_lift, userId, wp_request]
  refine (wp_run_guard _ _).2 ?_
  rw [if_neg hallowed, wp_run_bind, load, wp_attempting]
  refine wp_mono (Config.load_quiet hquiet htext hpath (hfiles ▸ hfile)) ?_
  rintro _ m₁ es ⟨rfl, hquiet₁, hfiles₁⟩
  rw [mapError_ok]
  dsimp only
  rw [wp_run_bind, wp_attempting, Config.buildFan, hkind]
  dsimp only
  rw [wp_run_bind]
  refine wp_mono (ThinkpadFan.find_quiet hquiet₁ hfan (hfiles₁ ▸ hfiles ▸ hstatus)) ?_
  rintro _ m₂ fs ⟨fan, rfl⟩
  exact ⟨_, rfl⟩

end Session

end Cooling
