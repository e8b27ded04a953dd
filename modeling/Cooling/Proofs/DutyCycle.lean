-- SUMMARY: What a PWM channel writes when its duty cycle is set: once, and once more in manual mode if the first write is refused as invalid.
import Cooling.Proofs.Files

/-!
# Setting a duty cycle

A PWM channel that has left manual mode refuses a duty cycle as invalid. Manual mode is
switched on again then, and if that works the duty cycle is written once more. Nothing
else is tried: any other refusal, one of manual mode, and a second refusal of the duty
cycle are reported as they are.
-/

namespace Cooling

open Program

/-! ## Refused levels -/

namespace Fan

/-- A refusal for lack of permission is a failure of the system. -/
theorem kind_levelRefused (path text : String) (n : Int) :
    (levelRefused path text (.errno n)).kind = if n = 1 ∨ n = 13 then .system else .io := by
  simp only [levelRefused, OsError.code?_errno, Option.some.injEq]
  split <;> rfl

/-- Only a refusal for lack of permission loses its number. -/
theorem code?_levelRefused (path text : String) (n : Int) :
    (levelRefused path text (.errno n)).code? = if n = 1 ∨ n = 13 then none else some n := by
  simp only [levelRefused, OsError.code?_errno, Option.some.injEq]
  split <;> rfl

end Fan

namespace PwmFan

variable {fan : PwmFan} {n : UInt32} {time : Instant}

/-- The error number for a value that is invalid. -/
def invalid : OsError := .errno 22

theorem code?_levelRefused_iff {path text : String} {e : OsError} :
    (Fan.levelRefused path text e).code? = some 22 ↔ e = invalid := by
  cases e with
  | errno n =>
    rw [Fan.code?_levelRefused, invalid, OsError.errno.injEq]
    split
    · rename_i hpermission
      refine iff_of_false nofun ?_
      rcases hpermission with rfl | rfl <;> decide
    · exact Option.some.injEq n 22 ▸ Iff.rfl
  | other text' => exact iff_of_false nofun nofun

/-! ## Attempts -/

/-- The text of a duty cycle. -/
def dutyText (n : UInt32) : String := toString n.toNat

/-- A write of a duty cycle. -/
def dutyWrite (fan : PwmFan) (n : UInt32) (time : Instant) (result : Except OsError Unit) : Write :=
  .ofText time fan.path (dutyText n) result

/-- A write that switches to manual mode. -/
def manualWrite (fan : PwmFan) (time : Instant) (result : Except OsError Unit) : Write :=
  .ofText time fan.modePath manual result

/-- The writes that set a duty cycle, by how each of them ended, and how the last one is
    reported. -/
inductive Attempts (fan : PwmFan) (n : UInt32) (time : Instant) :
    List Write → Except Failure Unit → Prop where
  | only (result : Except OsError Unit) (h : result ≠ .error invalid) :
      Attempts fan n time [fan.dutyWrite n time result]
        (result.mapError (Fan.levelRefused fan.path (dutyText n)))
  | notManual (e : OsError) :
      Attempts fan n time
        [fan.dutyWrite n time (.error invalid), fan.manualWrite time (.error e)]
        (.error (notManual fan.modePath e))
  | again (result : Except OsError Unit) :
      Attempts fan n time
        [fan.dutyWrite n time (.error invalid), fan.manualWrite time (.ok ()),
          fan.dutyWrite n time result]
        (result.mapError (Fan.levelRefused fan.path (dutyText n)))

theorem modePath_ne_path (fan : PwmFan) : fan.modePath ≠ fan.path := by
  intro h
  have hlength := congrArg String.length h
  have hlonger : fan.modePath.length = fan.path.length + "_enable".length := String.length_append ..
  rw [hlonger] at hlength
  exact absurd hlength (by simp)

theorem nul_not_mem_modePath (hpath : '\x00' ∉ fan.path.toList) :
    '\x00' ∉ fan.modePath.toList := by
  unfold modePath modePathFor
  rw [String.toList_append, List.mem_append, not_or]
  exact ⟨hpath, by decide⟩

/-- Manual mode is switched on again, and the duty cycle written once more. -/
def recover (fan : PwmFan) (n : UInt32) (f : Failure) : Attempt Unit := do
  Program.log .debug (suspected fan.path f)
  fan.takeOver
  Fan.writeLevel fan.path (dutyText n)

theorem run_recover (fan : PwmFan) (n : UInt32) (f : Failure) :
    (fan.recover n f).run = (do
      Program.log .debug (suspected fan.path f)
      match ← fan.takeOver.run with
      | .ok () => (Fan.writeLevel fan.path (dutyText n)).run
      | .error f => return .error f) := by
  refine congrArg (Program.ask (.log .debug (suspected fan.path f))) (funext fun _ => ?_)
  refine congrArg (fan.takeOver.run >>= ·) (funext fun r => ?_)
  cases r <;> rfl

/-- Only a duty cycle that is refused as invalid is followed by a recovery. -/
theorem run_setSpeed {level : Level} (hlevel : level.number? = some n) :
    (fan.setSpeed level).run =
      ((Fan.writeLevel fan.path (dutyText n)).run >>= fun r =>
        match r with
        | .ok () => pure (.ok ())
        | .error f => if f.code? = some 22 then (fan.recover n f).run else pure (.error f)) := by
  unfold setSpeed
  rw [hlevel]
  simp only [run_recover]
  rfl

theorem writeLevel_duty (hpath : '\x00' ∉ fan.path.toList) (m : Machine) :
    (Fan.writeLevel fan.path (dutyText n)).run.wp (fun r m' es => m.SameTiming m' ∧
      ∃ result, writesIn es = [fan.dutyWrite n m.clock result] ∧
        r = result.mapError (Fan.levelRefused fan.path (dutyText n))) m :=
  Attempt.ofProgram_write_once hpath _ _ m

theorem takeOver_manual (hpath : '\x00' ∉ fan.path.toList) (m : Machine) :
    fan.takeOver.run.wp (fun r m' es => m.SameTiming m' ∧
      ∃ result, writesIn es = [fan.manualWrite m.clock result] ∧
        r = result.mapError (notManual fan.modePath)) m :=
  Attempt.ofProgram_write_once (nul_not_mem_modePath hpath) _ _ m

/-- A recovery makes the attempts that follow a duty cycle that is invalid. -/
theorem recover_attempts (hpath : '\x00' ∉ fan.path.toList) (f : Failure) (m : Machine) :
    (fan.recover n f).run.wp (fun r m' es => m.SameTiming m' ∧
      Attempts fan n m.clock (fan.dutyWrite n m.clock (.error invalid) :: writesIn es) r) m := by
  have hlog := m.sameTiming_log .debug (suspected fan.path f)
  unfold recover
  rw [wp_run_bind, wp_run_lift, Program.log, wp_request]
  dsimp only
  rw [wp_run_bind]
  refine wp_mono (takeOver_manual hpath _) ?_
  rintro r m₁ es ⟨hmanual, result, hwrites, rfl⟩
  rw [hlog.clock] at hwrites
  cases result with
  | error e =>
    refine ⟨hlog.trans hmanual, ?_⟩
    rw [writesIn_append, writesIn_log, hwrites]
    exact .notManual e
  | ok a =>
    refine wp_mono (writeLevel_duty hpath m₁) ?_
    rintro r m₂ fs ⟨hduty, result, hagain, rfl⟩
    rw [hmanual.clock, hlog.clock] at hagain
    refine ⟨hlog.trans (hmanual.trans hduty), ?_⟩
    rw [writesIn_append, writesIn_append, writesIn_log, hwrites, hagain]
    exact .again result

/-- Setting a duty cycle takes no time and makes its attempts. -/
theorem setSpeed_attempts (hpath : '\x00' ∉ fan.path.toList) {level : Level}
    (hlevel : level.number? = some n) (m : Machine) :
    (fan.setSpeed level).run.wp (fun r m' es => m.SameTiming m' ∧
      Attempts fan n m.clock (writesIn es) r) m := by
  rw [run_setSpeed hlevel, wp_bind]
  refine wp_mono (writeLevel_duty hpath m) ?_
  rintro r m₁ es ⟨hduty, first, hfirst, rfl⟩
  cases first with
  | ok a =>
    simp only [mapError_ok, pure_eq_done, wp_done, List.append_nil]
    exact ⟨hduty, hfirst ▸ .only (.ok a) fun h => by cases h⟩
  | error e =>
    simp only [mapError_error, code?_levelRefused_iff]
    split
    · rename_i hinvalid
      subst hinvalid
      refine wp_mono (recover_attempts hpath _ m₁) ?_
      rintro r m₂ fs ⟨hrecover, hattempts⟩
      rw [hduty.clock] at hattempts
      refine ⟨hduty.trans hrecover, ?_⟩
      rw [writesIn_append, hfirst]
      exact hattempts
    · rename_i hother
      simp only [pure_eq_done, wp_done, List.append_nil]
      refine ⟨hduty, ?_⟩
      rw [hfirst]
      exact .only (.error e) fun h => hother (Except.error.inj h)

/-! ## Outcomes -/

/-- How the last write is reported. A failure carries the error number, unless a duty cycle
    was refused for lack of permission. -/
structure Reports (fan : PwmFan) (last : Write) (r : Except Failure Unit) : Prop where
  ok_iff : r = .ok () ↔ last.result = .ok ()
  failed : ∀ e, last.result = .error e → ∃ f k, r = .error f ∧ e = .errno k ∧
    if last.path = fan.path ∧ (k = 1 ∨ k = 13) then f.kind = .system ∧ f.code? = none
    else f.kind = .io ∧ f.code? = some k

theorem reports_dutyWrite {result : Except OsError Unit}
    (herrno : ∀ e, result = .error e → ∃ k, e = .errno k) :
    fan.Reports (fan.dutyWrite n time result)
      (result.mapError (Fan.levelRefused fan.path (dutyText n))) := by
  cases result with
  | ok a => exact ⟨iff_of_true rfl rfl, nofun⟩
  | error e =>
    obtain ⟨k, rfl⟩ := herrno e rfl
    refine ⟨iff_of_false nofun nofun, ?_⟩
    rintro _ ⟨⟩
    refine ⟨_, k, rfl, rfl, ?_⟩
    rw [Fan.kind_levelRefused, Fan.code?_levelRefused]
    by_cases hpermission : k = 1 ∨ k = 13
    · simp [hpermission, dutyWrite, Write.ofText]
    · simp [hpermission]

theorem reports_manualWrite {e : OsError} (herrno : ∃ k, e = .errno k) :
    fan.Reports (fan.manualWrite time (.error e)) (.error (notManual fan.modePath e)) := by
  obtain ⟨k, rfl⟩ := herrno
  refine ⟨iff_of_false nofun nofun, ?_⟩
  rintro _ ⟨⟩
  refine ⟨_, k, rfl, rfl, ?_⟩
  rw [if_neg fun h => fan.modePath_ne_path h.1]
  exact ⟨rfl, rfl⟩

/-- The last attempt is reported. -/
theorem Attempts.reports {ws : List Write} {r : Except Failure Unit}
    (h : Attempts fan n time ws r)
    (herrno : ∀ w ∈ ws, ∀ e, w.result = .error e → ∃ k, e = .errno k) :
    ∃ last, ws.getLast? = some last ∧ fan.Reports last r := by
  cases h with
  | only result _ => exact ⟨_, rfl, reports_dutyWrite (herrno _ (.head _))⟩
  | notManual e => exact ⟨_, rfl, reports_manualWrite (herrno _ (.tail _ (.head _)) e rfl)⟩
  | again result =>
    exact ⟨_, rfl, reports_dutyWrite (herrno _ (.tail _ (.tail _ (.head _))))⟩

/-- What setting a duty cycle came to: how the first write ended, how the switch to manual
    mode did if it was tried, and how the second write did if that was tried. -/
structure Tries (fan : PwmFan) (n : UInt32) (m : Machine) (r : Except Failure Unit) (m' : Machine)
    (es : List Entry) (first : Except OsError Unit)
    (mode? again? : Option (Except OsError Unit)) : Prop where
  timing : m.SameTiming m'
  writes : writesIn es = fan.dutyWrite n m.clock first ::
    ((mode?.map (fan.manualWrite m.clock)).toList ++
      (again?.map (fan.dutyWrite n m.clock)).toList)
  switches : mode?.isSome ↔ first = .error (.errno 22)
  retries : again?.isSome ↔ mode? = some (.ok ())
  reports : ∃ last, (writesIn es).getLast? = some last ∧ fan.Reports last r
  holds : r = .ok () → m'.files.get? fan.path = some (dutyText n).toUTF8 ∧
    (mode?.isSome → m'.files.get? fan.modePath = some manual.toUTF8)

theorem mapError_eq_ok {failure : OsError → Failure} {result : Except OsError Unit}
    (h : result.mapError failure = .ok ()) : result = .ok () := by
  cases result with
  | ok a => rfl
  | error e => cases h

/-- A duty cycle that was set is in its file, and manual mode in the other one if it was
    switched on again: the second write of the duty cycle is to another file. -/
theorem Attempts.holds {x : Program (Except Failure Unit)} {m : Machine}
    (htiming : m.SameTiming (x.after m))
    (h : Attempts fan n m.clock (writesIn (x.trace m)) (x.value m)) (hok : x.value m = .ok ()) :
    (x.after m).files.get? fan.path = some (dutyText n).toUTF8 ∧
      ((writesIn (x.trace m)).length ≠ 1 →
        (x.after m).files.get? fan.modePath = some manual.toUTF8) := by
  rw [hok] at h
  generalize hws : writesIn (x.trace m) = ws at h
  generalize hr : (Except.ok () : Except Failure Unit) = r at h
  cases h with
  | only result hother =>
    obtain rfl := mapError_eq_ok hr.symm
    exact ⟨get?_of_write_at_once htiming [] hws rfl nofun, fun h => absurd rfl h⟩
  | notManual e => cases hr
  | again result =>
    obtain rfl := mapError_eq_ok hr.symm
    refine ⟨get?_of_write_at_once htiming [_, _] hws rfl nofun, fun _ => ?_⟩
    refine get?_of_write_at_once htiming [_] hws rfl fun v hv => ?_
    rw [List.mem_singleton.1 hv]
    exact fan.modePath_ne_path.symm

theorem Attempts.tries {x : Program (Except Failure Unit)} {m : Machine}
    (htiming : m.SameTiming (x.after m))
    (h : Attempts fan n m.clock (writesIn (x.trace m)) (x.value m)) :
    ∃ first mode? again?,
      fan.Tries n m (x.value m) (x.after m) (x.trace m) first mode? again? := by
  have hreports := h.reports (errno_of_write x m)
  have hholds := h.holds htiming
  generalize hws : writesIn (x.trace m) = ws at h hholds
  generalize x.value m = r at h hreports hholds
  cases h with
  | only result hother =>
    exact ⟨result, none, none, htiming, hws, iff_of_false nofun hother, iff_of_false nofun nofun,
      hreports, fun hok => ⟨(hholds hok).1, nofun⟩⟩
  | notManual e =>
    exact ⟨.error invalid, some (.error e), none, htiming, hws, iff_of_true rfl rfl,
      iff_of_false nofun nofun, hreports, nofun⟩
  | again result =>
    exact ⟨.error invalid, some (.ok ()), some result, htiming, hws, iff_of_true rfl rfl,
      iff_of_true rfl rfl, hreports, fun hok => ⟨(hholds hok).1, fun _ => (hholds hok).2 nofun⟩⟩

/-- The level is refused for a reason of some kind, without an error number, and before
    anything is asked of the host. -/
structure Refuses (kind : FailureKind) (f : Failure) (m : Machine) (r : Except Failure Unit)
    (m' : Machine) (es : List Entry) : Prop where
  failed : r = .error f
  kind_eq : f.kind = kind
  code? : f.code? = none
  unchanged : m' = m
  silent : es = []

/-- A level without a number is refused before anything is asked of the host, and so is any
    level if the path has the null character. Otherwise the duty cycle is written once, and
    once more in manual mode if and only if it was refused as invalid and manual mode could
    be switched on. The last of these writes decides how it went, and what is reported. -/
theorem setSpeed_retries_once (fan : PwmFan) (level : Level) (m : Machine) :
    (fan.setSpeed level).run.wp (fun r m' es =>
      match level.number? with
      | none => Refuses .config (notNumeric fan.path level) m r m' es
      | some n =>
        if '\x00' ∈ fan.path.toList then
          Refuses .io (Fan.levelRefused fan.path (dutyText n) .nulInPath) m r m' es
        else ∃ first mode? again?, fan.Tries n m r m' es first mode? again?) m := by
  cases hlevel : level.number? with
  | none =>
    unfold setSpeed
    rw [hlevel]
    exact ⟨rfl, rfl, rfl, rfl, rfl⟩
  | some n =>
    by_cases hnul : '\x00' ∈ fan.path.toList
    · simp only [if_pos hnul]
      rw [run_setSpeed hlevel, Fan.writeLevel_nul hnul]
      exact ⟨rfl, rfl, rfl, rfl, rfl⟩
    · simp only [if_neg hnul]
      obtain ⟨htiming, hattempts⟩ := setSpeed_attempts hnul hlevel m
      exact hattempts.tries htiming

/-- A channel that left manual mode is written to three times, and then holds its duty cycle
    in manual mode. -/
theorem woken_retries_once :
    let fan : PwmFan := { path := "pwm1", initialMode := "2" }
    let files : Registry ByteArray := ⟨[("pwm1", "0".toUTF8), ("pwm1_enable", "2".toUTF8)]⟩
    let m : Machine := { files, faults := [⟨"pwm1", .openWrite, 22, 0, some 1⟩] }
    let x := (fan.setSpeed (.numeric 200)).run
    (∃ first mode? again?,
      fan.Tries 200 m (x.value m) (x.after m) (x.trace m) first mode? again?) ∧
      (writesIn (x.trace m)).map (fun w => (w.path, w.result.isOk)) =
        [("pwm1", false), ("pwm1_enable", true), ("pwm1", true)] := by
  intro fan files m x
  have hname : '\x00' ∉ fan.path.toList := by decide
  exact ⟨(if_neg hname).mp (setSpeed_retries_once fan (.numeric 200) m), by decide +kernel⟩

end PwmFan

end Cooling
