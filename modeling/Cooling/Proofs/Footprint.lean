-- SUMMARY: Which files the program can alter: those of the fan that it works with, and only those that it opened for writing.
import Cooling.Proofs.Custody
import Cooling.Proofs.Cycles

/-!
# The footprint of the program

Whatever the program does, it neither creates nor removes a file, and it alters only
control files of a fan: the one of a ThinkPad fan, and the duty cycle and the mode of a
PWM channel. An open for writing that fails alters nothing. What an operation wrote
before that stays written: a PWM channel that is switched back to manual mode is in
manual mode, even if its duty cycle cannot be written after that.
-/

namespace Cooling

open Program

/-! ## Control files of fans -/

theorem Fan.asks_find (kind : FanKind) (path : String) :
    (find kind path).run.Asks [.file, .log] := by
  cases kind with
  | thinkpad => exact (ThinkpadFan.asks_find path).run_map _
  | pwm => exact (PwmFan.asks_find path).run_map _

/-- The files through which a fan is controlled. -/
def FanSpec.controlFiles (spec : FanSpec) : List String :=
  match spec.kind with
  | .thinkpad => [spec.path]
  | .pwm => [spec.path, PwmFan.modePathFor spec.path]

namespace Fan

/-- What a fan is found by. -/
def spec : Fan → FanSpec
  | thinkpad fan => ⟨.thinkpad, fan.path⟩
  | pwm fan => ⟨.pwm, fan.path⟩

def controlFiles (fan : Fan) : List String := fan.spec.controlFiles

theorem mem_controlFiles_of_commands {fan : Fan} {level : Level} {c : String × String}
    (hc : c ∈ fan.commands level) : c.1 ∈ fan.controlFiles := by
  cases fan with
  | thinkpad fan =>
    simp only [commands, List.mem_cons, List.not_mem_nil, or_false] at hc
    rcases hc with rfl | rfl | rfl <;> exact .head _
  | pwm fan =>
    simp only [commands, List.mem_cons, List.mem_map] at hc
    rcases hc with rfl | ⟨n, -, rfl⟩
    · exact .tail _ (.head _)
    · exact .head _

theorem restoreTarget_mem_controlFiles (fan : Fan) : fan.restoreTarget ∈ fan.controlFiles := by
  cases fan with
  | thinkpad fan => exact .head _
  | pwm fan => exact .tail _ (.head _)

end Fan

/-- A request that writes is for one of the files. -/
def Request.WritesTo (paths : List String) : Request → Prop
  | .writeFile path _ => path ∈ paths
  | _ => True

theorem Request.Makes.writesTo {cs : List (String × String)} {paths : List String} {r : Request}
    (hr : r.Makes cs) (hcs : ∀ c ∈ cs, c.1 ∈ paths) : r.WritesTo paths := by
  cases r with
  | writeFile path contents =>
    obtain ⟨c, hc, rfl, -⟩ := hr
    exact hcs c hc
  | _ => exact trivial

/-- What a program writes that only writes to certain files. -/
theorem Program.Every.writes_to {x : Program α} {paths : List String}
    (hx : x.Every (Request.WritesTo paths)) (m : Machine) :
    ∀ w ∈ writesIn (x.trace m), w.path ∈ paths := by
  intro w hw
  obtain ⟨⟨time, request, answer, n⟩, he, hew⟩ := List.mem_filterMap.1 hw
  have hrequest := hx.trace m _ he
  cases request with
  | writeFile path contents =>
    cases hew
    exact hrequest
  | _ => cases hew

namespace Fan

theorem restore_makes (fan : Fan) :
    fan.restore.run.Every (Request.Makes [(fan.restoreTarget, fan.restoreText)]) := by
  have hwrite : ∀ {failure : OsError → Failure},
      (Attempt.ofProgram (ControlFile.write fan.restoreTarget fan.restoreText) failure).run.Every
        (Request.Makes [(fan.restoreTarget, fan.restoreText)]) :=
    Every.run_ofProgram (ControlFile.write_makes (.head _))
  cases fan with
  | thinkpad fan =>
    change (ThinkpadFan.restore fan).run.Every _
    unfold ThinkpadFan.restore
    split
    · exact hwrite.run_bind fun _ => Every.run_lift (every_request trivial)
    · exact every_run_pure _
  | pwm fan =>
    change (PwmFan.restore fan).run.Every _
    unfold PwmFan.restore
    split
    · exact hwrite
    · exact every_run_pure _

theorem writesTo_of_commands {fan : Fan} {level : Level} {x : Program α}
    (hx : x.Every (Request.Makes (fan.commands level))) :
    x.Every (Request.WritesTo fan.controlFiles) :=
  hx.mono fun _ hr => hr.writesTo fun _ => mem_controlFiles_of_commands

/-- An operation on a fan writes to its control files only. -/
theorem perform_writesTo (fan : Fan) (o : Operation) :
    (fan.perform o).Every (Request.WritesTo fan.controlFiles) := by
  have hrestore : fan.restore.run.Every (Request.WritesTo fan.controlFiles) :=
    fan.restore_makes.mono fun _ hr => hr.writesTo fun c hc => by
      rw [List.mem_singleton.1 hc]
      exact fan.restoreTarget_mem_controlFiles
  cases o with
  | takeOver => exact Every.map _ (writesTo_of_commands (fan.takeOver_makes (.numeric 0)))
  | setSpeed level => exact Every.map _ (writesTo_of_commands (fan.setSpeed_makes level))
  | keep level => exact Every.map _ (writesTo_of_commands (fan.keep_makes level))
  | restore => exact hrestore.map _
  | adjust setting => exact every_pure _
  | release =>
    have hrelease : fan.release = fan.restore.orLog Failure.message := by cases fan <;> rfl
    rw [perform, hrelease]
    exact (Every.orLog hrestore fun _ _ => trivial).map _

end Fan

/-- The fan of a configuration is the one that it names. -/
theorem Config.Describes.spec_eq {config : Config} {fan : Fan} (h : config.Describes fan) :
    fan.spec = config.fan := by
  have hspec : ∀ {kind : FanKind} {path : String}, config.fan.kind = kind →
      path = config.fan.path → FanSpec.mk kind path = config.fan := by
    rintro _ _ rfl rfl
    rfl
  cases fan with
  | thinkpad fan => exact hspec h.1 h.2.1
  | pwm fan => exact hspec h.1 h.2.1

/-! ## Sessions -/

namespace Session

/-- The kinds of requests of a session with sensors. It writes to no file. -/
def sensorKinds : List Request.Kind := driverKinds ++ [.measure, .print, .clock, .sleep, .running]

theorem asks_runCycles (sensors : List Sensor) (pollInterval : Duration) (cycles? : Option Nat)
    (left cycle : Nat) (temperatures : Temperatures) :
    (runCycles sensors pollInterval cycles? left cycle temperatures).run.Asks sensorKinds := by
  induction left generalizing cycle temperatures with
  | zero => exact every_run_pure _
  | succ left ih =>
    have hshow := (asks_showCycle sensors cycle temperatures).mono sensorKinds (by decide)
    have hpause := (asks_sleepWhileRunning pollInterval).mono sensorKinds (by decide)
    refine (Every.run_lift hshow).run_bind fun _ => ?_
    split
    · exact every_run_pure _
    · refine hpause.run_bind fun runs => ?_
      split
      · exact ih _ _
      · exact every_run_pure _

theorem asks_withSensors (patience : Nat) (sensors : List Sensor) (pollInterval : Duration)
    (cycles : Nat) : (withSensors patience sensors pollInterval cycles).run.Asks sensorKinds := by
  have hlog : (Program.log .info (overview sensors)).Asks sensorKinds :=
    every_log_driver.mono sensorKinds (by decide)
  have hend := fun r => (asks_letGo sensors r).mono sensorKinds (by decide)
  unfold withSensors
  rw [ExceptT.run_mk]
  refine hlog.bind fun _ => Every.bind ?_ fun r => (hend r).bind fun _ => every_pure _
  split
  · exact asks_runCycles ..
  · exact asks_runCycles ..

theorem asks_runSensors (patience : Nat) (path : String) (cycles : Nat) :
    (runSensors patience path cycles).run.Asks sensorKinds := by
  rw [runSensors_eq]
  refine ((asks_prepareSensors path).mono sensorKinds (by decide)).run_bind fun prepared => ?_
  exact asks_withSensors ..

/-- The files that a session with a fan controls it through: none if it finds no fan. -/
def fanFiles (path : String) (m : Machine) : List String :=
  match (prepareFan path).run.value m with
  | .ok (config, _) => config.fan.controlFiles
  | .error _ => []

/-- A session hands the fan back if its deadline cannot be shown, and else writes nothing. -/
theorem deadlineAfter_writes {fan : Fan} (hready : fan.Ready) (seconds? : Option Nat)
    (m : Machine) :
    (deadlineAfter fan seconds?).run.wp (fun _ _ es =>
      ∀ w ∈ writesIn es, w.path ∈ fan.controlFiles) m := by
  refine wp_mono (deadlineAfter_spec hready seconds? m) ?_
  rintro r m' es ⟨-, hspec⟩ w hw
  cases r with
  | ok deadline? =>
    rw [hspec.1] at hw
    cases hw
  | error breakdown =>
    obtain ⟨s, -, -, -, time, restored, hwrites⟩ := hspec
    rw [hwrites, List.mem_singleton] at hw
    rw [hw]
    exact fan.restoreTarget_mem_controlFiles

/-- A hold writes commands to the fan, and then hands it back. -/
theorem holdAndHandBack_writes (patience : Nat) {fan : Fan} (hready : fan.Ready) (level : Level)
    (pollInterval : Duration) (deadline? : Option Instant) (m : Machine) :
    (holdAndHandBack patience fan level pollInterval deadline?).run.wp (fun _ _ es =>
      ∀ w ∈ writesIn es, w.path ∈ fan.controlFiles) m := by
  have hkept := hold_kept patience hready level pollInterval deadline? m
  refine wp_mono (holdAndHandBack_spec patience hready level pollInterval deadline? m) ?_
  rintro r m' es ⟨restored, hwrites, -⟩
  rw [hwrites]
  refine List.forall_mem_append.2 ⟨fun w hw => ?_, fun w hw => ?_⟩
  · obtain ⟨c, hc, hpath, -⟩ := hkept.makes w hw
    exact hpath ▸ Fan.mem_controlFiles_of_commands hc
  · rw [List.mem_singleton.1 hw]
    exact fan.restoreTarget_mem_controlFiles

/-- A session with a fan writes to the control files of that fan only. -/
theorem runFan_writes (patience : Nat) (path : String) (level : Level) (seconds? : Option Nat)
    (m : Machine) :
    (runFan patience path level seconds?).run.wp (fun _ _ es =>
      ∀ w ∈ writesIn es, w.path ∈ fanFiles path m) m := by
  rw [runFan_eq, wp_run_bind]
  refine wp_mono (wp_and wp_self (prepareFan_spec path m)) ?_
  rintro r m₁ es ⟨⟨hrun, -⟩, -, hnone, hdescribes⟩
  have hvalue : (prepareFan path).run.value m = r := congrArg Prod.fst hrun
  unfold fanFiles
  rw [hvalue]
  cases r with
  | error breakdown =>
    intro w hw
    rw [hnone] at hw
    cases hw
  | ok prepared =>
    obtain ⟨config, fan⟩ := prepared
    have hfan := hdescribes config fan rfl
    have hfiles : config.fan.controlFiles = fan.controlFiles := by
      rw [Fan.controlFiles, hfan.spec_eq]
    dsimp only
    rw [hfiles, wp_run_bind]
    refine wp_mono (deadlineAfter_writes hfan.ready seconds? m₁) ?_
    intro r m₂ fs hdeadline
    cases r with
    | error breakdown =>
      rw [writesIn_append, hnone, List.nil_append]
      exact hdeadline
    | ok deadline? =>
      refine wp_mono
        (holdAndHandBack_writes patience hfan.ready level config.pollInterval deadline? m₂) ?_
      intro r m₃ gs hhold
      rw [writesIn_append, hnone, List.nil_append, writesIn_append]
      exact List.forall_mem_append.2 ⟨hdeadline, hhold⟩

end Session

/-! ## Everything that the program does -/

/-- What the program can be doing, with drivers in any state. -/
inductive Activity where
  | load (path : String)
  | findFan (kind : FanKind) (path : String)
  | buildFan (config : Config)
  | operate (fan : Fan) (o : Fan.Operation)
  | findSensor (doNotDisturb : Bool) (spec : SensorSpec)
  | buildSensor (doNotDisturb : Bool) (spec : SensorSpec)
  | buildSensors (config : Config)
  | readSensor (sensor : Sensor)
  | correctSensor (sensor : Sensor) (corrections : List Int)
  | shutDownSensor (sensor : Sensor)
  | releaseSensor (sensor : Sensor)
  | runSensors (patience : Nat) (path : String) (cycles : Nat)
  | runFan (patience : Nat) (path : String) (level : Level) (seconds? : Option Nat)

namespace Activity

/-- The program without its value. -/
def silent (x : Program α) : Program Unit := (fun _ => ()) <$> x

def program : Activity → Program Unit
  | load path => silent (Config.load path).run
  | findFan kind path => silent (Fan.find kind path).run
  | buildFan config => silent config.buildFan.run
  | operate fan o => silent (fan.perform o)
  | findSensor doNotDisturb spec => silent (Config.findSensor doNotDisturb spec).run
  | buildSensor doNotDisturb spec => silent (Config.buildSensor doNotDisturb spec).run
  | buildSensors config => silent config.buildSensors.run
  | readSensor sensor => silent sensor.read
  | correctSensor sensor corrections => silent (sensor.correct corrections).run
  | shutDownSensor sensor => silent sensor.shutdown.run
  | releaseSensor sensor => silent sensor.release
  | runSensors patience path cycles => silent (Session.runSensors patience path cycles).run
  | runFan patience path level seconds? =>
    silent (Session.runFan patience path level seconds?).run

/-- The files that the program may alter meanwhile. -/
def controlFiles (m : Machine) : Activity → List String
  | operate fan _ => fan.controlFiles
  | runFan _ path _ _ => Session.fanFiles path m
  | _ => []

theorem writes_controlFiles (a : Activity) (m : Machine) :
    ∀ w ∈ writesIn (a.program.trace m), w.path ∈ a.controlFiles m := by
  have hquiet : ∀ {α} {x : Program α}, x.Asks Session.sensorKinds →
      ∀ w ∈ writesIn ((silent x).trace m), w.path ∈ ([] : List String) := by
    intro α x hx w hw
    have hsilent : (silent x).Asks Session.sensorKinds := Every.map _ hx
    rw [hsilent.writesIn_eq_nil (by decide)] at hw
    cases hw
  have hdriver : ∀ {α} {x : Program α}, x.Asks driverKinds → x.Asks Session.sensorKinds :=
    fun hx => hx.mono _ (by decide)
  cases a with
  | load path => exact hquiet ((Config.asks_load path).mono _ (by decide))
  | findFan kind path => exact hquiet ((Fan.asks_find kind path).mono _ (by decide))
  | buildFan config => exact hquiet (config.asks_buildFan.mono _ (by decide))
  | operate fan o => exact Every.writes_to (Every.map _ (fan.perform_writesTo o)) m
  | findSensor doNotDisturb spec =>
    exact hquiet (hdriver (Config.asks_findSensor doNotDisturb spec))
  | buildSensor doNotDisturb spec =>
    exact hquiet (hdriver (Config.asks_buildSensor doNotDisturb spec))
  | buildSensors config => exact hquiet (hdriver config.asks_buildSensors)
  | readSensor sensor =>
    have hreads : sensor.read.Asks [.file, .measure] :=
      sensor.reads_read.mono fun _ hr => Request.kind_of_reads (Sensor.Reads.reads hr)
    exact hquiet (hreads.mono _ (by decide))
  | correctSensor sensor corrections =>
    exact hquiet (hdriver (sensor.every_correct (fun _ _ => log_mem_driverKinds) corrections))
  | shutDownSensor sensor => exact hquiet (hdriver sensor.asks_shutdown)
  | releaseSensor sensor => exact hquiet (hdriver sensor.asks_release)
  | runSensors patience path cycles => exact hquiet (Session.asks_runSensors ..)
  | runFan patience path level seconds? =>
    have hwrites := Session.runFan_writes patience path level seconds? m
    suffices h : (runFan patience path level seconds?).program.wp (fun _ _ es =>
        ∀ w ∈ writesIn es, w.path ∈ Session.fanFiles path m) m from h
    rw [program, silent, wp_map]
    exact hwrites

end Activity

/-- A step of a run: the program does something, or the machine changes from outside. -/
inductive Step where
  | activity (a : Activity)
  | change (c : Change)

namespace Step

def after (m : Machine) : Step → Machine
  | activity a => a.program.after m
  | change c => m.change c

/-- The changes from outside that are made in a step. -/
def made (m : Machine) : Step → List (Instant × Change)
  | activity a => m.pending.take (m.pending.length - (a.program.after m).pending.length)
  | change c => [(m.clock, c)]

/-- The files that the program opens for writing in a step. -/
def opened (m : Machine) : Step → List String
  | activity a => a.program.opened m
  | change _ => []

/-- The files that the program may alter in a step. -/
def controlFiles (m : Machine) : Step → List String
  | activity a => a.controlFiles m
  | change _ => []

/-- The machine after steps. -/
def afterAll (m : Machine) (steps : List Step) : Machine := steps.foldl after m

/-- What steps come to together, one after the other. -/
def along (f : Machine → Step → List β) (m : Machine) : List Step → List β
  | [] => []
  | s :: steps => f m s ++ along f (s.after m) steps

theorem opened_subset (m : Machine) (s : Step) : s.opened m ⊆ s.controlFiles m := by
  cases s with
  | change c => exact List.nil_subset _
  | activity a =>
    intro path hpath
    obtain ⟨w, hw, rfl⟩ := List.mem_map.1 (a.program.opened_subset m hpath)
    exact a.writes_controlFiles m w hw

theorem sameBut_after (m : Machine) (s : Step) :
    (filesAfter (s.made m) m.files).SameBut (s.opened m) (s.after m).files := by
  cases s with
  | change c =>
    rw [after, m.files_change]
    exact .refl [] _
  | activity a =>
    obtain ⟨made, hpending, hfiles⟩ := a.program.alters_opened m
    have hmade : (activity a).made m = made := by
      rw [Step.made, hpending, List.length_append, Nat.add_sub_cancel, List.take_left]
    rw [hmade]
    exact hfiles

/-- The program neither creates nor removes a file, and alters none but the control files of
    the fans that it works with: every file that it does not open for writing is as the
    changes from outside alone leave it. -/
theorem altered_files (m : Machine) (steps : List Step) :
    (filesAfter (along made m steps) m.files).SameBut (along opened m steps)
        (afterAll m steps).files ∧
      along opened m steps ⊆ along controlFiles m steps := by
  induction steps generalizing m with
  | nil => exact ⟨.refl [] m.files, List.nil_subset _⟩
  | cons s steps ih =>
    obtain ⟨hfiles, hopened⟩ := ih (s.after m)
    have hsubset := List.append_subset.2
      ⟨List.Subset.trans (s.opened_subset m) (List.subset_append_left _ _),
        List.Subset.trans hopened (List.subset_append_right _ _)⟩
    refine ⟨?_, hsubset⟩
    simp only [along, filesAfter_append]
    exact ((s.sameBut_after m).filesAfter _).trans hfiles

end Step

/-- An operation that fails because a file does not open can have altered another file before
    that: a channel whose duty cycle never opens for writing is in manual mode afterwards. -/
theorem PwmFan.refused_alters_mode :
    let fan : PwmFan := { path := "pwm1", initialMode := "2" }
    let files : Registry ByteArray := ⟨[("pwm1", "0".toUTF8), ("pwm1_enable", "2".toUTF8)]⟩
    let m : Machine := { files, faults := [⟨"pwm1", .openWrite, 22, 0, none⟩] }
    let x := (fan.setSpeed (.numeric 200)).run
    x.value m = .error (Fan.levelRefused "pwm1" "200" (.errno 22)) ∧
      (x.after m).opens "pwm1" = false ∧ x.opened m = ["pwm1_enable"] ∧
      m.files.get? "pwm1_enable" = some "2".toUTF8 ∧
      (x.after m).files.get? "pwm1_enable" = some "1".toUTF8 := by
  refine ⟨rfl, ?_⟩
  decide +kernel

end Cooling
