-- SUMMARY: Disks that sleep are left alone: by a read of one disk, and by sessions with sensors from the configuration on.
import Cooling.Proofs.Building
import Cooling.Proofs.DiskReads

/-!
# Leaving disks alone

A read of a disk is all or nothing: it appends one temperature, or none and fails. With
do-not-disturb it first asks whether the disk sleeps, and goes on only if it was told that
the disk is awake. A sensor has the setting of the configuration that it was built from, and
nothing but reads asks a disk for its data. So if the configuration says so, each time that
these are read in a session the disk has just said that it is awake.
-/

namespace Cooling

open Program

/-! ## One read -/

namespace DiskSensor

/-- What a read of a disk comes to: the requests that it makes, the temperatures that it
    leaves, and how it went. -/
structure ReadsGently (s : DiskSensor) (m : Machine) (before : Temperatures)
    (requests : List Request) (after : Temperatures) (outcome : Except Failure Unit) : Prop where
  /-- A disk that may be disturbed, or that is awake, is measured. It is asked whether it
      sleeps only if it may not be disturbed. -/
  measured : s.MayMeasure m →
    requests = (if s.doNotDisturb then [.diskAwake s.disk.path] else []) ++ s.measuring m
  /-- A disk that sleeps is left alone, and so is one that does not say whether it does. -/
  rested : ¬s.MayMeasure m → requests = [.diskAwake s.disk.path]
  /-- A disk that sleeps counts as one of no degrees, without a correction. -/
  asleep : ¬s.MayMeasure m → 0 ≤ (m.diskAwake s.disk.path).code →
    after = before.append [0] ∧ outcome = .ok ()
  unknown : ¬s.MayMeasure m → (m.diskAwake s.disk.path).code < 0 → outcome ≠ .ok ()
  ok_iff : s.MayMeasure m → (outcome = .ok () ↔ ∃ t, s.Measures m t)
  appended : s.MayMeasure m → ∀ t, s.Measures m t → after = before.append [t]
  /-- A read that fails leaves the temperatures alone. -/
  failed : ∀ f, outcome = .error f → after = before ∧ f.kind = .system

variable {s : DiskSensor} {m : Machine}

theorem doNotDisturb_of_not (h : ¬s.MayMeasure m) : s.doNotDisturb = true :=
  (Classical.not_imp.1 h).1

theorem map_checks (s : DiskSensor) (m : Machine) : (s.checks m).map Entry.request =
    if s.doNotDisturb then [.diskAwake s.disk.path] else [] := by
  unfold checks
  split <;> rfl

theorem readOnto_spec (s : DiskSensor) (before : Temperatures) (m : Machine) :
    ((Sensor.disk s).readOnto before).wp (fun r _ es => r.1 = .disk s ∧
      s.ReadsGently m before (es.map Entry.request) r.2.1 r.2.2) m := by
  rw [Sensor.readOnto_eq, wp_map]
  refine wp_mono (s.read_spec m) ?_
  rintro _ m' _ ⟨x, fs, rfl, rfl, hmeasured, hrested⟩
  refine ⟨rfl, ?_⟩
  rw [List.map_append, map_checks]
  by_cases hmay : s.MayMeasure m
  · obtain ⟨hrequests, hok, herror⟩ := hmeasured hmay
    rw [hrequests]
    cases x with
    | ok t =>
      have hunique : ∀ u, s.Measures m u → t = u := fun u hu => Except.ok.inj ((hok u).2 hu)
      constructor
      case measured => exact fun _ => rfl
      case ok_iff => exact fun _ => iff_of_true rfl ⟨t, (hok t).1 rfl⟩
      case appended => exact fun _ u hu => hunique u hu ▸ rfl
      case failed => exact nofun
      all_goals exact fun h => absurd hmay h
    | error f =>
      have hnone : ∀ u, ¬s.Measures m u := fun u hu => nomatch (hok u).2 hu
      constructor
      case measured => exact fun _ => rfl
      case ok_iff => exact fun _ => iff_of_false nofun fun ⟨u, hu⟩ => hnone u hu
      case appended => exact fun _ u hu => absurd hu (hnone u)
      case failed =>
        rintro _ ⟨⟩
        exact ⟨Temperatures.append_nil before, herror f rfl⟩
      all_goals exact fun h => absurd hmay h
  · obtain ⟨rfl, hrests⟩ := hrested hmay
    rw [doNotDisturb_of_not hmay]
    cases hrests with
    | sleeps hcode =>
      constructor
      case rested => exact fun _ => rfl
      case asleep => exact fun _ _ => ⟨rfl, rfl⟩
      case unknown => exact fun _ hfailed => absurd hfailed (Int.not_lt.2 hcode)
      case failed => exact nofun
      all_goals exact fun h => absurd h hmay
    | @unknown f hcode hkind =>
      constructor
      case rested => exact fun _ => rfl
      case asleep => exact fun _ hgood => absurd hcode (Int.not_lt.2 hgood)
      case unknown => exact fun _ _ => nofun
      case failed =>
        rintro _ ⟨⟩
        exact ⟨Temperatures.append_nil before, hkind⟩
      all_goals exact fun h => absurd h hmay

end DiskSensor

/-! ## Traces -/

/-- The path of the disk, if the entry is that it was asked whether it sleeps and said that it
    is awake. -/
def Entry.awake? : Entry → Option String
  | ⟨_, .diskAwake path, reply, _⟩ =>
    if 0 ≤ reply.code ∧ reply.value = true then some path else none
  | _ => none

/-- Each time that the data of a disk are read, it is asked right before whether it sleeps, and
    says that it is awake. -/
def Considerate (es : List Entry) : Prop :=
  ∀ front e back path, es = front ++ e :: back → e.request = .diskRead path →
    ∃ others check, front = others ++ [check] ∧ check.awake? = some path

namespace Considerate

variable {es fs : List Entry}

theorem of_unread (h : ∀ e ∈ es, ∀ path, e.request ≠ .diskRead path) : Considerate es := by
  rintro front e back path rfl hread
  exact absurd hread (h e (by simp) path)

theorem append (hes : Considerate es) (hfs : Considerate fs) : Considerate (es ++ fs) := by
  intro front e back path hsplit hread
  rcases List.append_eq_append_iff.1 hsplit with ⟨mid, rfl, hrest⟩ | ⟨mid, rfl, hrest⟩
  · obtain ⟨others, check, rfl, hawake⟩ := hfs mid e back path hrest hread
    exact ⟨es ++ others, check, (List.append_assoc _ _ _).symm, hawake⟩
  · cases mid with
    | nil =>
      -- The entry would be the first one of `fs`, with no check before it.
      obtain ⟨others, check, hnil, -⟩ := hfs [] e back path hrest.symm hread
      exact absurd hnil.symm (List.append_ne_nil_of_right_ne_nil others (List.cons_ne_nil _ _))
    | cons e' mid =>
      obtain ⟨rfl, -⟩ := List.cons_eq_cons.1 hrest
      exact hes front e mid path rfl hread

theorem pair {check e : Entry} {path : String} (hcheck : check.awake? = some path)
    (he : e.request = .diskRead path) : Considerate [check, e] := by
  intro front e' back path' hsplit hread
  rcases front with _ | ⟨c, _ | ⟨d, front⟩⟩
  -- The first of the two is the check, so it is not the read.
  · obtain ⟨rfl, -⟩ := List.cons_eq_cons.1 hsplit
    unfold Entry.awake? at hcheck
    split at hcheck
    · cases hread
    · cases hcheck
  · obtain ⟨rfl, hrest⟩ := List.cons_eq_cons.1 hsplit
    obtain ⟨rfl, -⟩ := List.cons_eq_cons.1 hrest
    obtain rfl := Request.diskRead.inj (he.symm.trans hread)
    exact ⟨[], check, rfl, hcheck⟩
  · have hlength := congrArg List.length hsplit
    simp at hlength

end Considerate

/-- Whatever the machine is, the program asks each disk right before it reads its data. -/
def Program.Considers (x : Program α) : Prop := ∀ m, Considerate (x.trace m)

namespace Program.Considers

variable {x : Program α}

theorem of_asks {kinds : List Request.Kind} (hx : x.Asks kinds) (hkinds : .measure ∉ kinds) :
    x.Considers := by
  refine fun m => .of_unread fun e he path hread => hkinds ?_
  have hkind := hx.trace m e he
  rwa [hread] at hkind

protected theorem pure (a : α) : (pure a : Program α).Considers :=
  of_asks (every_pure a : Asks [] (pure a : Program α)) (List.not_mem_nil)

theorem bind {k : α → Program β} (hx : x.Considers) (hk : ∀ a, (k a).Considers) :
    (x >>= k).Considers := by
  intro m
  rw [trace_bind]
  exact (hx m).append (hk _ _)

theorem map (f : α → β) (hx : x.Considers) : (f <$> x).Considers := by
  rw [map_eq_pure_bind]
  exact hx.bind fun a => .pure (f a)

end Program.Considers

/-- What may give up has to be considerate up to there, and then with the value that it gave. -/
theorem Considerate.run_bind {x : ExceptT ε Program α} {f : α → ExceptT ε Program β} {m : Machine}
    (hx : Considerate (x.run.trace m)) (hf : ∀ a, x.run.value m = .ok a → (f a).run.Considers) :
    Considerate ((x >>= f).run.trace m) := by
  rw [ExceptT.run_bind, trace_bind]
  refine hx.append ?_
  cases hvalue : x.run.value m with
  | ok a => exact hf a hvalue _
  | error e => exact Considers.pure _ _

theorem Program.Considers.run_bind {x : ExceptT ε Program α} {f : α → ExceptT ε Program β}
    (hx : x.run.Considers) (hf : ∀ a, (f a).run.Considers) : (x >>= f).run.Considers :=
  fun m => Considerate.run_bind (hx m) fun a _ => hf a

/-! ## Sessions -/

theorem DiskSensor.considers_read {s : DiskSensor} (h : s.doNotDisturb = true) :
    s.read.Considers := by
  intro m
  obtain ⟨x, fs, -, htrace, hmeasured, hrested⟩ := wp_iff.1 (s.read_spec m)
  have hchecks : s.checks m = [m.entry (.diskAwake s.disk.path)] := by rw [checks, h]; rfl
  rw [htrace, hchecks]
  by_cases hmay : s.MayMeasure m
  · have hawake : (m.entry (.diskAwake s.disk.path)).awake? = some s.disk.path := if_pos (hmay h)
    obtain ⟨hrequests, -⟩ := hmeasured hmay
    obtain ⟨e, fs, rfl, he, hfs⟩ := List.map_eq_cons_iff.1 hrequests
    have hpair : Considerate [m.entry (.diskAwake s.disk.path), e] := .pair hawake he
    refine hpair.append (.of_unread fun e' he' path hread => ?_)
    have hmem := List.mem_map_of_mem (f := Entry.request) he'
    rw [hfs, hread] at hmem
    split at hmem <;> simp at hmem
  · obtain ⟨rfl, -⟩ := hrested hmay
    refine .of_unread (List.forall_mem_singleton.2 fun path hread => ?_)
    cases hread

namespace Sensor

/-- A disk is left alone while it sleeps. -/
def Gentle (s : Sensor) : Prop := ∀ d, s = disk d → d.doNotDisturb = true

variable {s : Sensor} {sensors : List Sensor}

theorem Gentle.considers_read (h : s.Gentle) : s.read.Considers := by
  cases s with
  | disk d => exact DiskSensor.considers_read (h d rfl)
  | _ =>
    refine fun m => .of_unread fun e he path hread => ?_
    have hreads := (reads_read _).trace m e he
    rw [hread] at hreads
    exact hreads

theorem considers_readAll (h : ∀ s ∈ sensors, s.Gentle) (before : Temperatures) :
    (readAll sensors before).Considers := by
  induction sensors generalizing before with
  | nil => exact .pure _
  | cons s rest ih =>
    obtain ⟨hs, hrest⟩ := List.forall_mem_cons.1 h
    have hread : (s.readOnto before).Considers := hs.considers_read.bind fun _ => .pure _
    refine hread.bind fun first => ?_
    split
    · exact .pure _
    · exact (ih hrest _).bind fun _ => .pure _

end Sensor

theorem Config.gives_gentle (built : List Sensor) (specs : List SensorSpec)
    (h : ∀ s ∈ built, s.Gentle) :
    Gives (buildSensorsAfter true built specs) fun sensors => ∀ s ∈ sensors, s.Gentle := by
  induction specs generalizing built with
  | nil => exact gives_pure h
  | cons spec specs ih =>
    refine (buildSensor_faithful true spec).elseFirst.bind fun s hs => ih _ ?_
    exact List.forall_mem_append.2 ⟨h, List.forall_mem_singleton.2 hs.doNotDisturb⟩

namespace Session

variable {sensors : List Sensor}

theorem considers_showCycle (h : ∀ s ∈ sensors, s.Gentle) (cycle : Nat)
    (temperatures : Temperatures) : (showCycle sensors cycle temperatures).Considers := by
  have hread : (readCycle sensors temperatures).Considers :=
    (Sensor.considers_readAll h _).bind fun _ => .pure _
  have hprint : ∀ line, (Program.print line).Asks [.print] := fun _ => every_request (.head _)
  have hlog : ∀ severity message, (Program.log severity message).Asks [.log] :=
    fun _ _ => every_request (.head _)
  refine hread.bind fun (_, outcome) => ?_
  cases outcome with
  | ok a => exact Considers.bind (.of_asks (hprint _) (by decide)) fun _ => .pure _
  | error f => exact Considers.bind (.of_asks (hlog _ _) (by decide)) fun _ => .pure _

theorem considers_runCycles (h : ∀ s ∈ sensors, s.Gentle) (pollInterval : Duration)
    (cycles? : Option Nat) (left cycle : Nat) (temperatures : Temperatures) :
    (runCycles sensors pollInterval cycles? left cycle temperatures).run.Considers := by
  induction left generalizing cycle temperatures with
  | zero => exact .pure _
  | succ left ih =>
    refine Considers.run_bind ((considers_showCycle h cycle temperatures).map _) fun _ => ?_
    split
    · exact .pure _
    · refine Considers.run_bind (.of_asks (asks_sleepWhileRunning pollInterval) (by decide))
        fun runs => ?_
      split
      · exact ih _ _
      · exact .pure _

theorem considers_withSensors (h : ∀ s ∈ sensors, s.Gentle) (patience : Nat)
    (pollInterval : Duration) (cycles : Nat) :
    (withSensors patience sensors pollInterval cycles).run.Considers := by
  have hend : ∀ ended, (letGo sensors ended).Considers := fun ended =>
    .of_asks (asks_letGo sensors ended) (by decide)
  unfold withSensors
  rw [ExceptT.run_mk]
  refine Considers.bind (.of_asks every_log_driver (by decide)) fun _ => ?_
  refine Considers.bind ?_ fun ended => (hend ended).bind fun _ => .pure _
  split
  · exact considers_runCycles h pollInterval none patience 0 .empty
  · exact considers_runCycles h pollInterval (some cycles) cycles 0 .empty

/-- A read of a disk leaves it alone while it sleeps, if it is not to be disturbed, and is all
    or nothing. A session whose configuration says that disks are not to be disturbed reads
    the data of a disk only right after that disk has said that it is awake. -/
theorem disks_left_alone (s : DiskSensor) (before : Temperatures) (patience : Nat) (path : String)
    (cycles : Nat) (m : Machine) :
    ((Sensor.disk s).readOnto before).wp (fun r _ es => r.1 = .disk s ∧
      s.ReadsGently m before (es.map Entry.request) r.2.1 r.2.2) m ∧
    ((∀ config, (load path).run.value m = .ok config → config.dndDisk = true) →
      Considerate ((runSensors patience path cycles).run.trace m)) := by
  refine ⟨s.readOnto_spec before m, fun hdnd => ?_⟩
  have hload : (load path).run.Considers :=
    .of_asks (Asks.attempting (Config.asks_load path)) (by decide)
  refine Considerate.run_bind (hload m) fun config hconfig => ?_
  intro m'
  have hbuild : (attempting "Failed to set up sensors" config.buildSensors).run.Considers :=
    .of_asks (Asks.attempting config.asks_buildSensors) (by decide)
  refine Considerate.run_bind (hbuild m') fun sensors hsensors => ?_
  have hgentle : Gives config.buildSensors fun sensors => ∀ s ∈ sensors, s.Gentle := by
    rw [Config.buildSensors, hdnd config hconfig]
    exact Config.gives_gentle [] config.sensors (List.forall_mem_nil _)
  exact considers_withSensors (Gives.attempting hgentle m' sensors hsensors) patience
    config.pollInterval cycles

/-- A configuration with two disks that are not to be disturbed. -/
def considerateText : String :=
  "\x7b\"fan\":\x7b\"tp_fan\":\"/proc/acpi/ibm/fan\"\x7d,\"dnd_disk\":true," ++
  "\"sensors\":[\x7b\"atasmart\":\"/dev/sda\"\x7d,\x7b\"atasmart\":\"/dev/sdb\"\x7d]\x7d"

/-- A machine with two disks. The first one sleeps for the first 2 seconds, and the second one
    from then on. -/
def drowsy : Machine where
  files := ⟨[("/etc/fanhal/config.json", considerateText.toUTF8)]⟩
  libraries := ⟨[("libatasmart.so.4", { api := .smart })]⟩
  disks := ⟨[("/dev/sda", { awake := false, mkelvin := 310150 }),
    ("/dev/sdb", { mkelvin := 315150 })]⟩
  pending := [(⟨1002000000000⟩, .disk "/dev/sda" { mkelvin := 310150 }),
    (⟨1002000000000⟩, .disk "/dev/sdb" { awake := false, mkelvin := 315150 })]

/-- The first disk as a sensor that is not to be disturbed, and with a correction. -/
def sleeper : DiskSensor where
  base := { path := "/dev/sda", count := 1, corrections := [5] }
  disk := ⟨"/dev/sda", ⟨"libatasmart.so.4"⟩⟩
  doNotDisturb := true

/-- The disk that sleeps counts as 0, whatever its correction is. In each cycle of a session
    only the other disk is measured. -/
theorem drowsy_left_alone :
    sleeper.ReadsGently drowsy ⟨[42]⟩ [.diskAwake "/dev/sda"] ⟨[42, 0]⟩ (.ok ()) ∧
    (∀ config, (load "/etc/fanhal/config.json").run.value drowsy = .ok config →
      config.dndDisk = true) ∧
    Considerate ((runSensors 2 "/etc/fanhal/config.json" 2).run.trace drowsy) ∧
    printedIn ((runSensors 2 "/etc/fanhal/config.json" 2).run.trace drowsy) =
      ["[0,42]", "[37,0]"] ∧
    ((runSensors 2 "/etc/fanhal/config.json" 2).run.trace drowsy).filterMap Entry.awake? =
      ["/dev/sdb", "/dev/sda"] := by
  have hdnd : ∀ config, (load "/etc/fanhal/config.json").run.value drowsy = .ok config →
      config.dndDisk = true := by
    intro config hconfig
    have hloaded : ((load "/etc/fanhal/config.json").run.value drowsy).toOption.map (·.dndDisk) =
        some true := by decide +kernel
    rw [hconfig] at hloaded
    exact Option.some.inj hloaded
  obtain ⟨⟨-, hread⟩, hsession⟩ :=
    disks_left_alone sleeper ⟨[42]⟩ 2 "/etc/fanhal/config.json" 2 drowsy
  exact ⟨hread, hdnd, hsession hdnd, by decide +kernel⟩

end Session

end Cooling
