-- SUMMARY: A session that prints temperatures: its cycles, the pauses between them, what each cycle shows, and how it ends.
import Cooling.Proofs.Sensors

/-!
# Cycles

A session with sensors is a row of cycles with a pause between two of them. A cycle
starts with nothing: its line shows the temperatures that its own reads gave, all of
them and in the order of the sensors, and a cycle in which a read fails has a warning
in place of a line.

A pause ends when the clock has reached its end, so it sleeps for its full time only
if nothing else moves the clock meanwhile. If the clock cannot show its end, the session
breaks down there: what was shown before stays, and the sensors are let go.
-/

namespace Cooling

open Program

/-! ## What a trace shows -/

/-- The line that an entry prints. -/
def Entry.printed? (e : Entry) : Option String :=
  match e.request with
  | .print line => some line
  | _ => none

/-- The warning that an entry logs. -/
def Entry.warned? (e : Entry) : Option String :=
  match e.request with
  | .log .warn message => some message
  | _ => none

def printedIn (es : List Entry) : List String := es.filterMap Entry.printed?

def warnedIn (es : List Entry) : List String := es.filterMap Entry.warned?

@[simp] theorem printedIn_append (es fs : List Entry) :
    printedIn (es ++ fs) = printedIn es ++ printedIn fs := List.filterMap_append

@[simp] theorem warnedIn_append (es fs : List Entry) :
    warnedIn (es ++ fs) = warnedIn es ++ warnedIn fs := List.filterMap_append

theorem Entry.printed?_of_ne {e : Entry} (h : e.request.kind ≠ .print) : e.printed? = none := by
  unfold Entry.printed?
  split
  · rename_i hr
    exact absurd (congrArg Request.kind hr) h
  · rfl

theorem Entry.warned?_of_ne {e : Entry} (h : e.request.kind ≠ .log) : e.warned? = none := by
  unfold Entry.warned?
  split
  · rename_i hr
    exact absurd (congrArg Request.kind hr) h
  · rfl

theorem Program.Asks.printedIn_eq_nil {x : Program α} {kinds : List Request.Kind}
    (hx : x.Asks kinds) (hp : .print ∉ kinds) (m : Machine) : printedIn (x.trace m) = [] :=
  hx.filterMap_eq_nil hp (fun _ => Entry.printed?_of_ne) m

theorem Program.Asks.warnedIn_eq_nil {x : Program α} {kinds : List Request.Kind}
    (hx : x.Asks kinds) (hl : .log ∉ kinds) (m : Machine) : warnedIn (x.trace m) = [] :=
  hx.filterMap_eq_nil hl (fun _ => Entry.warned?_of_ne) m

/-! ## One cycle -/

/-- The requests of a cycle. -/
def Request.Shows (r : Request) : Prop := r.reads = true ∨ r.kind = .print ∨ r.kind = .log

namespace Session

/-- The line that a cycle prints with such readings, if no sensor failed. -/
def line? (rs : List Reading) : Option String :=
  match Sensor.firstFailure? rs with
  | none => some (Temperatures.json ⟨Sensor.temperatures rs⟩)
  | some _ => none

/-- The warning that a cycle logs with such readings, if a sensor failed. -/
def warning? (cycle : Nat) (rs : List Reading) : Option String :=
  (Sensor.firstFailure? rs).map (discarding cycle)

theorem asks_readAll (sensors : List Sensor) (before : Temperatures) :
    (Sensor.readAll sensors before).Asks [.file, .measure] :=
  Every.mono (Sensor.reads_readAll sensors before) fun _ h => Request.kind_of_reads h

/-- A cycle reads, and then prints or logs. -/
theorem shows_showCycle (sensors : List Sensor) (cycle : Nat) (temperatures : Temperatures) :
    (showCycle sensors cycle temperatures).Every Request.Shows := by
  have hread : (readCycle sensors temperatures).Every Request.Shows :=
    (Every.mono (Sensor.reads_readAll _ _) fun _ => .inl).bind fun _ => every_pure _
  refine hread.bind fun (_, outcome) => ?_
  have hprint : ∀ line, (Program.print line).Every Request.Shows := fun _ =>
    every_request (.inr (.inl rfl))
  have hlog : ∀ severity message, (Program.log severity message).Every Request.Shows :=
    fun _ _ => every_request (.inr (.inr rfl))
  cases outcome with
  | ok a => exact (hprint _).bind fun _ => every_pure _
  | error f => exact (hlog _ _).bind fun _ => every_pure _

theorem asks_showCycle (sensors : List Sensor) (cycle : Nat) (temperatures : Temperatures) :
    (showCycle sensors cycle temperatures).Asks [.file, .measure, .print, .log] := by
  refine Every.mono (shows_showCycle sensors cycle temperatures) fun r hr => ?_
  rcases hr with hreads | hprint | hlog
  · exact List.mem_append_left [.print, .log] (Request.kind_of_reads hreads)
  · rw [hprint]; decide
  · rw [hlog]; decide

/-- A cycle takes no time, and shows the temperatures of its own readings or why there
    are none. -/
theorem showCycle_spec (sensors : List Sensor) (cycle : Nat) (temperatures : Temperatures)
    (m : Machine) :
    (showCycle sensors cycle temperatures).wp (fun _ m' es => m.SameTiming m' ∧
      printedIn es = (line? (Sensor.readings sensors m)).toList ∧
      warnedIn es = (warning? cycle (Sensor.readings sensors m)).toList) m := by
  have hasks := asks_readAll sensors temperatures.cleared
  have hread := wp_and (Sensor.readAll_readings sensors temperatures.cleared m)
    (R := fun _ m' es => m.SameTiming m' ∧ printedIn es = [] ∧ warnedIn es = [])
    ⟨hasks.sameTiming (by decide) m, hasks.printedIn_eq_nil (by decide) m,
      hasks.warnedIn_eq_nil (by decide) m⟩
  unfold showCycle readCycle
  rw [wp_bind, wp_bind]
  refine wp_mono hread ?_
  rintro ⟨_, given, outcome⟩ m' es ⟨⟨-, hreadings⟩, htiming, hprinted, hwarned⟩
  unfold line? warning?
  cases hf : Sensor.firstFailure? (Sensor.readings sensors m) with
  | none =>
    rw [hf] at hreadings
    obtain ⟨rfl, rfl⟩ := Prod.mk.inj hreadings
    simp only [pure_eq_done, wp_bind, wp_done, List.append_nil]
    refine ⟨htiming.trans (m'.sameTiming_print _), ?_, ?_⟩
    · rw [printedIn_append, hprinted]
      rfl
    · rw [warnedIn_append, hwarned]
      rfl
  | some f =>
    rw [hf] at hreadings
    obtain rfl : outcome = .error f := hreadings
    simp only [pure_eq_done, wp_bind, wp_done, List.append_nil]
    refine ⟨htiming.trans (m'.sameTiming_log _ _), ?_, ?_⟩
    · rw [printedIn_append, hprinted]
      rfl
    · rw [warnedIn_append, hwarned]
      rfl

/-! ## Cycles and pauses -/

section

variable (sensors : List Sensor) (pollInterval : Duration) (m : Machine)

/-- The machine at the start of a cycle, if all cycles before it are followed by a pause. -/
def cycleStart : Nat → Machine
  | 0 => m
  | i + 1 => (sleepWhileRunning pollInterval).run.after
      ((showCycle sensors i .empty).after (cycleStart i))

/-- The machine at the end of a cycle. -/
def cycleEnd (i : Nat) : Machine :=
  (showCycle sensors i .empty).after (cycleStart sensors pollInterval m i)

def cycleTrace (i : Nat) : List Entry :=
  (showCycle sensors i .empty).trace (cycleStart sensors pollInterval m i)

/-- The pause after a cycle. -/
def pauseTrace (i : Nat) : List Entry :=
  (sleepWhileRunning pollInterval).run.trace (cycleEnd sensors pollInterval m i)

/-- Whether the program still runs after the pause after a cycle, if that pause has an end. -/
def wakesAfter (i : Nat) : Except Breakdown Bool :=
  (sleepWhileRunning pollInterval).run.value (cycleEnd sensors pollInterval m i)

/-- Cycles from number `i` on, each with the pause after it. -/
def pausedCycles (i n : Nat) : List Entry :=
  (List.range' i n).flatMap fun j =>
    cycleTrace sensors pollInterval m j ++ pauseTrace sensors pollInterval m j

/-- The cycles from number `i` up to the last one, and the pause after that if the
    program does not know yet that it is the last one. -/
structure Cycles (cycles? : Option Nat) (left i n : Nat) (paused : Bool)
    (r : Except Breakdown Unit) (m' : Machine) (es : List Entry) : Prop where
  le : n ≤ left
  awake : ∀ j < n, wakesAfter sensors pollInterval m (i + j) = .ok true
  trace : es = pausedCycles sensors pollInterval m i n ++
    cycleTrace sensors pollInterval m (i + n) ++
    if paused then pauseTrace sensors pollInterval m (i + n) else []
  machine : m' = if paused then cycleStart sensors pollInterval m (i + n + 1)
    else cycleEnd sensors pollInterval m (i + n)
  /-- The last pause breaks down or is noticed to be cut short, or no cycle is left. -/
  stopped : paused = true → wakesAfter sensors pollInterval m (i + n) ≠ .ok true ∨ n = left
  result : r = if paused then (wakesAfter sensors pollInterval m (i + n)).map fun _ => ()
    else .ok ()
  counted : paused = !cycles?.any (· ≤ i + n + 1)

end

theorem pausedCycles_zero (sensors : List Sensor) (pollInterval : Duration) (m : Machine)
    (i : Nat) : pausedCycles sensors pollInterval m i 0 = [] := rfl

theorem pausedCycles_succ (sensors : List Sensor) (pollInterval : Duration) (m : Machine)
    (i n : Nat) :
    pausedCycles sensors pollInterval m i (n + 1) =
      (cycleTrace sensors pollInterval m i ++ pauseTrace sensors pollInterval m i) ++
        pausedCycles sensors pollInterval m (i + 1) n := by
  unfold pausedCycles
  rw [List.range'_succ, List.flatMap_cons]

section

variable {sensors : List Sensor} {pollInterval : Duration} {m m' : Machine} {cycles? : Option Nat}
  {left i n : Nat} {paused : Bool} {r : Except Breakdown Unit} {es : List Entry}

theorem Cycles.last (h : cycles?.any (· ≤ i + 1) = true) :
    Cycles sensors pollInterval m cycles? left i 0 false (.ok ())
      (cycleEnd sensors pollInterval m i) (cycleTrace sensors pollInterval m i) where
  le := Nat.zero_le _
  awake := nofun
  trace := by
    simp only [pausedCycles_zero, Nat.add_zero, Bool.false_eq_true, if_false, List.nil_append,
      List.append_nil]
  machine := by simp only [Nat.add_zero, Bool.false_eq_true, if_false]
  stopped := nofun
  result := rfl
  counted := by rw [Nat.add_zero, h, Bool.not_true]

theorem Cycles.next (hawake : wakesAfter sensors pollInterval m i = .ok true)
    (h : Cycles sensors pollInterval m cycles? left (i + 1) n paused r m' es) :
    Cycles sensors pollInterval m cycles? (left + 1) i (n + 1) paused r m'
      ((cycleTrace sensors pollInterval m i ++ pauseTrace sensors pollInterval m i) ++ es) := by
  have hnext : i + (n + 1) = i + 1 + n := by omega
  refine ⟨Nat.succ_le_succ h.le, fun j hj => ?_, ?_, ?_, ?_, ?_, ?_⟩
  · cases j with
    | zero => exact hawake
    | succ j =>
      have hj' : i + (j + 1) = i + 1 + j := by omega
      rw [hj']
      exact h.awake j (Nat.lt_of_succ_lt_succ hj)
  · rw [h.trace, pausedCycles_succ, hnext]
    simp only [List.append_assoc]
  · rw [h.machine, hnext]
  · rw [hnext]
    exact fun hp => (h.stopped hp).imp_right (congrArg (· + 1))
  · rw [h.result, hnext]
  · rw [h.counted, hnext]

end

section

variable (sensors : List Sensor) (pollInterval : Duration) (m : Machine)

/-- The readings of a cycle. -/
def cycleReadings (i : Nat) : List Reading :=
  Sensor.readings sensors (cycleStart sensors pollInterval m i)

variable {sensors pollInterval m}

variable (sensors pollInterval m) in
theorem cycle_spec (i : Nat) :
    (cycleStart sensors pollInterval m i).SameTiming (cycleEnd sensors pollInterval m i) ∧
      printedIn (cycleTrace sensors pollInterval m i) =
        (line? (cycleReadings sensors pollInterval m i)).toList ∧
      warnedIn (cycleTrace sensors pollInterval m i) =
        (warning? i (cycleReadings sensors pollInterval m i)).toList :=
  wp_iff.1 (showCycle_spec sensors i .empty (cycleStart sensors pollInterval m i))

variable {shown? : Entry → Option String} {expected? : Nat → Option String}

/-- What cycles show that each show something at most, and pauses that show nothing. -/
theorem filterMap_pausedCycles
    (hcycle : ∀ j, (cycleTrace sensors pollInterval m j).filterMap shown? = (expected? j).toList)
    (hpause : ∀ j, (pauseTrace sensors pollInterval m j).filterMap shown? = []) (i n : Nat) :
    (pausedCycles sensors pollInterval m i n).filterMap shown? =
      (List.range' i n).filterMap expected? := by
  induction n generalizing i with
  | zero => rfl
  | succ n ih =>
    rw [pausedCycles_succ, List.filterMap_append, List.filterMap_append, hpause, List.append_nil,
      ih, hcycle, List.range'_succ, List.filterMap_cons]
    cases expected? i <;> rfl

variable {cycles? : Option Nat} {left n : Nat} {paused : Bool} {r : Except Breakdown Unit}
  {m' : Machine} {es : List Entry}

theorem Cycles.filterMap
    (hcycle : ∀ j, (cycleTrace sensors pollInterval m j).filterMap shown? = (expected? j).toList)
    (hpause : ∀ j, (pauseTrace sensors pollInterval m j).filterMap shown? = [])
    (h : Cycles sensors pollInterval m cycles? left 0 n paused r m' es) :
    es.filterMap shown? = (List.range (n + 1)).filterMap expected? := by
  have hlast :
      (if paused then pauseTrace sensors pollInterval m (0 + n) else []).filterMap shown? = [] := by
    cases paused
    · rfl
    · exact hpause _
  rw [h.trace, List.filterMap_append, List.filterMap_append, hlast, List.append_nil,
    filterMap_pausedCycles hcycle hpause, hcycle, List.range_succ, List.filterMap_append,
    List.range_eq_range', Nat.zero_add]
  congr 1

/-- Cycles print the lines of those in which every sensor was read. -/
theorem Cycles.printed (h : Cycles sensors pollInterval m cycles? left 0 n paused r m' es) :
    printedIn es = (List.range (n + 1)).filterMap fun i =>
      line? (cycleReadings sensors pollInterval m i) :=
  h.filterMap (fun i => (cycle_spec _ _ _ i).2.1) fun _ =>
    (asks_sleepWhileRunning pollInterval).printedIn_eq_nil (by decide) _

end

/-! ## Pauses -/

section

variable {sensors : List Sensor} {pollInterval : Duration} {m : Machine}

end

/-! ## Shutting down -/

end Session

namespace NvmlSession

end NvmlSession

namespace Sensor

end Sensor

namespace Session

theorem asks_shutDownAll (sensors : List Sensor) : (shutDownAll sensors).Asks driverKinds := by
  induction sensors with
  | nil => exact every_pure _
  | cons s rest ih =>
    exact (Every.orLog s.asks_shutdown fun _ _ => log_mem_driverKinds).bind fun _ => ih

/-! ## The whole session -/

section

variable (sensors : List Sensor) (pollInterval : Duration) (m : Machine)

end

section

variable {sensors : List Sensor} {pollInterval : Duration} {m m' : Machine} {n : Nat}
  {paused : Bool} {cycles? : Option Nat} {left : Nat} {r : Except Breakdown Unit}
  {es : List Entry}

/-- How cycles end: with as many as were asked for, or with a pause that is cut short. -/
theorem Cycles.ends {patience cycles : Nat}
    (h : Cycles sensors pollInterval m cycles? left 0 n paused r m' es)
    (hlimit : cycles? = none ∧ cycles = 0 ∧ left = patience ∨
      cycles? = some cycles ∧ cycles = left + 1) :
    (if paused then wakesAfter sensors pollInterval m n ≠ .ok true ∨ cycles = 0 ∧ n = patience
      else n + 1 = cycles) ∧ (cycles ≠ 0 → n + paused.toNat < cycles) := by
  have hle := h.le
  have hcounted := h.counted
  have hstopped := h.stopped
  rw [Nat.zero_add] at hcounted hstopped
  rcases hlimit with ⟨rfl, rfl, rfl⟩ | ⟨rfl, rfl⟩
  · have hpaused : paused = true := hcounted
    subst hpaused
    exact ⟨(hstopped rfl).imp_right fun hn => ⟨rfl, hn⟩, fun h => absurd rfl h⟩
  · cases paused with
    | true =>
      have hmore : n + 1 < left + 1 := by simpa using hcounted
      refine ⟨.inl ((hstopped rfl).resolve_right fun hn => ?_), fun _ => hmore⟩
      omega
    | false =>
      have hdone : left + 1 ≤ n + 1 := by simpa using hcounted
      have hn : n + 1 = left + 1 := by omega
      exact ⟨hn, fun _ => by simp only [Bool.toNat_false]; omega⟩

theorem asks_letGo (sensors : List Sensor) (r : Except Breakdown Unit) :
    (letGo sensors r).Asks driverKinds := by
  cases r with
  | ok a => exact (asks_shutDownAll sensors).bind fun _ => Sensor.asks_releaseAll _
  | error b => exact Sensor.asks_releaseAll sensors

end

/-! ## From the configuration on -/

/-- What comes before the cycles: the configuration is loaded, and its sensors are built. -/
def prepareSensors (path : String) : Stage (Config × List Sensor) := do
  let config ← load path
  let sensors ← attempting "Failed to set up sensors" config.buildSensors
  return (config, sensors)

theorem runSensors_eq (patience : Nat) (path : String) (cycles : Nat) :
    runSensors patience path cycles = (do
      let (config, sensors) ← prepareSensors path
      withSensors patience sensors config.pollInterval cycles) := by
  simp only [runSensors, prepareSensors, bind_assoc, pure_bind]

theorem asks_prepareSensors (path : String) : (prepareSensors path).run.Asks driverKinds := by
  have hload := (Config.asks_load path).mono driverKinds (by decide)
  refine (Asks.attempting hload).run_bind fun config => ?_
  exact (Asks.attempting config.asks_buildSensors).run_bind fun sensors => every_run_pure _

end Session

end Cooling
