-- SUMMARY: What sensors ask for when they are built, read and let go, and how many temperatures a read gives.
import Mathlib.Data.List.Forall2
import Cooling.Proofs.Prepare

/-!
# Sensors

A sensor that was built is one of the kind and with the path that the configuration
says, and it keeps its number of temperatures. A read that does not fail gives just
as many. It asks for nothing but data: it neither logs nor prints, and it takes
nothing of a vendor library and gives nothing back.
-/

namespace Cooling

open Program

/-! ## What building and letting go asks for -/

/-- The kinds of requests with which sensors are built. -/
def driverKinds : List Request.Kind := [.file, .log, .vendor]

theorem log_mem_driverKinds : .log ∈ driverKinds := by decide

theorem vendor_mem_driverKinds : .vendor ∈ driverKinds := by decide

theorem every_log_driver {severity : Severity} {message : String} :
    (Program.log severity message).Asks driverKinds :=
  every_request (P := (·.kind ∈ driverKinds)) log_mem_driverKinds

theorem every_vendor_driver {r : Request} (h : r.kind = .vendor) :
    (request r).Asks driverKinds :=
  every_request (P := (·.kind ∈ driverKinds)) (h ▸ vendor_mem_driverKinds)

variable {P : Request → Prop}

namespace Library

theorem asks_load (name : String) : (load name).run.Asks driverKinds := by
  unfold load
  refine Every.run_guard ?_
  refine (Every.run_ofProgram (every_vendor_driver rfl)).run_bind fun _ => ?_
  exact (Every.run_lift every_log_driver).run_bind fun _ => every_run_pure _

theorem asks_loadFirst (failed : Failure) (names : List String) :
    (loadFirst failed names).run.Asks driverKinds := by
  induction names generalizing failed with
  | nil => exact every_run_throw _
  | cons name names ih =>
    refine Every.bind (asks_load name) fun r => ?_
    cases r with
    | ok library => exact every_pure _
    | error f => exact ih f

theorem asks_loadAny (names : List String) : (loadAny names).run.Asks driverKinds :=
  asks_loadFirst _ _

theorem every_exports {library : Library} (hsymbol : ∀ symbol, P (.hasSymbol library.name symbol))
    (hlog : ∀ severity message, P (.log severity message)) (symbol : String) :
    (library.exports symbol).Every P := by
  unfold exports
  split
  · exact every_pure _
  · refine (every_request (hsymbol symbol)).bind fun found => ?_
    split
    · exact every_pure _
    · exact (every_request (hlog _ _)).bind fun _ => every_pure _

theorem every_requireAll {library : Library}
    (hsymbol : ∀ symbol, P (.hasSymbol library.name symbol))
    (hlog : ∀ severity message, P (.log severity message)) (missing : String → Failure)
    (symbols : List String) : (library.requireAll missing symbols).run.Every P := by
  induction symbols with
  | nil => exact every_run_pure _
  | cons symbol symbols ih =>
    refine (Every.run_lift (every_exports hsymbol hlog symbol)).run_bind fun found => ?_
    split
    · exact ih
    · exact every_run_throw _

theorem asks_requireAll (library : Library) (missing : String → Failure) (symbols : List String) :
    (library.requireAll missing symbols).run.Asks driverKinds :=
  every_requireAll (fun _ => vendor_mem_driverKinds) (fun _ _ => log_mem_driverKinds) _ _

theorem asks_unload (library : Library) : library.unload.Asks driverKinds :=
  (every_vendor_driver rfl).bind fun _ => every_log_driver

end Library

namespace SmartDisk

theorem asks_acquireIn (library : Library) (path : String) :
    (acquireIn library path).run.Asks driverKinds := by
  refine (library.asks_requireAll _ _).run_bind fun _ => Every.run_guard ?_
  refine (Every.run_lift (every_vendor_driver rfl)).run_bind fun reply => Every.run_guard ?_
  exact (Every.run_lift every_log_driver).run_bind fun _ => every_run_pure _

theorem asks_acquire (path : String) : (acquire path).run.Asks driverKinds :=
  (Library.asks_loadAny _).run_bind fun library =>
    (asks_acquireIn library path).elseFirst library.asks_unload

theorem asks_close (disk : SmartDisk) : disk.close.Asks driverKinds :=
  (every_vendor_driver rfl).bind fun _ => every_log_driver.bind fun _ => disk.library.asks_unload

end SmartDisk

namespace NvmlSession

theorem asks_startIn (library : Library) : (startIn library).run.Asks driverKinds := by
  refine (library.asks_requireAll _ _).run_bind fun _ => ?_
  refine (Every.run_lift (every_vendor_driver rfl)).run_bind fun code => Every.run_guard ?_
  exact (Every.run_lift every_log_driver).run_bind fun _ => every_run_pure _

theorem asks_start : start.run.Asks driverKinds :=
  (Every.run_ofProgram (Library.asks_loadAny _)).run_bind fun library =>
    (asks_startIn library).elseFirst library.asks_unload

theorem asks_shutdown (session : NvmlSession) : session.shutdown.run.Asks driverKinds := by
  unfold shutdown
  split
  · refine (Every.run_lift (every_vendor_driver rfl)).run_bind fun code => Every.run_guard ?_
    exact Every.run_lift every_log_driver
  · exact every_run_pure _

theorem asks_drop (session : NvmlSession) : session.drop.Asks driverKinds :=
  (Every.orLog session.asks_shutdown fun _ _ => log_mem_driverKinds).bind fun _ =>
    session.library.asks_unload

theorem every_ensureInitialized (session : NvmlSession) :
    session.ensureInitialized.run.Every P := by
  unfold ensureInitialized
  split
  · exact every_run_pure _
  · exact every_run_throw _

theorem every_device {bus : String} (h : P (.nvmlHandle bus)) (session : NvmlSession) :
    (session.device bus).run.Every P := by
  refine session.every_ensureInitialized.run_bind fun _ => Every.run_guard ?_
  refine (Every.run_lift (every_request h)).run_bind fun code => Every.run_guard ?_
  exact every_run_pure _

theorem every_deviceName {device : NvmlDevice} (h : P (.nvmlName device.bus nameCapacity))
    (session : NvmlSession) : (session.deviceName device).run.Every P := by
  refine session.every_ensureInitialized.run_bind fun _ => ?_
  refine (Every.run_lift (every_request h)).run_bind fun reply => Every.run_guard ?_
  exact every_run_pure _

end NvmlSession

theorem SensorBase.asks_find (path : String) : (find path).run.Asks [.file] :=
  (Every.run_ofProgram (ControlFile.asks_check path)).run_bind fun _ => every_run_pure _

theorem SensorBase.every_correct (hlog : ∀ severity message, P (.log severity message))
    (base : SensorBase) (corrections : List Int) : (base.correct corrections).run.Every P := by
  unfold correct
  refine Every.run_guard ?_
  split
  · exact (Every.run_lift (every_request (hlog _ _))).run_bind fun _ => every_run_pure _
  · exact every_run_pure _

theorem ThermalSensor.asks_find (path : String) : (find path).run.Asks [.file, .log] := by
  have hbase := (SensorBase.asks_find path).mono [.file, .log] (by decide)
  have hread := (ControlFile.asks_read path).mono [.file, .log] (by decide)
  refine hbase.run_bind fun base => (Every.run_ofProgram hread).run_bind fun contents => ?_
  refine Every.run_bind (every_pure _) fun count => ?_
  have hlog : Request.Kind.log ∈ [Request.Kind.file, .log] := by decide
  exact (Every.run_lift (every_request hlog)).run_bind fun _ => every_run_pure _

theorem GpuSensor.every_announce {device : NvmlDevice}
    (hname : P (.nvmlName device.bus NvmlSession.nameCapacity))
    (hlog : ∀ severity message, P (.log severity message)) (session : NvmlSession) :
    (announce session device).Every P := by
  refine (session.every_deviceName hname).bind fun r => ?_
  cases r with
  | ok name => exact every_request (hlog _ _)
  | error f => exact every_request (hlog _ _)

theorem GpuSensor.asks_find (bus : String) : (find bus).run.Asks driverKinds := by
  refine NvmlSession.asks_start.run_bind fun session => ?_
  have hdevice : (session.device bus).run.Asks driverKinds :=
    session.every_device vendor_mem_driverKinds
  refine (hdevice.elseFirst session.asks_drop).run_bind fun device => ?_
  have hannounce : (announce session device).Asks driverKinds :=
    every_announce vendor_mem_driverKinds (fun _ _ => log_mem_driverKinds) session
  exact (Every.run_lift hannounce).run_bind fun _ => every_run_pure _

theorem GpuSensor.asks_shutdown (sensor : GpuSensor) : sensor.shutdown.run.Asks driverKinds := by
  unfold shutdown
  split
  · exact every_run_pure _
  · rename_i session _ _
    exact session.asks_shutdown.thenAlways session.ended.asks_drop

namespace Sensor

theorem every_correct (hlog : ∀ severity message, P (.log severity message)) (s : Sensor)
    (corrections : List Int) : (s.correct corrections).run.Every P :=
  (s.base.every_correct hlog corrections).run_bind fun _ => every_run_pure _

theorem asks_shutdown (s : Sensor) : s.shutdown.run.Asks driverKinds := by
  cases s with
  | gpu s => exact s.asks_shutdown
  | _ => exact every_run_pure _

theorem asks_release (s : Sensor) : s.release.Asks driverKinds := by
  cases s with
  | disk s => exact s.disk.asks_close
  | gpu s => exact Every.orLog s.asks_shutdown fun _ _ => log_mem_driverKinds
  | _ => exact every_pure _

theorem asks_releaseAll (sensors : List Sensor) : (releaseAll sensors).Asks driverKinds := by
  induction sensors with
  | nil => exact every_pure _
  | cons s rest ih => exact s.asks_release.bind fun _ => ih

end Sensor

namespace Config

theorem asks_findSensor (dndDisk : Bool) (spec : SensorSpec) :
    (findSensor dndDisk spec).run.Asks driverKinds := by
  unfold findSensor
  split
  · have hbase := (SensorBase.asks_find spec.path).mono driverKinds (by decide)
    exact (hbase.run_bind fun _ => every_run_pure _).run_map _
  · exact ((ThermalSensor.asks_find spec.path).mono driverKinds (by decide)).run_map _
  · exact ((SmartDisk.asks_acquire _).run_bind fun _ => every_run_pure _).run_bind fun _ =>
      every_run_pure _
  · exact (GpuSensor.asks_find _).run_map _

theorem asks_buildSensor (dndDisk : Bool) (spec : SensorSpec) :
    (buildSensor dndDisk spec).run.Asks driverKinds := by
  refine (asks_findSensor dndDisk spec).run_bind fun sensor => ?_
  split
  · exact every_run_pure _
  · have hcorrect : ∀ corrections, (sensor.correct corrections).run.Asks driverKinds :=
      sensor.every_correct fun _ _ => log_mem_driverKinds
    exact (hcorrect _).elseFirst sensor.asks_release

theorem asks_buildSensorsAfter (dndDisk : Bool) (built : List Sensor) (specs : List SensorSpec) :
    (buildSensorsAfter dndDisk built specs).run.Asks driverKinds := by
  induction specs generalizing built with
  | nil => exact every_run_pure _
  | cons spec specs ih =>
    refine ((asks_buildSensor dndDisk spec).elseFirst (Sensor.asks_releaseAll built)).run_bind ?_
    exact fun sensor => ih _

theorem asks_buildSensors (c : Config) : c.buildSensors.run.Asks driverKinds :=
  asks_buildSensorsAfter _ _ _

end Config

/-! ## What reading asks for -/

namespace SmartDisk

variable {disk : SmartDisk}

theorem every_sleeping (h : P (.diskAwake disk.path)) : disk.sleeping.run.Every P := by
  refine (Every.run_lift (every_request h)).run_bind fun reply => Every.run_guard ?_
  exact every_run_pure _

theorem every_refresh (h : P (.diskRead disk.path)) : disk.refresh.run.Every P := by
  refine (Every.run_lift (every_request h)).run_bind fun reply => ?_
  split
  · exact every_run_throw _
  · exact every_run_pure _

theorem every_mkelvin (h : P (.diskTemperature disk.path)) : disk.mkelvin.run.Every P := by
  refine (Every.run_lift (every_request h)).run_bind fun reply => Every.run_guard ?_
  exact every_run_pure _

end SmartDisk

namespace Sensor

/-- The requests with which a sensor is read. -/
def Reads : Sensor → Request → Prop
  | hwmon s, .readFile path => path = s.base.path
  | thermal s, .readFile path => path = s.base.path
  | disk s, .diskAwake path => path = s.disk.path
  | disk s, .diskRead path => path = s.disk.path
  | disk s, .diskTemperature path => path = s.disk.path
  | gpu s, .nvmlTemperature bus => ∃ session device,
      s.backend? = some (session, device) ∧ session.initialized = true ∧ device.bus = bus
  | _, _ => False

/-- A disk that may be disturbed is asked whether it sleeps only if that matters. -/
theorem disk_reads (sensor : DiskSensor) : sensor.read.Every (disk sensor).Reads := by
  have hresting : sensor.resting.run.Every (disk sensor).Reads := by
    unfold DiskSensor.resting
    split
    · exact SmartDisk.every_sleeping rfl
    · exact every_run_pure _
  have hmeasure : sensor.measure.run.Every (disk sensor).Reads := by
    have hrefresh : sensor.disk.refresh.run.Every (disk sensor).Reads :=
      SmartDisk.every_refresh rfl
    have hmkelvin : sensor.disk.mkelvin.run.Every (disk sensor).Reads :=
      SmartDisk.every_mkelvin rfl
    refine hrefresh.run_bind fun _ => hmkelvin.run_bind fun mkelvin => ?_
    split
    · exact every_run_throw _
    · exact every_pure _
  refine Every.map _ (hresting.run_bind fun rests => ?_)
  split
  · exact every_run_pure _
  · exact hmeasure

/-- The management library is asked for a temperature only in a session. -/
theorem gpu_reads (sensor : GpuSensor) : sensor.read.Every (gpu sensor).Reads := by
  refine Every.map _ ?_
  unfold GpuSensor.measure
  split
  · exact every_run_throw _
  · rename_i session device hbackend
    have htemperature : (session.temperature device).run.Every (gpu sensor).Reads := by
      unfold NvmlSession.temperature NvmlSession.ensureInitialized
      split
      · rename_i hsession
        refine (Every.run_lift (every_request ?_)).run_bind fun reply => Every.run_guard ?_
        · exact ⟨session, device, hbackend, hsession, rfl⟩
        · exact every_run_pure _
      · exact trivial
    refine htemperature.run_bind fun t => ?_
    split
    · exact every_run_pure _
    · exact every_run_throw _

theorem reads_read (s : Sensor) : s.read.Every s.Reads := by
  cases s with
  | hwmon s =>
    refine (ControlFile.every_read (P := (hwmon s).Reads) rfl).bind fun r => ?_
    cases r <;> exact every_pure _
  | thermal s =>
    refine (ControlFile.every_readFrom (P := (thermal s).Reads) rfl _).bind fun r => ?_
    cases r <;> exact every_pure _
  | disk s => exact disk_reads s
  | gpu s => exact gpu_reads s

end Sensor

/-- The requests with which any sensor is read. -/
def Request.reads : Request → Bool
  | readFile _ | nvmlTemperature _ | diskAwake _ | diskRead _ | diskTemperature _ => true
  | _ => false

/-- A request that reads a sensor is for a file or for a measurement. -/
theorem Request.kind_of_reads {r : Request} (h : r.reads = true) :
    r.kind ∈ [Kind.file, .measure] := by
  cases r <;> first | exact .head _ | exact .tail _ (.head _) | cases h

namespace Sensor

theorem Reads.reads {s : Sensor} {r : Request} (h : s.Reads r) : r.reads = true := by
  cases s <;> cases r <;> first | rfl | exact h.elim

theorem reads_readAll (sensors : List Sensor) (before : Temperatures) :
    (readAll sensors before).Every (·.reads = true) := by
  induction sensors generalizing before with
  | nil => exact every_pure _
  | cons s rest ih =>
    have hread : (s.readOnto before).Every (·.reads = true) :=
      (Every.mono s.reads_read fun _ => Reads.reads).bind fun _ => every_pure _
    refine hread.bind fun r => ?_
    split
    · exact every_pure _
    · exact (ih _).bind fun _ => every_pure _

end Sensor

/-! ## Corrections -/

namespace SensorBase

variable {base : SensorBase}

theorem fits_withCount (h : ∀ c ∈ base.corrections, Text.fits32 c = true) (n : Nat) :
    ∀ c ∈ (base.withCount n).corrections, Text.fits32 c = true := by
  intro c hc
  rcases List.mem_append.1 hc with htake | hzero
  · exact h c (List.mem_of_mem_take htake)
  · rw [List.eq_of_mem_replicate hzero]
    rfl

/-- A corrected temperature is the sum, if that is a number of 32 bits. -/
theorem corrected_eq_ok_iff {i : Nat} {t sum : Int} : base.corrected i t = .ok sum ↔
    sum = t + base.correction i ∧ -2147483648 ≤ sum ∧ sum ≤ 2147483647 := by
  unfold corrected
  dsimp only
  split
  · rename_i hfits
    rw [Except.ok.injEq, eq_comm]
    exact ⟨fun h => ⟨h, h ▸ Text.fits32_iff.1 hfits⟩, And.left⟩
  · rename_i hfits
    refine iff_of_false nofun ?_
    rintro ⟨rfl, h⟩
    exact hfits (Text.fits32_iff.2 h)

theorem kind_of_corrected {i : Nat} {t : Int} {f : Failure}
    (h : base.corrected i t = .error f) : f.kind = .system := by
  unfold corrected at h
  dsimp only at h
  split at h
  · cases h
  · cases h
    rfl

theorem fits_correction (h : ∀ c ∈ base.corrections, Text.fits32 c = true) (i : Nat) :
    Text.fits32 (base.correction i) = true := by
  unfold correction
  cases hc : base.corrections[i]? with
  | none => rfl
  | some c => exact h c (List.mem_of_getElem? hc)

/-- A correction of 32 bits can be added to a temperature of zero. -/
theorem corrected_zero (h : ∀ c ∈ base.corrections, Text.fits32 c = true) :
    base.corrected 0 0 = .ok (base.correction 0) := by
  simp [corrected, fits_correction h 0]

end SensorBase

/-! ## Sensors that were built -/

namespace SensorBase

/-- A base for a file has a path that names one. -/
theorem find_ok (path : String) :
    Gives (find path) fun base => '\x00' ∉ path.toList ∧ base = { path } :=
  (gives_ofProgram fun _ _ h => ControlFile.check_ok h).bind fun _ hpath => gives_pure ⟨hpath, rfl⟩

theorem correct_ok (base : SensorBase) (corrections : List Int) :
    Gives (base.correct corrections) fun base' => base' = { base with corrections } := by
  unfold correct
  refine Gives.guard ?_
  split
  · exact (gives_true _).bind fun _ _ => gives_pure rfl
  · exact gives_pure rfl

end SensorBase

namespace Sensor

def kind : Sensor → SensorKind
  | hwmon _ => .hwmon
  | thermal _ => .thermal
  | disk _ => .disk
  | gpu _ => .gpu

/-- A sensor of a kind with one temperature gives one, and a GPU sensor holds a session. -/
def WellFormed : Sensor → Prop
  | hwmon s => s.base.count = 1
  | thermal _ => True
  | disk s => s.base.count = 1
  | gpu s => s.base.count = 1 ∧ ∃ session device, s.backend? = some (session, device) ∧
      session.initialized = true

/-- The sensor is what the specification names. -/
structure Built (spec : SensorSpec) (s : Sensor) : Prop where
  kind : s.kind = spec.kind
  path : s.path = spec.path
  wellFormed : s.WellFormed

/-- Setting corrections keeps what a sensor is. -/
theorem Built.correct {spec : SensorSpec} {s : Sensor} (h : Built spec s)
    (corrections : List Int) : Gives (s.correct corrections) (Built spec) := by
  refine (s.base.correct_ok corrections).bind fun base hbase => gives_pure ?_
  obtain ⟨hkind, hpath, hwell⟩ := h
  subst hbase
  cases s <;> exact ⟨hkind, hpath, hwell⟩

end Sensor

namespace NvmlSession

theorem start_ok : Gives start fun session => session.initialized = true := by
  refine (gives_true _).bind fun library _ => Gives.elseFirst ?_
  refine (gives_true _).bind fun _ _ => (gives_true _).bind fun code _ => Gives.guard ?_
  exact (gives_true _).bind fun _ _ => gives_pure rfl

end NvmlSession

namespace Config

theorem findSensor_ok (dndDisk : Bool) (spec : SensorSpec) :
    Gives (findSensor dndDisk spec) (Sensor.Built spec) := by
  unfold findSensor
  split
  · rename_i hkind
    refine Gives.map ((SensorBase.find_ok _).bind fun base hbase => gives_pure ?_)
    rw [hbase.2]
    exact ⟨hkind.symm, rfl, rfl⟩
  · rename_i hkind
    refine Gives.map ((SensorBase.find_ok _).bind fun base hbase => ?_)
    refine (gives_true _).bind fun contents _ => (gives_true _).bind fun count _ => ?_
    refine (gives_true _).bind fun _ _ => gives_pure ?_
    rw [hbase.2]
    exact ⟨hkind.symm, rfl, trivial⟩
  · rename_i hkind
    have hfind : Gives (DiskSensor.find spec.path) fun sensor =>
        sensor.base = SensorBase.withCount { path := spec.path } 1 :=
      (gives_true _).bind fun _ _ => gives_pure rfl
    refine hfind.bind fun sensor hsensor => gives_pure ⟨hkind.symm, ?_, ?_⟩
    · exact congrArg SensorBase.path hsensor
    · exact congrArg SensorBase.count hsensor
  · rename_i hkind
    refine Gives.map (NvmlSession.start_ok.bind fun session hsession => ?_)
    refine (gives_true _).bind fun device _ => (gives_true _).bind fun _ _ => gives_pure ?_
    exact ⟨hkind.symm, rfl, rfl, session, device, rfl, hsession⟩

theorem buildSensor_ok (dndDisk : Bool) (spec : SensorSpec) :
    Gives (buildSensor dndDisk spec) (Sensor.Built spec) := by
  refine (findSensor_ok dndDisk spec).bind fun sensor hsensor => ?_
  split
  · exact gives_pure hsensor
  · exact Gives.elseFirst (hsensor.correct _)

end Config

/-! ## How many temperatures a read gives -/

/-- A reading gives a number of temperatures, or fails. -/
def Reading.Gives (r : Reading) (n : Nat) : Prop := r.failure? = none → r.temperatures.length = n

theorem Reading.gives_ofExcept (x : Except Failure Int) : (Reading.ofExcept x).Gives 1 := by
  cases x with
  | ok t => exact fun _ => rfl
  | error f => exact nofun

namespace ThermalSensor

/-- The temperatures that fields begin with, the first of which has the index `i`, each
    with its correction. -/
def leading (base : SensorBase) (i : Nat) : List (List Char) → List Int
  | [] => []
  | field :: fields =>
    match Text.signed32? field with
    | none => []
    | some t =>
      match base.corrected i t with
      | .error _ => []
      | .ok t => t :: leading base (i + 1) fields

theorem temperatures_readFields (base : SensorBase) (n i : Nat) (fields : List (List Char)) :
    (readFields base n i fields).temperatures = (leading base i fields).take n := by
  induction n generalizing i fields with
  | zero => simp [readFields]
  | succ n ih =>
    cases fields with
    | nil => simp [readFields, leading]
    | cons field fields =>
      cases hfield : Text.signed32? field with
      | none => simp [readFields, leading, hfield]
      | some t => cases ht : base.corrected i t <;> simp [readFields, leading, hfield, ht, ih]

/-- Fields are read without a failure if there are enough to begin with. -/
theorem failure?_readFields (base : SensorBase) (n i : Nat) (fields : List (List Char)) :
    (readFields base n i fields).failure? = none ↔ n ≤ (leading base i fields).length := by
  induction n generalizing i fields with
  | zero => simp [readFields]
  | succ n ih =>
    cases fields with
    | nil => simp [readFields, leading]
    | cons field fields =>
      cases hfield : Text.signed32? field with
      | none => simp [readFields, leading, hfield]
      | some t => cases ht : base.corrected i t <;> simp [readFields, leading, hfield, ht, ih]

/-- The temperatures that the file shows, each with its correction: none if it cannot be
    read. -/
def shown (sensor : ThermalSensor) (m : Machine) : List Int :=
  match (ControlFile.readFrom sensor.base.path headerSize).value m with
  | .ok text => leading sensor.base 0 (Text.words text.toList)
  | .error _ => []

/-- A read gives the first temperatures that the file shows, and fails if there are too few
    or the file cannot be read. -/
theorem read_shown (sensor : ThermalSensor) (m : Machine) :
    sensor.read.wp (fun r _ _ => r.temperatures = (sensor.shown m).take sensor.base.count ∧
      (r.failure? = none → sensor.base.count ≤ (sensor.shown m).length) ∧
      (r.failure? ≠ none →
        (sensor.shown m).length < sensor.base.count ∨ sensor.shown m = [])) m := by
  unfold read shown
  rw [wp_bind]
  refine wp_mono wp_self fun r m' es ⟨hrun, _⟩ => ?_
  rw [value, hrun]
  cases r with
  | ok text =>
    have hfails := failure?_readFields sensor.base sensor.base.count 0 (Text.words text.toList)
    refine ⟨temperatures_readFields _ _ _ _, hfails.1, fun hfailed => ?_⟩
    exact .inl (Nat.lt_of_not_le (hfails.not.1 hfailed))
  | error e => exact ⟨(List.take_nil).symm, nofun, fun _ => .inr rfl⟩

end ThermalSensor

namespace Sensor

/-- How many temperatures a read gives that does not fail. Only the number of a thermal
    sensor decides that. -/
def yield : Sensor → Nat
  | thermal s => s.base.count
  | _ => 1

theorem WellFormed.yield_eq {s : Sensor} (h : s.WellFormed) : s.yield = s.count := by
  cases s with
  | hwmon s => exact h.symm
  | thermal s => rfl
  | disk s => exact h.symm
  | gpu s => exact h.1.symm

/-- A sensor of any other kind gives one temperature or none. -/
theorem read_single {s : Sensor} (h : s.kind ≠ .thermal) :
    ∃ x : Program (Except Failure Int), s.read = Reading.ofExcept <$> x := by
  cases s with
  | hwmon s =>
    refine ⟨(fun r => (r.mapError (HwmonSensor.unreadable s.base.path)).bind s.interpret) <$>
      ControlFile.read s.base.path, ?_⟩
    rw [← LawfulFunctor.comp_map, map_eq_pure_bind]
    refine congrArg (ControlFile.read s.base.path >>= ·) (funext fun r => ?_)
    cases r <;> rfl
  | thermal s => exact absurd rfl h
  | disk s => exact ⟨_, rfl⟩
  | gpu s => exact ⟨_, rfl⟩

/-- A read that does not fail gives as many temperatures as sensors of its kind do. -/
theorem gives_read (s : Sensor) (m : Machine) :
    s.read.wp (fun r _ _ => r.Gives s.yield) m := by
  by_cases hkind : s.kind = .thermal
  · cases s with
    | thermal s =>
      refine wp_mono (s.read_shown m) fun r _ _ ⟨htemperatures, hlength, _⟩ hnone => ?_
      rw [htemperatures, List.length_take, Nat.min_eq_left (hlength hnone)]
      rfl
    | _ => cases hkind
  · obtain ⟨x, hx⟩ := read_single hkind
    have hyield : s.yield = 1 := by cases s <;> first | rfl | exact absurd rfl hkind
    rw [hx, wp_map, hyield]
    exact wp_of_forall fun r _ _ => Reading.gives_ofExcept r

end Sensor

namespace Sensor

/-- What sensors give that are read in order, even after a failure. -/
def readings : List Sensor → Machine → List Reading
  | [], _ => []
  | s :: rest, m => s.read.value m :: readings rest (s.read.after m)

/-- The temperatures of readings, in order. -/
def temperatures (rs : List Reading) : List Int := rs.flatMap Reading.temperatures

/-- The first failure of readings. -/
def firstFailure? (rs : List Reading) : Option Failure := rs.findSome? Reading.failure?

theorem readOnto_eq (s : Sensor) (before : Temperatures) : s.readOnto before =
    (fun r => (s, before.append r.temperatures, r.outcome)) <$> s.read :=
  (map_eq_pure_bind _ _).symm

/-- Sensors are read one by one onto the temperatures from before, up to the first failure. -/
theorem wp_readAll_cons {s : Sensor} {rest : List Sensor} {before : Temperatures} {m : Machine}
    {Q : List Sensor × Temperatures × Except Failure Unit → Machine → List Entry → Prop} :
    (readAll (s :: rest) before).wp Q m ↔
      s.read.wp (fun first m' es =>
        match first.failure? with
        | some f => Q (s :: rest, before.append first.temperatures, .error f) m' es
        | none => (readAll rest (before.append first.temperatures)).wp
            (fun r m'' fs => Q (s :: r.1, r.2) m'' (es ++ fs)) m') m := by
  rw [readAll, wp_bind, readOnto_eq, wp_map]
  refine wp_congr fun first m' es => ?_
  unfold Reading.outcome
  cases first.failure? with
  | some f => simp only [pure_eq_done, wp_done, List.append_nil]
  | none => simp only [pure_eq_done, wp_bind, wp_done, List.append_nil]

/-- Reads fail as the first sensor that fails, and append all temperatures if none does. They
    leave the sensors as they are. -/
theorem readAll_readings (sensors : List Sensor) (before : Temperatures) (m : Machine) :
    (readAll sensors before).wp (fun r _ _ => r.1 = sensors ∧
      match firstFailure? (readings sensors m) with
      | some f => r.2.2 = .error f
      | none => r.2 = (before.append (temperatures (readings sensors m)), .ok ())) m := by
  induction sensors generalizing before m with
  | nil => exact ⟨rfl, congrArg (·, _) before.append_nil.symm⟩
  | cons s rest ih =>
    rw [wp_readAll_cons]
    unfold readings
    refine wp_mono wp_self fun first m' es ⟨hrun, _⟩ => ?_
    rw [value, after, hrun]
    unfold firstFailure? temperatures
    rw [List.findSome?_cons, List.flatMap_cons]
    cases hf : first.failure? with
    | some f => exact ⟨rfl, rfl⟩
    | none =>
      refine wp_mono (ih (before.append first.temperatures) m') fun r m'' fs ⟨hsame, h⟩ => ?_
      refine ⟨congrArg (s :: ·) hsame, ?_⟩
      unfold firstFailure? temperatures at h
      rwa [Temperatures.append_append] at h

end Sensor

end Cooling
