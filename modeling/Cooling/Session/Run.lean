-- SUMMARY: What the program does for an invocation: print temperatures, or hold a fan and hand it back.
import Cooling.CommandLine
import Cooling.Config.Load
import Cooling.Session.Cycles
import Cooling.Session.Hold

/-!
# Sessions

A session loads the configuration, builds the drivers that it needs and runs
them. When it ends, sensors are shut down and the fan is handed back as it was
found, on every way out. If it breaks down in a sleep, they are let go as they
are, which hands a fan back as well.
-/

namespace Cooling.Session

/-! ## Settings -/

/-- What the environment says. -/
structure Environment where
  config? : Option ByteArray := none
  logLevel? : Option ByteArray := none

def defaultLogLevel : String := "info"

/-- The log level: that of the command line, else that of the environment if it is
    a text that is not blank, else the default one. -/
def logLevel (given? : Option String) (environment? : Option ByteArray) : String :=
  match given? with
  | some level => level
  | none =>
    match environment?.bind String.fromUTF8? with
    | some level => if Text.trim level.toList = [] then defaultLogLevel else level
    | none => defaultLogLevel

/-- The path of the configuration. -/
def configPath (given? : Option String) (environment : Environment) : String :=
  match given? with
  | some path => path
  | none => Text.lossy (Config.pathFrom environment.config?)

/-! ## Loading -/

/-- Loads the configuration at a path. -/
def load (path : String) : Stage Config := attempting s!"Failed to load {path}" (Config.load path)

/-! ## Sensors -/

def overview (sensors : List Sensor) : String :=
  let temperatures := sensors.foldl (fun n sensor => n + sensor.count) 0
  s!"{sensors.length} sensor(s), {temperatures} temperature(s) per cycle"

/-- Lets sensors go after cycles. Each is shut down first, unless the cycles broke down. -/
def letGo (sensors : List Sensor) : Except Breakdown Unit → Program Unit
  | .ok () => do
    shutDownAll sensors
    Sensor.releaseAll (sensors.map Sensor.ended)
  | .error _ => Sensor.releaseAll sensors

/-- Runs cycles with sensors, and lets the sensors go, whatever comes of the cycles. -/
def withSensors (patience : Nat) (sensors : List Sensor) (pollInterval : Duration)
    (cycles : Nat) : Stage Unit :=
  ExceptT.mk do
    Program.log .info (overview sensors)
    let ended ← (if cycles = 0 then runCycles sensors pollInterval none patience 0 .empty
      else runCycles sensors pollInterval (some cycles) cycles 0 .empty).run
    letGo sensors ended
    return ended

/-- Prints temperatures for a number of cycles. With 0 cycles it goes on until the
    program is told to stop, at most `patience` times. -/
def runSensors (patience : Nat) (path : String) (cycles : Nat) : Stage Unit := do
  let config ← load path
  let sensors ← attempting "Failed to set up sensors" config.buildSensors
  withSensors patience sensors config.pollInterval cycles

/-! ## The fan -/

def notRoot : Breakdown :=
  .refused "fanhal fan requires root privileges to write fan control files"

def tooFar (seconds : Nat) : Breakdown :=
  .refused s!"--seconds {seconds} is too far in the future"

def handedBack (fan : Fan) : String := s!"{fan.path}: restored {fan.initialState}"

/-- The result of a hold after which the fan was handed back. A failure of the hold
    comes first. -/
def outcome (held restored : Except Failure Unit) : Except Breakdown Unit :=
  match held, restored with
  | .error f, _ => .error (.failure none f)
  | .ok (), .error f => .error (.failure none f)
  | .ok (), .ok () => .ok ()

/-- Hands a fan back, logs how that went, and lets the fan go. -/
def handBack (fan : Fan) : Program (Except Failure Unit) := do
  let result ← fan.restore.run
  match result with
  | .ok () => Program.log .info (handedBack fan)
  | .error f => Program.log .error f.message
  return result

/-- Holds a fan at a level until a deadline and hands it back. If the hold breaks down, the
    fan is only let go, which restores it as well. -/
def holdAndHandBack (patience : Nat) (fan : Fan) (level : Level) (pollInterval : Duration)
    (deadline? : Option Instant) : Stage Unit :=
  ExceptT.mk do
    match ← (hold patience fan level pollInterval deadline?).run with
    | .error breakdown =>
      fan.release
      return .error breakdown
    | .ok (fan, held) =>
      match held with
      | .ok () => pure ()
      | .error f => Program.log .error f.message
      let restored ← handBack fan
      fan.restored.release
      return outcome held restored

/-- The deadline after a number of seconds. It is the fan's way out if the clock
    cannot show it. -/
def deadlineAfter (fan : Fan) : Option Nat → Stage (Option Instant)
  | none => return none
  | some seconds => do
    let now ← Program.now
    match now.after? (.ofSeconds seconds) with
    | some deadline => return some deadline
    | none => do
      fan.release
      throw (tooFar seconds)

/-- Holds the fan at a level for a number of seconds, or until the program is told to
    stop, for at most `patience` naps. Only root may do that. -/
def runFan (patience : Nat) (path : String) (level : Level) (seconds? : Option Nat) :
    Stage Unit := do
  let user ← Program.userId
  if user ≠ 0 then throw notRoot
  let config ← load path
  let fan ← attempting "Failed to set up fan" config.buildFan
  let deadline? ← deadlineAfter fan seconds?
  holdAndHandBack patience fan level config.pollInterval deadline?

/-! ## Invocations -/

/-- Runs what a command line asks for. -/
def run (patience : Nat) (environment : Environment) (invocation : Invocation) : Stage Unit :=
  match invocation.command with
  | .sensors config? cycles => runSensors patience (configPath config? environment) cycles
  | .fan level config? seconds? =>
    runFan patience (configPath config? environment) level seconds?

end Cooling.Session
