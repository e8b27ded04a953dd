-- SUMMARY: The JSON document of a configuration: reading one, and writing one.
import Cooling.Config.Basic
import Cooling.Json.Reader

/-!
# Configuration documents

    { "fan": { "tp_fan": "/proc/acpi/ibm/fan" },
      "watchdog_secs": 120,
      "sensors": [ { "hwmon": "/sys/class/hwmon/hwmon0/temp1_input", "correction": [2] } ] }

The members of a configuration may come in any order. Only `fan` and `sensors`
are required, and there are no others than those of `Field`. A fan is an object
with one member, whose name is the kind of the fan. A sensor is an object in
which the first member named after a kind of sensor counts, beside `correction`;
other members are skipped. A configuration may also be an array of its values in
the order of `Field.all`.
-/

namespace Cooling.Config

open Json

/-! ## Members -/

inductive Field where
  | fan | watchdog | depulse | pollInterval | dndDisk | sensors
  deriving DecidableEq, Repr

namespace Field

def name : Field → String
  | fan => "fan"
  | watchdog => "watchdog_secs"
  | depulse => "depulse_secs"
  | pollInterval => "poll_interval_secs"
  | dndDisk => "dnd_disk"
  | sensors => "sensors"

def all : List Field := [fan, watchdog, depulse, pollInterval, dndDisk, sensors]

def ofName? (name : String) : Option Field := all.find? (fun f => f.name == name)

end Field

/-- A name as error messages show it. -/
def shown (name : String) : String := s!"`{name}`"

def unknownField (name : String) : Json.Error :=
  let known := ", ".intercalate (Field.all.map (fun f => shown f.name))
  .mismatch s!"unknown field {shown name}, expected one of {known}"

def duplicateField (name : String) : Json.Error :=
  .mismatch s!"duplicate field {shown name}"

def missingField (name : String) : Json.Error :=
  .mismatch s!"missing field {shown name}"

def unknownKind (name : String) : Json.Error :=
  let known := " or ".intercalate (FanKind.all.map (fun k => shown k.name))
  .mismatch s!"unknown variant {shown name}, expected {known}"

def bareKind : Json.Error :=
  .mismatch "invalid type: unit variant, expected newtype variant"

def noKind : Json.Error :=
  .mismatch "no variant of enum SensorKind found in flattened data"

def tooShort (length : Nat) : Json.Error :=
  .mismatch s!"invalid length {length}, expected struct DriverConfig with 6 elements"

/-! ## Reading a fan -/

/-- The kind of fan with a name. -/
def fanKind (name : String) : Except Json.Error FanKind :=
  match FanKind.all.find? (fun k => k.name == name) with
  | some kind => .ok kind
  | none => .error (unknownKind name)

def endFan : Reader Unit
  | [] => .error .unfinished
  | .closeObject :: ts => .ok ((), ts)
  | _ => .error .malformed

def readFan : Reader FanSpec
  | [] => .error .unfinished
  | .openObject :: ts => (do
      let name ← readName
      let kind ← fanKind name
      expectColon
      let path ← readText "path string"
      endFan
      return { kind, path } : Reader FanSpec) ts
  | .string (.ok name) :: _ => do
    let _ ← fanKind name
    .error bareKind
  | .string (.error e) :: _ => .error e
  | _ => .error .malformed

/-! ## Reading a sensor -/

/-- What has been read of a sensor so far. -/
structure SensorDraft where
  /-- The first member named after a kind, and its value. -/
  kind? : Option (SensorKind × Shape) := none
  correction? : Option (Option (List Int32)) := none

def correctionName : String := "correction"

/-- How deep brackets may be nested in a member of a sensor. -/
def room : Nat := 125

def readSensorMember (draft : SensorDraft) (name : String) : Reader SensorDraft := do
  if name = correctionName then
    if draft.correction?.isSome then throw (duplicateField name)
    expectColon
    let correction ← readNullable (readArray readSigned32)
    return { draft with correction? := some correction }
  else
    expectColon
    let shape ← skipValue room
    match draft.kind?, SensorKind.all.find? (fun k => k.name == name) with
    | none, some kind => return { draft with kind? := some (kind, shape) }
    | _, _ => return draft

/-- What the value of a kind is called in error messages. -/
def wantedFor : SensorKind → String
  | .hwmon | .thermal => "path string"
  | .disk | .gpu => "a string"

def SensorDraft.finish (draft : SensorDraft) : Except Json.Error SensorSpec :=
  match draft.kind? with
  | none => .error noKind
  | some (kind, .string path) => .ok { kind, path, correction? := draft.correction?.join }
  | some (kind, shape) => .error (wrongShape shape (wantedFor kind))

def readSensor : Reader SensorSpec
  | .openObject :: ts => (do
      let draft ← readMembers readSensorMember {}
      draft.finish : Reader SensorSpec) ts
  | ts => .error (unwanted "struct SensorSpec" ts)

/-! ## Reading a configuration -/

/-- What has been read of a configuration so far. -/
structure Draft where
  fan? : Option FanSpec := none
  watchdog? : Option UInt64 := none
  depulse? : Option Binary64 := none
  pollInterval? : Option UInt64 := none
  dndDisk? : Option Bool := none
  sensors? : Option (List SensorSpec) := none

namespace Draft

def has (draft : Draft) : Field → Bool
  | .fan => draft.fan?.isSome
  | .watchdog => draft.watchdog?.isSome
  | .depulse => draft.depulse?.isSome
  | .pollInterval => draft.pollInterval?.isSome
  | .dndDisk => draft.dndDisk?.isSome
  | .sensors => draft.sensors?.isSome

/-- Reads the value of a field. -/
def readField (draft : Draft) : Field → Reader Draft
  | .fan => do return { draft with fan? := some (← readFan) }
  | .watchdog => do return { draft with watchdog? := some (← readWord) }
  | .depulse => do return { draft with depulse? := some (← readDouble) }
  | .pollInterval => do return { draft with pollInterval? := some (← readWord) }
  | .dndDisk => do return { draft with dndDisk? := some (← readBool) }
  | .sensors => do return { draft with sensors? := some (← readArray readSensor) }

def readMember (draft : Draft) (name : String) : Reader Draft :=
  match Field.ofName? name with
  | none => throw (unknownField name)
  | some field => do
    if draft.has field then throw (duplicateField name)
    expectColon
    draft.readField field

/-- Reads the elements of an array for fields in order, as many as there are. -/
def readElements (first : Bool) : List Field → Draft → Reader Draft
  | [], draft => return draft
  | field :: fields, draft => do
    if ← moreElements first then
      let draft ← draft.readField field
      readElements false fields draft
    else return draft

/-- The configuration of a draft that has what is required. -/
def finish (draft : Draft) (noFan noSensors : Json.Error) : Except Json.Error Config :=
  match draft.fan?, draft.sensors? with
  | none, _ => .error noFan
  | some _, none => .error noSensors
  | some fan, some sensors =>
    .ok {
      fan, sensors
      watchdogSecs := draft.watchdog?.getD 120
      depulseSecs := draft.depulse?.getD .zero
      pollIntervalSecs := draft.pollInterval?.getD 5
      dndDisk := draft.dndDisk?.getD false }

end Draft

def readConfig : Reader Config
  | .openObject :: ts => (do
      let draft ← readMembers Draft.readMember {}
      draft.finish (missingField Field.fan.name) (missingField Field.sensors.name) :
        Reader Config) ts
  | .openArray :: ts => (do
      let draft ← Draft.readElements true Field.all {}
      let config ← draft.finish (tooShort 0) (tooShort 5)
      endArray
      return config : Reader Config) ts
  | ts => .error (unwanted "struct DriverConfig" ts)

/-- The configuration that a row of tokens describes, and nothing after it. -/
def ofTokens (ts : List Token) : Except Json.Error Config := do
  let (config, rest) ← readConfig ts
  if rest.isEmpty then .ok config else .error .malformed

/-- The configuration that a document describes. -/
def ofDocument (text : String) : Except Json.Error Config := ofTokens (tokens text.toList)

/-! ## Writing -/

/-- A character in a JSON string. -/
def jsonChar (c : Char) : List Char :=
  match c with
  | '"' => ['\\', '"']
  | '\\' => ['\\', '\\']
  | '\x08' => ['\\', 'b']
  | '\x0c' => ['\\', 'f']
  | '\n' => ['\\', 'n']
  | '\r' => ['\\', 'r']
  | '\t' => ['\\', 't']
  | c =>
    if c.toNat < 32 then
      let digits := Text.hexadecimal c.toNat
      '\\' :: 'u' :: (List.replicate (4 - digits.length) '0' ++ digits)
    else [c]

def jsonString (s : String) : String :=
  String.ofList ('"' :: (s.toList.flatMap jsonChar ++ ['"']))

/-- Members of an object. -/
def jsonObject (members : List (String × String)) : String :=
  "\x7b" ++ ",".intercalate (members.map (fun (name, value) => jsonString name ++ ":" ++ value))
    ++ "\x7d"

def jsonArray (elements : List String) : String := "[" ++ ",".intercalate elements ++ "]"

def SensorSpec.members (s : SensorSpec) : List (String × String) :=
  (s.kind.name, jsonString s.path) ::
    match s.correction? with
    | none => []
    | some ts => [(correctionName, jsonArray (ts.map (fun t => toString t.toInt)))]

/-- A double in a document. JSON has no text for what is not a number. -/
def jsonDouble (x : Binary64) : String :=
  match x.value with
  | .finite _ _ => x.text
  | _ => "null"

/-- The document of a configuration, with every member spelled out. -/
def document (c : Config) : String :=
  jsonObject [
    (Field.fan.name, jsonObject [(c.fan.kind.name, jsonString c.fan.path)]),
    (Field.watchdog.name, toString c.watchdogSecs.toNat),
    (Field.depulse.name, jsonDouble c.depulseSecs),
    (Field.pollInterval.name, toString c.pollIntervalSecs.toNat),
    (Field.dndDisk.name, if c.dndDisk then "true" else "false"),
    (Field.sensors.name, jsonArray (c.sensors.map (fun s => jsonObject (SensorSpec.members s))))]

end Cooling.Config
