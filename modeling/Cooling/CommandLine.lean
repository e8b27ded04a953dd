-- SUMMARY: The command line: options, subcommands and their values, what is asked for, and the usage errors.
import Cooling.Level

/-!
# The command line

There are two subcommands, `sensors` and `fan`, besides `help`. An option takes a value, which
follows it as the next argument or after an equals sign. A value that follows as
the next argument is looked at when the next option comes or the arguments of
the subcommand end, so an unknown argument is reported before a bad value that
precedes it.
-/

namespace Cooling

/-! ## Usage errors -/

/-- Why a command line does not start the program. -/
inductive UsageError where
  /-- The help text was asked for. -/
  | help
  /-- There is no argument, and the help text takes the place of an error. -/
  | helpInstead
  | version
  | missingSubcommand
  | unknownSubcommand
  | unknownArgument
  /-- An option has no value, or an empty one where that is not possible. -/
  | noValue
  /-- A value does not have the form that the option asks for. -/
  | badValue
  /-- A flag has a value. -/
  | surplusValue
  /-- An option that is required is missing. -/
  | missingOption
  /-- An option is given twice. -/
  | repeatedOption
  deriving DecidableEq, Repr

/-- The exit code of the program. -/
def UsageError.exitCode : UsageError → Nat
  | help | version => 0
  | _ => 2

/-! ## Invocations -/

/-- What a subcommand is asked to do. -/
inductive Command where
  /-- Print temperatures for a number of cycles, or, for 0, until stopped. -/
  | sensors (config? : Option String) (cycles : Nat)
  /-- Hold the fan at a level, for a number of seconds or until stopped. -/
  | fan (level : Level) (config? : Option String) (seconds? : Option Nat)
  deriving DecidableEq, Repr

structure Invocation where
  logLevel? : Option String
  command : Command
  deriving DecidableEq, Repr

namespace CommandLine

inductive Subcommand where
  | sensors | fan
  deriving DecidableEq, Repr

def Subcommand.ofName? (name : String) : Option Subcommand :=
  if name = "sensors" then some .sensors else if name = "fan" then some .fan else none

def helpName : String := "help"

inductive OptionName where
  | logLevel | config | cycles | level | seconds
  deriving DecidableEq, Repr

def OptionName.text : OptionName → String
  | logLevel => "log-level"
  | config => "config"
  | cycles => "cycles"
  | level => "level"
  | seconds => "seconds"

/-- The options before the subcommand, or of a subcommand. -/
def optionsOf : Option Subcommand → List OptionName
  | none => [.logLevel]
  | some .sensors => [.config, .cycles, .logLevel]
  | some .fan => [.level, .config, .seconds, .logLevel]

/-! ## Values -/

/-- The values given so far. -/
structure Values where
  logLevel? : Option String := none
  config? : Option String := none
  cycles? : Option Nat := none
  level? : Option Level := none
  seconds? : Option Nat := none
  deriving DecidableEq, Repr

namespace Values

def has (v : Values) : OptionName → Bool
  | .logLevel => v.logLevel?.isSome
  | .config => v.config?.isSome
  | .cycles => v.cycles?.isSome
  | .level => v.level?.isSome
  | .seconds => v.seconds?.isSome

/-- A whole number of 64 bits. -/
def count (text : String) : Except UsageError Nat :=
  match Text.unsigned? 18446744073709551616 text.toList with
  | some n => .ok n
  | none => .error .badValue

/-- Takes the value of an option. -/
def set (v : Values) (option : OptionName) (text : String) : Except UsageError Values :=
  if v.has option then .error .repeatedOption
  else match option with
    | .logLevel => .ok { v with logLevel? := some text }
    | .config => if text = "" then .error .noValue else .ok { v with config? := some text }
    | .cycles => do return { v with cycles? := some (← count text) }
    | .seconds => do return { v with seconds? := some (← count text) }
    | .level =>
      match Level.parse text with
      | .ok level => .ok { v with level? := some level }
      | .error _ => .error .badValue

end Values

/-! ## Arguments -/

/-- What an argument is by its form. -/
inductive Argument where
  /-- Two hyphens: only positional arguments follow. -/
  | escape
  /-- A long option or flag, with the value after an equals sign. -/
  | long (name : String) (value? : Option String)
  /-- Short flags. -/
  | short (flags : List Char)
  /-- An argument that is no option. -/
  | plain (text : String)
  deriving DecidableEq, Repr

def Argument.ofString (s : String) : Argument :=
  match s.toList with
  | '-' :: '-' :: [] => .escape
  | '-' :: '-' :: cs =>
    let name := String.ofList (cs.takeWhile (· != '='))
    match cs.dropWhile (· != '=') with
    | _ :: value => .long name (some (String.ofList value))
    | [] => .long name none
  | '-' :: c :: cs => .short (c :: cs)
  | _ => .plain s

/-- How far the arguments of a command have been read. -/
structure State where
  values : Values := {}
  /-- An option whose value is not looked at yet, with that value if it is there. -/
  pending? : Option (OptionName × Option String) := none
  deriving DecidableEq, Repr

namespace State

/-- Looks at the value that is pending. -/
def settle (s : State) : Except UsageError State :=
  match s.pending? with
  | none => .ok s
  | some (_, none) => .error .noValue
  | some (option, some text) => do return { values := ← s.values.set option text }

/-- Whether an option still waits for its value. -/
def waiting (s : State) : Bool :=
  match s.pending? with
  | some (_, none) => true
  | _ => false

/-- Reads a flag that ends everything, such as the one for help. -/
def finishWith (s : State) (flag : UsageError) : UsageError :=
  match s.settle with
  | .ok _ => flag
  | .error e => e

/-- Reads a long option or flag. -/
def long (s : State) (options : List OptionName) (name : String) (value? : Option String) :
    Except UsageError State :=
  match options.find? (fun o => o.text == name), value? with
  | some option, none => do
    let s ← s.settle
    return { s with pending? := some (option, none) }
  | some option, some text => do
    let s ← s.settle
    return { values := ← s.values.set option text }
  | none, value? =>
    if name = "help" ∨ name = "version" then
      match value? with
      | some _ => .error .surplusValue
      | none => .error (s.finishWith (if name = "help" then .help else .version))
    else .error .unknownArgument

/-- Reads the first of some short flags. None of them comes back. -/
def short (s : State) : List Char → UsageError
  | 'h' :: _ => s.finishWith .help
  | 'V' :: _ => s.finishWith .version
  | _ => .unknownArgument

end State

/-- Reads the arguments of a subcommand. -/
def readOptions (options : List OptionName) : State → List String → Except UsageError Values
  | s, [] => do return (← s.settle).values
  | s, arg :: args =>
    match Argument.ofString arg with
    | .escape =>
      match args with
      | [] => do return (← s.settle).values
      | _ :: _ => .error .unknownArgument
    | .long name value? => do readOptions options (← s.long options name value?) args
    | .short flags => .error (s.short flags)
    | .plain text =>
      match s.pending? with
      | some (option, none) => readOptions options { s with pending? := some (option, some text) } args
      | _ => .error .unknownArgument

/-- What a subcommand with its values asks for. -/
def command : Subcommand → Values → Except UsageError Command
  | .sensors, v => .ok (.sensors v.config? (v.cycles?.getD 1))
  | .fan, v =>
    match v.level? with
    | some level => .ok (.fan level v.config? v.seconds?)
    | none => .error .missingOption

/-- Reads a subcommand with its arguments, after what came before it. -/
def readSubcommand (before : State) (subcommand : Subcommand) (args : List String) :
    Except UsageError Invocation := do
  let values ← readOptions (optionsOf (some subcommand)) {} args
  let command ← command subcommand values
  let before ← before.settle
  return { logLevel? := values.logLevel? <|> before.values.logLevel?, command }

/-- The arguments after `help` may name one subcommand, or `help` itself. -/
def readHelp : List String → UsageError
  | [] => .help
  | name :: names =>
    if (Subcommand.ofName? name).isSome ∨ name = helpName then
      if names = [] then .help else .unknownSubcommand
    else .unknownSubcommand

/-- The error when no subcommand was given. -/
def withoutSubcommand (s : State) : UsageError :=
  match s.settle with
  | .error e => e
  | .ok s => if s.values = {} then .helpInstead else .missingSubcommand

/-- The error for the arguments after two hyphens, where no subcommand can be. -/
def afterEscape (s : State) : List String → UsageError
  | [] => withoutSubcommand s
  | arg :: _ =>
    if (Subcommand.ofName? arg).isSome ∨ arg = helpName then .unknownArgument
    else .unknownSubcommand

/-- Reads the arguments up to the subcommand. -/
def readArguments : State → List String → Except UsageError Invocation
  | s, [] => .error (withoutSubcommand s)
  | s, arg :: args =>
    if s.waiting then
      match Argument.ofString arg with
      | .plain text =>
        readArguments { s with pending? := s.pending?.map (fun p => (p.1, some text)) } args
      | other => go s other args
    else
      match Subcommand.ofName? arg with
      | some subcommand => readSubcommand s subcommand args
      | none => if arg = helpName then .error (readHelp args) else go s (Argument.ofString arg) args
where
  go (s : State) (argument : Argument) (args : List String) : Except UsageError Invocation :=
    match argument with
    | .escape => .error (afterEscape s args)
    | .long name value? => do readArguments (← s.long (optionsOf none) name value?) args
    | .short flags => .error (s.short flags)
    | .plain _ => .error .unknownSubcommand

/-- Reads a command line, which begins with the name of the program. -/
def parse (args : List String) : Except UsageError Invocation := readArguments {} (args.drop 1)

end CommandLine

end Cooling
