import CapturedTraffic.Logging.Config

/-!
# Command line arguments

Reading the arguments of the program. The settings of logging may stand before or after the name of
the command; every other setting belongs to its command. A setting takes the next argument as its
value, unless that begins with a hyphen, or the text after an equals sign.
-/
namespace CapturedTraffic.CommandLine

inductive Command
  | search (exchanges expression : String)
  | scope (exchanges scope : String)
  | filter (exchanges : String) (scope expression : Option String)
  | fields
  deriving DecidableEq, Repr

structure Arguments where
  logLevel : String
  jsonLogs : Bool
  command : Command
  deriving DecidableEq, Repr

def defaultLogLevel : String := "warn"

def Arguments.logging (a : Arguments) : Logging.Config := .withLevel a.logLevel a.jsonLogs

/-- Why no command is run: an answer is asked for at once, or the arguments are wrong. -/
inductive Refusal
  | help
  | helpInstead
  | version
  | unknownArgument
  | unknownCommand
  | missingCommand
  | missingSetting
  | invalidValue
  | needlessValue
  | repeated
  deriving DecidableEq, Repr

inductive CommandName
  | search
  | scope
  | filter
  | fields
  deriving DecidableEq, Repr

/-- A setting that takes a value. -/
inductive Setting
  | logLevel
  | exchanges
  | scope
  | expression
  deriving DecidableEq, Repr

namespace CommandName

def all : List CommandName := [search, scope, filter, fields]

def text : CommandName → String
  | search => "search"
  | scope => "scope"
  | filter => "filter"
  | fields => "fields"

def ofText? (s : String) : Option CommandName := all.find? (·.text = s)

def settings : CommandName → List Setting
  | search => [.exchanges, .expression]
  | scope => [.exchanges, .scope]
  | filter => [.exchanges, .scope, .expression]
  | fields => []

end CommandName

namespace Setting

def text : Setting → String
  | logLevel => "log-level"
  | exchanges => "logs"
  | scope => "scope"
  | expression => "expr"

/-- Paths must not be empty. -/
def allows (s : Setting) (value : String) : Bool := s = logLevel || value ≠ ""

/-- The settings known after a command, or before one. -/
def known : Option CommandName → List Setting
  | none => [logLevel]
  | some name => logLevel :: name.settings

def named? (level : Option CommandName) (name : String) : Option Setting :=
  (known level).find? (·.text = name)

end Setting

/-- How an argument is written. -/
inductive Form
  | separator
  | long (name : String) (value : Option String)
  | short (letter : Char)
  | plain

def Form.of (argument : String) : Form :=
  match argument.toList with
  | ['-', '-'] => separator
  | '-' :: '-' :: rest =>
    let name := String.ofList (rest.takeWhile (· != '='))
    match rest.dropWhile (· != '=') with
    | _ :: value => long name (some (String.ofList value))
    | [] => long name none
  | '-' :: letter :: _ => short letter
  | _ => plain

/-- What has been read before, or after, the name of the command. -/
structure Reading where
  values : List (Setting × String)
  jsonLogs : Bool
  /-- The setting read last, whose value has not been looked at yet, or not even been given. -/
  pending : Option (Setting × Option String)
  deriving DecidableEq, Repr

namespace Reading

def empty : Reading := ⟨[], false, none⟩

def value? (r : Reading) (s : Setting) : Option String := r.values.lookup s

/-- Takes in the setting read last. -/
def settle (r : Reading) : Except Refusal Reading :=
  match r.pending with
  | none => .ok r
  | some (_, none) => .error .invalidValue
  | some (s, some value) =>
    if (r.value? s).isSome then .error .repeated
    else if s.allows value then .ok { r with values := (s, value) :: r.values, pending := none }
    else .error .invalidValue

/-- Begins a setting whose value is the next argument. -/
def await (r : Reading) (s : Setting) : Except Refusal Reading :=
  r.settle.map fun r => { r with pending := some (s, none) }

/-- Takes in a setting together with its value. -/
def assign (r : Reading) (s : Setting) (value : String) : Except Refusal Reading := do
  let r ← r.settle
  settle { r with pending := some (s, some value) }

def setJsonLogs (r : Reading) : Except Refusal Reading := do
  let r ← r.settle
  if r.jsonLogs then .error .repeated else .ok { r with jsonLogs := true }

/-- Ends the reading with an answer, if nothing before is wrong. -/
def finish (r : Reading) (answer : Refusal) : Except Refusal Reading := do
  let _ ← r.settle
  .error answer

def long (level : Option CommandName) (r : Reading) (name : String) (value : Option String) :
    Except Refusal Reading :=
  match Setting.named? level name, value with
  | some s, some value => r.assign s value
  | some s, none => r.await s
  | none, value =>
    if name = "json-logs" ∨ name = "help" ∨ name = "version" ∧ level = none then
      if value.isSome then .error .needlessValue
      else if name = "json-logs" then r.setJsonLogs
      else r.finish (if name = "help" then .help else .version)
    else .error .unknownArgument

def short (level : Option CommandName) (r : Reading) (letter : Char) : Except Refusal Reading :=
  if letter = 'h' then r.finish .help
  else if letter = 'V' ∧ level = none then r.finish .version
  else .error .unknownArgument

/-- Whether the next plain argument is the value of a setting. -/
def awaited? (r : Reading) : Option Setting :=
  match r.pending with
  | some (s, none) => some s
  | _ => none

end Reading

/-- The answer to a plain argument after the separator, where no command can stand. -/
def afterSeparator (level : Option CommandName) : List String → Except Refusal Unit
  | [] => .ok ()
  | argument :: _ =>
    if level = none ∧ argument ≠ "help" ∧ CommandName.ofText? argument = none then
      .error .unknownCommand
    else .error .unknownArgument

/-- The answer to the command that asks for help, perhaps about another. -/
def helpAbout : List String → Refusal
  | [] => .help
  | [name] => if name = "help" ∨ (CommandName.ofText? name).isSome then .help else .unknownCommand
  | _ => .unknownCommand

/-- Reads the settings after a command up to the end. -/
def readSettings (name : CommandName) (r : Reading) : List String → Except Refusal Reading
  | [] => .ok r
  | argument :: rest =>
    match Form.of argument with
    | .separator => do
      afterSeparator (some name) rest
      .ok r
    | .long option value => do
      let r ← r.long (some name) option value
      readSettings name r rest
    | .short letter => do
      let r ← r.short (some name) letter
      readSettings name r rest
    | .plain =>
      match r.awaited? with
      | some s => readSettings name { r with pending := some (s, some argument) } rest
      | none => .error .unknownArgument

/-- Reads up to the name of the command; what follows the name is left over. -/
def readFront (r : Reading) :
    List String → Except Refusal (Reading × Option (CommandName × List String))
  | [] => .ok (r, none)
  | argument :: rest =>
    match Form.of argument with
    | .separator => do
      afterSeparator none rest
      .ok (r, none)
    | .long option value => do
      let r ← r.long none option value
      readFront r rest
    | .short letter => do
      let r ← r.short none letter
      readFront r rest
    | .plain =>
      match r.awaited? with
      | some s => readFront { r with pending := some (s, some argument) } rest
      | none =>
        match CommandName.ofText? argument with
        | some name => .ok (r, some (name, rest))
        | none => .error (if argument = "help" then helpAbout rest else .unknownCommand)

/-- The command with the values of its settings, if none is missing. -/
def command? (name : CommandName) (r : Reading) : Option Command :=
  match name with
  | .search => do
    let exchanges ← r.value? .exchanges
    let expression ← r.value? .expression
    some (.search exchanges expression)
  | .scope => do
    let exchanges ← r.value? .exchanges
    let scope ← r.value? .scope
    some (.scope exchanges scope)
  | .filter => do
    let exchanges ← r.value? .exchanges
    some (.filter exchanges (r.value? .scope) (r.value? .expression))
  | .fields => some .fields

/-- The command of what follows its name. -/
def readCommand (name : CommandName) (arguments : List String) :
    Except Refusal (Reading × Command) := do
  let r ← readSettings name .empty arguments
  let r ← r.settle
  match command? name r with
  | some command => .ok (r, command)
  | none => .error .missingSetting

/-- Reads all arguments. A setting of logging given on both sides of the command counts there. -/
def Arguments.read (arguments : List String) : Except Refusal Arguments := do
  let (front, rest) ← readFront .empty arguments
  match rest with
  | some (name, rest) =>
    let (back, command) ← readCommand name rest
    let front ← front.settle
    let level := (back.value? .logLevel).or (front.value? .logLevel)
    .ok ⟨level.getD defaultLogLevel, front.jsonLogs || back.jsonLogs, command⟩
  | none =>
    let front ← front.settle
    .error (if front = .empty then .helpInstead else .missingCommand)

end CapturedTraffic.CommandLine
