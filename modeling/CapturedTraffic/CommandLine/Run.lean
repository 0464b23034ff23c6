import CapturedTraffic.CommandLine.Arguments
import CapturedTraffic.Exchange.Json
import CapturedTraffic.Filter
import CapturedTraffic.Scope.Config

/-!
# Running commands

What a command writes, given the files that it may read. A command reads its expression first,
then its scope, then the exchanges, and writes line by line. A failure ends it where it is.
-/
namespace CapturedTraffic.CommandLine

open Text

/-- Why the contents of a file cannot be had as text. -/
inductive FileFault
  | notFound
  | notText
  | isDirectory
  | notDirectory
  | denied
  | invalidPath
  | nameTooLong
  | other
  deriving DecidableEq, Repr

/-- The contents of the files, by their paths. -/
abbrev Files := String → Except FileFault (List UInt8)

/-- What a file is read for. -/
inductive Subject
  | exchanges
  | expression
  | scope
  deriving DecidableEq, Repr

/-- The first stage of a command that went wrong. -/
inductive Failure
  | logging (fault : Logging.Fault)
  | unreadable (subject : Subject) (path : String) (fault : FileFault)
  | malformed (subject : Subject) (path : String)
  | invalidScope (path : String) (pattern : Scope.InvalidPattern)
  | evaluation (fault : Query.Fault)
  deriving DecidableEq, Repr

/-- A link in the explanation of a failure. -/
inductive Cause
  | stage (text : String)
  | scopeUnreadable (fault : FileFault)
  | scopeMalformed
  | invalidPattern (pattern : Scope.InvalidPattern)
  | evaluation (fault : Query.Fault)
  | file (fault : FileFault)
  | json
  | pattern (fault : Pattern.Fault)
  deriving DecidableEq, Repr

def FileFault.text : FileFault → String
  | notFound => "no such file"
  | notText => "the file is not valid UTF-8"
  | isDirectory => "the path names a directory"
  | notDirectory => "a part of the path is no directory"
  | denied => "permission denied"
  | invalidPath => "the path holds a zero character"
  | nameTooLong => "the path or a name in it is too long"
  | other => "the file cannot be read"

/-- The message of a link; those about a scope end where the next link goes on. -/
def Cause.message : Cause → String
  | stage text => text
  | scopeUnreadable _ => "failed to read scope configuration: "
  | scopeMalformed => "failed to parse scope configuration: "
  | invalidPattern p => p.message
  | evaluation fault => fault.message
  | file fault => fault.text
  | json => "the text has not the expected form"
  | pattern .malformed => "the pattern is malformed"
  | pattern .tooBig => "the pattern is too big"

namespace Failure

/-- The stage that failed. -/
def stage : Failure → String
  | logging fault => fault.message
  | unreadable .exchanges path _ => "Failed to read request logs from " ++ path
  | unreadable .expression path _ => "Failed to read search expression from " ++ path
  | unreadable .scope path _ => "Failed to load scope configuration from " ++ path
  | malformed .exchanges path => "Failed to parse request logs in " ++ path
  | malformed .expression path => "Failed to parse search expression in " ++ path
  | malformed .scope path => "Failed to load scope configuration from " ++ path
  | invalidScope path _ => "Invalid scope configuration in " ++ path
  | evaluation _ => "Failed to evaluate search expression"

/-- What made the stage fail, the nearest cause first. -/
def causes : Failure → List Cause
  | logging _ => []
  | unreadable .scope _ fault => [.scopeUnreadable fault, .file fault]
  | unreadable _ _ fault => [.file fault]
  | malformed .scope _ => [.scopeMalformed, .json]
  | malformed _ _ => [.json]
  | invalidScope _ pattern => [.invalidPattern pattern, .pattern pattern.fault]
  | evaluation fault => [.evaluation fault]

def chain (f : Failure) : List Cause := .stage f.stage :: f.causes

end Failure

/-- What a command has written, and the failure that ended it, if one did. -/
structure Outcome where
  output : String
  failure : Option Failure
  deriving DecidableEq, Repr

/-- The files that a command reads. -/
def Command.paths : Command → List String
  | .search exchanges expression => [exchanges, expression]
  | .scope exchanges rules => [exchanges, rules]
  | .filter exchanges rules expression => exchanges :: (rules.toList ++ expression.toList)
  | .fields => []

/-- The bytes of a file; a path with a zero character in it is not looked up. -/
def bytesAt (files : Files) (path : String) : Except FileFault (List UInt8) :=
  if path.toList.contains '\x00' then .error .invalidPath else files path

/-- The contents of a file as text. -/
def readText (files : Files) (subject : Subject) (path : String) : Except Failure String :=
  match bytesAt files path with
  | .error fault => .error (.unreadable subject path fault)
  | .ok bytes =>
    match Utf8.decode? bytes with
    | some text => .ok text
    | none => .error (.unreadable subject path .notText)

/-- The value that a file holds. -/
def load (files : Files) (subject : Subject) (read? : String → Option α) (path : String) :
    Except Failure α := do
  let text ← readText files subject path
  match read? text with
  | some v => .ok v
  | none => .error (.malformed subject path)

def loadExchanges (files : Files) (path : String) : Except Failure (List Exchange) :=
  load files .exchanges Exchange.readAll? path

def loadExpression (files : Files) (path : String) : Except Failure Query.Expression :=
  load files .expression Query.Expression.read? path

def loadScope (files : Files) (path : String) : Except Failure Scope := do
  let config ← load files .scope Scope.Config.read? path
  config.compile.mapError (.invalidScope path)

/-- Loads what an optional setting names. -/
def loadOptional (load : String → Except Failure α) : Option String → Except Failure (Option α)
  | none => .ok none
  | some path => (load path).map some

/-- Work on the output. It may fail, and what has been written by then stays written. -/
abbrev Writing := ExceptT Failure (StateM String)

def writeLine (text : String) : Writing Unit := modify fun written => written ++ (text ++ "\n")

/-- Writes the identifiers of the exchanges that pass a filter. -/
def runFilter (files : Files) (exchanges : String) (filter : Filter) (scope : Scope) :
    Writing Unit := do
  let all ← loadExchanges files exchanges
  let kept ← (filter.select scope all).mapError Failure.evaluation
  forM kept fun e => writeLine e.id.text

/-- Loads what a command names, and writes what it finds. -/
def Command.perform (files : Files) : Command → Writing Unit
  | .search exchanges expression => do
    let expression ← loadExpression files expression
    runFilter files exchanges ⟨false, some expression⟩ .empty
  | .scope exchanges rules => do
    let scope ← loadScope files rules
    runFilter files exchanges ⟨true, none⟩ scope
  | .filter exchanges rules expression => do
    let expression ← loadOptional (loadExpression files) expression
    let scope ← loadOptional (loadScope files) rules
    runFilter files exchanges ⟨scope.isSome, expression⟩ (scope.getD .empty)
  | .fields => do
    forM Query.Field.requestNames writeLine
    forM Query.Field.responseNames writeLine

/-- Sets up logging, then runs the command. -/
def Arguments.perform (files : Files) (a : Arguments) : Writing Unit := do
  if let some fault := a.logging.fault? then throw (.logging fault)
  a.command.perform files

/-- What has been written, on an output that was empty, and what went wrong. -/
def Writing.outcome (work : Writing Unit) : Outcome :=
  match work.run.run "" with
  | (.ok (), written) => ⟨written, none⟩
  | (.error failure, written) => ⟨written, some failure⟩

def Command.run (files : Files) (c : Command) : Outcome := (c.perform files).outcome

def Arguments.run (files : Files) (a : Arguments) : Outcome := (a.perform files).outcome

end CapturedTraffic.CommandLine
