import CapturedTraffic.Json.Printer
import CapturedTraffic.Json.Reader
import CapturedTraffic.Logging.Directive
import CapturedTraffic.Unicode.Lowercase

/-!
# Logging configuration

How much the program logs, and in which form: one level for all, and levels of single modules.
-/
namespace CapturedTraffic.Logging

open Json Text

def levels : List String := ["trace", "debug", "info", "warn", "error"]

def isLevel (s : String) : Bool := levels.contains (Unicode.lowercase s)

structure Config where
  level : String
  jsonFormat : Bool
  includeFileInfo : Bool
  moduleLevels : Table String
  deriving DecidableEq, Repr

/-- Why a configuration is refused. -/
inductive Fault
  | invalidLevel (level : String)
  | invalidDirective (directive : String)
  deriving DecidableEq, Repr

def Fault.message : Fault → String
  | invalidLevel level => "Invalid log level: " ++ level
  | invalidDirective directive => "Invalid log directive: " ++ directive

namespace Config

/-- The modules of the program speak a little more than the others. -/
def default : Config :=
  ⟨"warn", false, false, .ofEntries [("reqlog_cli", "info"), ("reqlog_core", "info")]⟩

/-- One level for all modules. -/
def withLevel (level : String) (jsonFormat : Bool) : Config := ⟨level, jsonFormat, false, .empty⟩

def directives (c : Config) : List String :=
  c.moduleLevels.entries.map fun (name, level) => name ++ "=" ++ level

/-- The first thing in the configuration that is refused, the level before the directives. -/
def fault? (c : Config) : Option Fault :=
  if isLevel c.level then
    (c.directives.find? fun d => !Directive.accepts d.toList).map .invalidDirective
  else some (.invalidLevel c.level)

def toJson (c : Config) : Value :=
  .object [(some "level", .text (some c.level)),
    (some "json_format", .boolean c.jsonFormat),
    (some "include_file_info", .boolean c.includeFileInfo),
    (some "module_levels", .object (c.moduleLevels.entries.map fun (name, level) =>
      (some name, .text (some level))))]

def ofFields? (depth : Nat) : List (Option Value) → Option Config
  | [level, jsonFormat, includeFileInfo, moduleLevels] => do
    let level ← Reader.required Reader.text depth level
    let jsonFormat ← Reader.required Reader.boolean depth jsonFormat
    let includeFileInfo ← Reader.required Reader.boolean depth includeFileInfo
    let moduleLevels ← Reader.required (Reader.table Reader.text) depth moduleLevels
    some ⟨level, jsonFormat, includeFileInfo, moduleLevels⟩
  | _ => none

def reader : Reader Config :=
  Reader.fields [("level", .forbidden), ("json_format", .forbidden),
    ("include_file_info", .forbidden), ("module_levels", .forbidden)] ofFields?

def read? (text : String) : Option Config := Json.read? reader text

end Config

end CapturedTraffic.Logging
