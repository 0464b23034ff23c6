import CapturedTraffic.Json.Printer
import CapturedTraffic.Json.Reader
import CapturedTraffic.Scope.Basic

/-!
# Scope configurations

A scope as it is written down: patterns as plain texts. Compiling stops at the first pattern that
is refused, in the order of the rules and, within a rule, URL, header name, header value, body.
-/
namespace CapturedTraffic.Scope

open Json

structure HeaderConfig where
  key : Option String
  value : Option String
  deriving DecidableEq, Repr

inductive BodyConfig
  | regex (source : String)
  | contains (needle : String)
  deriving DecidableEq, Repr

structure RuleConfig where
  url : Option String
  header : Option HeaderConfig
  body : Option BodyConfig
  deriving DecidableEq, Repr

structure Config where
  rules : List RuleConfig
  deriving DecidableEq, Repr

/-- The place of a pattern in a rule. -/
inductive Place
  | url
  | headerKey
  | headerValue
  | body
  deriving DecidableEq, Repr

def Place.text : Place → String
  | url => "url"
  | headerKey => "header.key"
  | headerValue => "header.value"
  | body => "body"

/-- A pattern that was refused, and where it stands. -/
structure InvalidPattern where
  rule : Nat
  place : Place
  pattern : String
  fault : Pattern.Fault
  deriving DecidableEq, Repr

/-- The message, up to the explanation of the fault. -/
def InvalidPattern.message (p : InvalidPattern) : String :=
  "scope rule " ++ String.ofList (Text.Decimal.digits p.rule) ++ ": invalid " ++ p.place.text
    ++ " pattern '" ++ p.pattern ++ "': "

/-- Compiles the pattern at a place, if there is one. -/
def compileAt (rule : Nat) (place : Place) (mode : Pattern.Mode) :
    Option String → Except InvalidPattern (Option Pattern)
  | none => .ok none
  | some source =>
    match Pattern.compile mode source with
    | .ok p => .ok (some p)
    | .error fault => .error ⟨rule, place, source, fault⟩

def BodyConfig.compile (rule : Nat) : BodyConfig → Except InvalidPattern BodyMatcher
  | regex source =>
    match Pattern.compile .bytes source with
    | .ok p => .ok (.regex p)
    | .error fault => .error ⟨rule, .body, source, fault⟩
  | contains needle => .ok (.contains (Text.Utf8.encode needle))

namespace RuleConfig

def key (r : RuleConfig) : Option String := r.header.bind HeaderConfig.key

def value (r : RuleConfig) : Option String := r.header.bind HeaderConfig.value

def compileBody (rule : Nat) : Option BodyConfig → Except InvalidPattern (Option BodyMatcher)
  | none => .ok none
  | some body => (body.compile rule).map some

def compile (rule : Nat) (r : RuleConfig) : Except InvalidPattern Rule := do
  let url ← compileAt rule .url .text r.url
  let key ← compileAt rule .headerKey .name r.key
  let value ← compileAt rule .headerValue .text r.value
  let body ← compileBody rule r.body
  .ok ⟨url, ⟨key, value⟩, body⟩

end RuleConfig

/-- Compiles rules that are numbered from `first` on. -/
def compileFrom (first : Nat) : List RuleConfig → Except InvalidPattern (List Rule)
  | [] => .ok []
  | r :: rest => do
    let rule ← r.compile first
    let rules ← compileFrom (first + 1) rest
    .ok (rule :: rules)

def Config.compile (c : Config) : Except InvalidPattern Scope :=
  (compileFrom 0 c.rules).map Scope.mk

/-- The entry of a field, left out where the field is absent. -/
def entry (name : String) (v : Option Value) : List (Option String × Value) :=
  (v.map fun v => (some name, v)).toList

def textJson (s : String) : Value := .text (some s)

namespace HeaderConfig

def toJson (h : HeaderConfig) : Value :=
  .object (entry "key" (h.key.map textJson) ++ entry "value" (h.value.map textJson))

def ofFields? (depth : Nat) : List (Option Value) → Option HeaderConfig
  | [key, value] => do
    let key ← Reader.orElse (Reader.optional Reader.text) none depth key
    let value ← Reader.orElse (Reader.optional Reader.text) none depth value
    some ⟨key, value⟩
  | _ => none

def reader : Reader HeaderConfig :=
  Reader.fields [("key", .defaulted), ("value", .defaulted)] ofFields?

end HeaderConfig

namespace BodyConfig

def toJson : BodyConfig → Value
  | regex source => .object [(some "regex", textJson source)]
  | contains needle => .object [(some "contains", textJson needle)]

def reader : Reader BodyConfig :=
  Reader.tagged fun depth tag v =>
    if tag = "regex" then (Reader.text depth v).map regex
    else if tag = "contains" then (Reader.text depth v).map contains
    else none

end BodyConfig

namespace RuleConfig

def toJson (r : RuleConfig) : Value :=
  .object (entry "url" (r.url.map textJson) ++ entry "header" (r.header.map HeaderConfig.toJson)
    ++ entry "body" (r.body.map BodyConfig.toJson))

def ofFields? (depth : Nat) : List (Option Value) → Option RuleConfig
  | [url, header, body] => do
    let url ← Reader.orElse (Reader.optional Reader.text) none depth url
    let header ← Reader.orElse (Reader.optional HeaderConfig.reader) none depth header
    let body ← Reader.orElse (Reader.optional BodyConfig.reader) none depth body
    some ⟨url, header, body⟩
  | _ => none

def reader : Reader RuleConfig :=
  Reader.fields [("url", .defaulted), ("header", .defaulted), ("body", .defaulted)] ofFields?

end RuleConfig

namespace Config

def toJson (c : Config) : Value := .object [(some "rules", .array (c.rules.map RuleConfig.toJson))]

def ofFields? (depth : Nat) : List (Option Value) → Option Config
  | [rules] => (Reader.orElse (Reader.list RuleConfig.reader) [] depth rules).map Config.mk
  | _ => none

def reader : Reader Config := Reader.fields [("rules", .defaulted)] ofFields?

def read? (text : String) : Option Config := Json.read? reader text

end Config

/-- Why a configuration gives no scope. -/
inductive ConfigFault
  | malformed
  | invalidPattern (p : InvalidPattern)
  deriving DecidableEq, Repr

/-- The scope of a configuration given as text. -/
def ofText (text : String) : Except ConfigFault Scope :=
  match Config.read? text with
  | none => .error .malformed
  | some config => config.compile.mapError .invalidPattern

end CapturedTraffic.Scope
