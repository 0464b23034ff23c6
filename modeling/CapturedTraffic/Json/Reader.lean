import CapturedTraffic.Json.Value
import CapturedTraffic.Text.Table

/-!
# Reading JSON into records

A reader takes a value, and the number of containers that it may still enter, one inside another.
Records are read from objects or from arrays in field order. Entries under unknown keys are passed
over without being entered, so nothing inside them counts.
-/
namespace CapturedTraffic.Json

open Text

/-- How many containers may stand inside one another in what is read. -/
def maxDepth : Nat := 127

abbrev Reader (α : Type) := Nat → Value → Option α

namespace Reader

def text : Reader String
  | _, .text s => s
  | _, _ => none

def boolean : Reader Bool
  | _, .boolean b => some b
  | _, _ => none

def natural (bound : Nat) : Reader Nat
  | _, .natural n => if n < bound then some n else none
  | _, _ => none

/-- A value or null. -/
def optional (reader : Reader α) : Reader (Option α)
  | _, .null => some none
  | depth, v => (reader depth v).map some

def list (reader : Reader α) : Reader (List α)
  | depth + 1, .array items => items.mapM (reader depth)
  | _, _ => none

/-- The keys that can be read, with their values; `none` if some key cannot. -/
def entries? (entries : List (Option String × Value)) : Option (List (String × Value)) :=
  entries.mapM fun (key, v) => key.map (·, v)

/-- An object as a table, where a repeated key keeps its last value. -/
def table (reader : Reader α) : Reader (Table α)
  | depth + 1, .object entries => (entries? entries).bind fun known =>
      (known.mapM fun e => (reader depth e.2).map (e.1, ·)).map Table.ofEntries
  | _, _ => none

/-- What a missing field means: an error, its default, or its default in an object only. -/
inductive Absence
  | forbidden
  | defaulted
  | defaultedInObject
  deriving DecidableEq, Repr

/-- The one value given for a key, `some none` if there is none. -/
def unique? (known : List (String × Value)) (name : String) (absence : Absence) :
    Option (Option Value) :=
  match known.filter (·.1 = name) with
  | [] => if absence = .forbidden then none else some none
  | [(_, v)] => some (some v)
  | _ => none

/-- The values of an array in field order. -/
def positional? : List (String × Absence) → List Value → Option (List (Option Value))
  | [], [] => some []
  | [], _ :: _ => none
  | (_, absence) :: fields, [] =>
    if absence = .defaulted then (positional? fields []).map (none :: ·) else none
  | _ :: fields, v :: rest => (positional? fields rest).map (some v :: ·)

/-- The values of the listed fields, `none` for those left out. -/
def record? (names : List (String × Absence)) : Value → Option (List (Option Value))
  | .object entries => (entries? entries).bind fun known =>
      names.mapM fun (name, absence) => unique? known name absence
  | .array items => positional? names items
  | _ => none

/-- A record with these fields, for a reader of their contents. -/
def fields (names : List (String × Absence)) (inner : Nat → List (Option Value) → Option α) :
    Reader α
  | depth + 1, v => (record? names v).bind (inner depth)
  | 0, _ => none

/-- A field's value, or the default where it was left out. -/
def orElse (reader : Reader α) (default : α) (depth : Nat) : Option Value → Option α
  | none => some default
  | some v => reader depth v

def required (reader : Reader α) (depth : Nat) : Option Value → Option α
  | none => none
  | some v => reader depth v

/-- An object with one entry, whose key names an alternative. -/
def tagged (inner : Nat → String → Value → Option α) : Reader α
  | depth + 1, .object [(some tag, v)] => inner depth tag v
  | _, _ => none

end Reader

/-- Reads a whole text. -/
def read? (reader : Reader α) (text : String) : Option α :=
  (Value.parse? text).bind (reader maxDepth)

end CapturedTraffic.Json
