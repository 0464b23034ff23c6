import CapturedTraffic.Json.Reader

/-!
# Operators

The operators of the query language, with their sign in a query and their name in JSON. An operator
is a mere token: whether it makes sense where it stands is found out by evaluation.
-/
namespace CapturedTraffic.Query

open Json

inductive Operator
  | not
  | and
  | or
  | equal
  | notEqual
  | greater
  | less
  | greaterOrEqual
  | lessOrEqual
  | matching
  | notMatching
  deriving DecidableEq, Repr

namespace Operator

def all : List Operator :=
  [not, and, or, equal, notEqual, greater, less, greaterOrEqual, lessOrEqual, matching, notMatching]

def sign : Operator → String
  | not => "NOT"
  | and => "AND"
  | or => "OR"
  | equal => "="
  | notEqual => "!="
  | greater => ">"
  | less => "<"
  | greaterOrEqual => ">="
  | lessOrEqual => "<="
  | matching => "=~"
  | notMatching => "!~"

def name : Operator → String
  | not => "not"
  | and => "and"
  | or => "or"
  | equal => "eq"
  | notEqual => "not_eq"
  | greater => "gt"
  | less => "lt"
  | greaterOrEqual => "gt_eq"
  | lessOrEqual => "lt_eq"
  | matching => "re"
  | notMatching => "not_re"

def ofName? (name : String) : Option Operator := all.find? (·.name = name)

theorem mem_all (op : Operator) : op ∈ all := by cases op <;> decide

theorem ofName?_name (op : Operator) : ofName? op.name = some op := by cases op <;> decide

def toJson (op : Operator) : Value := .text (some op.name)

/-- Reads a name, alone or as the only key of an object that holds null. -/
def reader : Reader Operator
  | _, .text (some name) => ofName? name
  | _ + 1, .object [(some name, .null)] => ofName? name
  | _, _ => none

end Operator

end CapturedTraffic.Query
