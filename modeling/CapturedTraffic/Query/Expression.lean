import CapturedTraffic.Json.Printer
import CapturedTraffic.Pattern.Basic
import CapturedTraffic.Query.Operator
import CapturedTraffic.Text.Quoted

/-!
# Search expressions

Trees of operators over literals and patterns, with their text form and their JSON form. Any
operator may stand at any node.
-/
namespace CapturedTraffic.Query

open Json Text

/-- A pattern kept with the text that it was compiled from. -/
structure SearchPattern where
  source : String
  pattern : Pattern
  compiled : Pattern.compile .text source = .ok pattern
  deriving DecidableEq

def SearchPattern.compile (source : String) : Except Pattern.Fault SearchPattern :=
  match h : Pattern.compile .text source with
  | .ok pattern => .ok ⟨source, pattern, h⟩
  | .error fault => .error fault

inductive Expression
  | prefixOp (op : Operator) (right : Expression)
  | infixOp (op : Operator) (left right : Expression)
  | literal (text : String)
  | regex (pattern : SearchPattern)
  deriving DecidableEq

/-- The shape of a node, as messages name it. -/
inductive Kind
  | prefixOp
  | infixOp
  | literal
  | regex
  deriving DecidableEq, Repr

def Kind.text : Kind → String
  | prefixOp => "prefix expression"
  | infixOp => "infix expression"
  | literal => "string literal"
  | regex => "regular expression"

namespace Expression

def kind : Expression → Kind
  | prefixOp .. => .prefixOp
  | infixOp .. => .infixOp
  | literal _ => .literal
  | regex _ => .regex

def negation (e : Expression) : Expression := prefixOp .not e

def conjunction (a b : Expression) : Expression := infixOp .and a b

def disjunction (a b : Expression) : Expression := infixOp .or a b

/-- The most operators on a way from the root to a leaf. -/
def height : Expression → Nat
  | prefixOp _ right => right.height + 1
  | infixOp _ left right => max left.height right.height + 1
  | literal _ => 0
  | regex _ => 0

/-- Operators of two operands stand in parentheses, literals in quotes, patterns between slashes. -/
def chars : Expression → List Char
  | prefixOp op right => op.sign.toList ++ ' ' :: right.chars
  | infixOp op left right =>
    '(' :: left.chars ++ ' ' :: op.sign.toList ++ ' ' :: right.chars ++ [')']
  | literal text => Quoted.write text.toList
  | regex pattern => '/' :: pattern.source.toList ++ ['/']

def text (e : Expression) : String := String.ofList e.chars

def toJson : Expression → Value
  | prefixOp op right =>
    .object [(some "prefix", .object [(some "operator", op.toJson), (some "right", right.toJson)])]
  | infixOp op left right =>
    .object [(some "infix", .object [(some "operator", op.toJson), (some "left", left.toJson),
      (some "right", right.toJson)])]
  | literal text => .object [(some "string_literal", .text (some text))]
  | regex pattern => .object [(some "regex", .text (some pattern.source))]

def prefixFields : List (String × Reader.Absence) :=
  [("operator", .forbidden), ("right", .forbidden)]

def infixFields : List (String × Reader.Absence) :=
  [("operator", .forbidden), ("left", .forbidden), ("right", .forbidden)]

/-- An operator is written as an object inside an object, so it takes two levels of nesting. -/
def reader : Reader Expression
  | depth + 1, .object [(some tag, v)] =>
    if tag = "string_literal" then (Reader.text depth v).map literal
    else if tag = "regex" then
      (Reader.text depth v).bind fun source => (SearchPattern.compile source).toOption.map regex
    else
      match depth with
      | inner + 1 =>
        if tag = "prefix" then
          match Reader.record? prefixFields v with
          | some [some op, some right] => do
            let op ← Operator.reader inner op
            let right ← reader inner right
            some (prefixOp op right)
          | _ => none
        else if tag = "infix" then
          match Reader.record? infixFields v with
          | some [some op, some left, some right] => do
            let op ← Operator.reader inner op
            let left ← reader inner left
            let right ← reader inner right
            some (infixOp op left right)
          | _ => none
        else none
      | 0 => none
  | _, _ => none

def read? (text : String) : Option Expression := Json.read? reader text

end Expression

end CapturedTraffic.Query
