import CapturedTraffic.Unicode.RangeSet

/-!
# Syntax of patterns

The tree of a regular expression as it is written. Preferences between greedy and lazy matches are
dropped, since a search here only asks whether some match exists.
-/
namespace CapturedTraffic.Pattern

open Unicode

inductive Flag
  | ignoreCase
  | multiLine
  | dotMatchesNewline
  | swapGreed
  | unicode
  | carriageReturns
  | verbose
  deriving DecidableEq, Repr

/-- Flags in the order written, each with whether it is switched on. -/
abbrev Changes := List (Flag × Bool)

/-- The last word of the changes on a flag, if they mention it. -/
def Changes.setting? (changes : Changes) (flag : Flag) : Option Bool :=
  (changes.find? (·.1 = flag)).map (·.2)

/-- A character, and whether it was written as the two hexadecimal digits of a byte. -/
structure Code where
  char : Char
  asByte : Bool
  deriving DecidableEq, Repr

inductive Assertion
  | startLine
  | endLine
  | startText
  | endText
  | boundary
  | notBoundary
  | wordStart
  | wordEnd
  | wordStartHalf
  | wordEndHalf
  deriving DecidableEq, Repr

/-- The classes with a one-letter escape. -/
inductive Shorthand
  | digit
  | space
  | word
  deriving DecidableEq, Repr

/-- A Unicode property by name, or by name and value. -/
structure Property where
  name : String
  value : Option String
  negated : Bool
  deriving DecidableEq, Repr

inductive SetOperator
  | intersection
  | difference
  | symmetricDifference
  deriving DecidableEq, Repr

inductive ClassExpr
  | literal (code : Code)
  | range (first last : Code)
  | ascii (members : RangeSet) (negated : Bool)
  | property (p : Property)
  | shorthand (kind : Shorthand) (negated : Bool)
  | bracketed (negated : Bool) (body : ClassExpr)
  | union (items : List ClassExpr)
  | binary (op : SetOperator) (left right : ClassExpr)

/-- The union of items, where one item stands for itself. -/
def ClassExpr.ofItems : List ClassExpr → ClassExpr
  | [item] => item
  | items => .union items

inductive Node
  | empty
  | literal (code : Code)
  | dot
  | assertion (kind : Assertion)
  | property (p : Property)
  | shorthand (kind : Shorthand) (negated : Bool)
  | bracketed (negated : Bool) (body : ClassExpr)
  | changes (flags : Changes)
  | repetition (low : Nat) (high : Option Nat) (body : Node)
  | group (captured : Bool) (flags : Changes) (body : Node)
  | alternation (branches : List Node)
  | concatenation (items : List Node)

namespace Node

def ofItems : List Node → Node
  | [] => .empty
  | [item] => item
  | items => .concatenation items

/-- Whether a repetition may follow. -/
def isRepeatable : Node → Bool
  | .empty => false
  | .changes _ => false
  | _ => true

end Node

mutual

def ClassExpr.depth : ClassExpr → Nat
  | .bracketed _ body => body.depth + 1
  | .union [] => 0
  | .union (item :: rest) => max item.depth (ClassExpr.depthOfAll rest) + 1
  | .binary _ left right => max left.depth right.depth + 1
  | _ => 0

def ClassExpr.depthOfAll : List ClassExpr → Nat
  | [] => 0
  | item :: rest => max item.depth (ClassExpr.depthOfAll rest)

end

mutual

/-- How deep groups, classes, repetitions and sequences are nested. -/
def Node.depth : Node → Nat
  | .bracketed _ body => body.depth + 1
  | .repetition _ _ body => body.depth + 1
  | .group _ _ body => body.depth + 1
  | .alternation branches => Node.depthOfAll branches + 1
  | .concatenation items => Node.depthOfAll items + 1
  | _ => 0

def Node.depthOfAll : List Node → Nat
  | [] => 0
  | item :: rest => max item.depth (Node.depthOfAll rest)

end

/-- The deepest nesting that a pattern may have. -/
def maxNesting : Nat := 250

end CapturedTraffic.Pattern
