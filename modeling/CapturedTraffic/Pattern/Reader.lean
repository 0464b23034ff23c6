import CapturedTraffic.Pattern.ClassReader

/-!
# Reading patterns

From the text of a pattern to its tree. Open groups wait on a stack, with what was read before
them; names of groups must not repeat, and the finished tree must not be nested too deeply.
-/
namespace CapturedTraffic.Pattern

/-- A group whose end has not been seen, with the sequence and the branches that it interrupts. -/
structure OpenGroup where
  captured : Bool
  changes : Changes
  verbose : Bool
  items : List Node
  branches : List Node

/-- What has been read; sequences and branches are kept last first. -/
structure Progress where
  verbose : Bool
  names : List (List Char)
  items : List Node
  branches : List Node
  stack : List OpenGroup

namespace Progress

def start : Progress := ⟨false, [], [], [], []⟩

def push (p : Progress) (node : Node) : Progress := { p with items := node :: p.items }

/-- The node for all branches of the innermost open group. -/
def body (p : Progress) : Node :=
  match p.branches with
  | [] => .ofItems p.items.reverse
  | branches => .alternation (Node.ofItems p.items.reverse :: branches).reverse

def nextBranch (p : Progress) : Progress :=
  { p with items := [], branches := Node.ofItems p.items.reverse :: p.branches }

def openGroup (p : Progress) (captured : Bool) (changes : Changes) : Progress :=
  { p with
    verbose := (changes.setting? .verbose).getD p.verbose
    items := []
    branches := []
    stack := ⟨captured, changes, p.verbose, p.items, p.branches⟩ :: p.stack }

def closeGroup? (p : Progress) : Option Progress :=
  match p.stack with
  | [] => none
  | g :: stack =>
    some { p with
      verbose := g.verbose
      items := .group g.captured g.changes p.body :: g.items
      branches := g.branches
      stack := stack }

/-- Applies flags to the rest of the innermost open group. -/
def change (p : Progress) (changes : Changes) : Progress :=
  { p with
    verbose := (changes.setting? .verbose).getD p.verbose
    items := .changes changes :: p.items }

/-- Repeats the last item. -/
def repeat? (p : Progress) (low : Nat) (high : Option Nat) : Option Progress :=
  match p.items with
  | node :: items =>
    if node.isRepeatable then some { p with items := .repetition low high node :: items } else none
  | [] => none

end Progress

/-- Reads a group name and opens the group, unless the name is taken. -/
def namedGroup? (p : Progress) (s : List Char) : Option (Progress × List Char) :=
  (groupName? [] s).bind fun (name, rest) =>
    if p.names.contains name then none
    else some ({ p.openGroup true [] with names := name :: p.names }, rest)

/-- Reads what follows an opening parenthesis. -/
def groupStart? (p : Progress) (s : List Char) : Option (Progress × List Char) :=
  match skip p.verbose s with
  | '?' :: '=' :: _ => none
  | '?' :: '!' :: _ => none
  | '?' :: '<' :: '=' :: _ => none
  | '?' :: '<' :: '!' :: _ => none
  | '?' :: 'P' :: '<' :: rest => namedGroup? p rest
  | '?' :: '<' :: rest => namedGroup? p rest
  | '?' :: rest => (flags? [] false false rest).bind fun (changes, last, rest) =>
      if last = ':' then some (p.openGroup false changes, rest)
      else if changes = [] then none
      else some (p.change changes, rest)
  | rest => some (p.openGroup true [], rest)

/-- Passes over the sign that makes a repetition lazy. -/
def skipLazy : List Char → List Char
  | '?' :: rest => rest
  | s => s

def tree? : Nat → Progress → List Char → Option Node
  | 0, _, _ => none
  | fuel + 1, p, s =>
    match skip p.verbose s with
    | [] => if p.stack.isEmpty then some p.body else none
    | '(' :: rest => (groupStart? p rest).bind fun (p, rest) => tree? fuel p rest
    | ')' :: rest => p.closeGroup?.bind fun p => tree? fuel p rest
    | '|' :: rest => tree? fuel p.nextBranch rest
    | '[' :: rest => (class? p.verbose rest).bind fun ((negated, body), rest) =>
        tree? fuel (p.push (.bracketed negated body)) rest
    | '?' :: rest => (p.repeat? 0 (some 1)).bind fun p => tree? fuel p (skipLazy rest)
    | '*' :: rest => (p.repeat? 0 none).bind fun p => tree? fuel p (skipLazy rest)
    | '+' :: rest => (p.repeat? 1 none).bind fun p => tree? fuel p (skipLazy rest)
    | '\x7b' :: rest => (bounds? p.verbose rest).bind fun ((low, high), rest) =>
        (p.repeat? low high).bind fun p' => tree? fuel p' (skipLazy (skip p.verbose rest))
    | s => (primitive? p.verbose s).bind fun (primitive, rest) =>
        tree? fuel (p.push primitive.toNode) rest

/-- The tree of a pattern; every round of reading takes at least one character. -/
def Node.read? (source : String) : Option Node :=
  let chars := source.toList
  (tree? (chars.length + 1) .start chars).filter fun node => node.depth ≤ maxNesting

end CapturedTraffic.Pattern
