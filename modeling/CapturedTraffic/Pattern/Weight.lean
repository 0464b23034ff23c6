import CapturedTraffic.Pattern.Form
import Std.Data.HashSet

/-!
# Weight

How many bytes the automata of an expression take, with its repetitions written out. There is one
that reads forwards and keeps track of groups, and one that reads backwards; an expression for which
either takes too many is refused.
-/
namespace CapturedTraffic.Pattern

namespace Weight

/-- Any state, without what it has in transitions and branches. -/
def state : Nat := 32

def transition : Nat := 8

def branch : Nat := 4

/-- A state with so many transitions. -/
def table (count : Nat) : Nat := state + transition * count

/-- A state that chooses between two others. -/
def fork : Nat := state + 2 * branch

/-- The most bytes that an automaton may take. -/
def limit : Nat := 10 * 2 ^ 20

/-- A class read forwards: products share their fronts, and states with like remainders are one. -/
def forwardClass (products : List Product) : Nat :=
  let remainders := (Std.HashSet.ofList (Product.remainders 4 products)).toList
  remainders.foldl (fun weight r => weight + table (Product.ways r).length) state

/-- A class read backwards: a choice of all products, which share their ends only. -/
def backwardClass (products : List Product) : Nat :=
  state * (2 + Product.frontCount [] products) + branch * products.length

/-- A class is one state with its end, if it is ASCII or one of bytes. -/
def ofClass (backward ofChars : Bool) (set : Unicode.RangeSet) : Nat :=
  if !ofChars || set.below 0x7F then state + table set.runs.size
  else if backward then backwardClass (Product.ofSet set)
  else forwardClass (Product.ofSet set)

/-- The literals at a node of a tree, in stretches that literals ending there separate. -/
def stretches : List (List Nat) → List (List (List Nat))
  | [] => [[]]
  | [] :: rest => [] :: stretches rest
  | first :: rest =>
    match stretches rest with
    | [] => [[first]]
    | stretch :: more => (first :: stretch) :: more

/-- Literals grouped by their first byte, without it. -/
def byFirst (literals : List (List Nat)) : List (List (List Nat)) :=
  (literals.filterMap List.head?).eraseDups.map fun b =>
    (literals.filter fun s => s.head? == some b).map (List.drop 1)

/--
A tree of literals, at most so deep. A node is a choice of its stretches with the end of the tree
between them; of the ends before the first stretch one is kept.
-/
def tree : Nat → List (List Nat) → Nat
  | 0, _ => 0
  | depth + 1, literals =>
    if literals.all List.isEmpty then 0
    else
      let ends := literals.takeWhile List.isEmpty
      let parts := stretches (ends.take 1 ++ literals.drop ends.length)
      let groups := (parts.map byFirst).filter (!·.isEmpty)
      let tables := groups.map fun group => if group.length = 1 then state else table group.length
      state + branch * (groups.length + parts.length - 1) + tables.sum +
        (groups.flatten.map (tree depth)).sum

/-- A choice of literals. -/
def ofLiterals (backward : Bool) (literals : List (List Nat)) : Nat :=
  let literals := if backward then literals.map List.reverse else literals
  state + tree (literals.flatten.length + 1) literals

/-- So many copies of a body; no copy at all still needs a state. -/
def copies (body n : Nat) : Nat := if n = 0 then state else n * body

/-- A body that takes no bytes needs two choices to be repeated without a bound. -/
def ofRepetition (takesBytes : Bool) (body low : Nat) : Option Nat → Nat
  | some high =>
    if low = 0 ∧ high = 1 then fork + body + state
    else if low = high then copies body low
    else copies body low + state + (high - low) * (fork + body)
  | none =>
    if low ≠ 0 then low * body + fork
    else if takesBytes then fork + body
    else body + 2 * fork + state

/-- The start of an automaton: a loop over any bytes, unless a match can only be at one place. -/
def start (anchored : Bool) : Nat := if anchored then state else fork + state + table 1

end Weight

namespace Form

open Weight

mutual

/-- The bytes that a form takes in an automaton. -/
def weight (backward : Bool) : Form → Nat
  | empty => state
  | literal bytes => state * bytes.length
  | oneOf ofChars set => ofClass backward ofChars set
  | look _ => state
  | repeated low high body =>
    ofRepetition (body.minLength?.any (0 < ·)) (body.weight backward) low high
  | captured body => if backward then body.weight backward else body.weight backward + 2 * state
  | sequence items => weightOfAll backward items
  | choice branches =>
    match branches.mapM literal? with
    | some literals => ofLiterals backward literals
    | none => weightOfAll backward branches + 2 * state + branch * branches.length

def weightOfAll (backward : Bool) : List Form → Nat
  | [] => 0
  | f :: rest => f.weight backward + weightOfAll backward rest

end

/-- The automaton that reads forwards, where the whole expression is a group too. -/
def forwardWeight (f : Form) : Nat := start f.startsAtStart + f.weight false + 3 * state

def backwardWeight (f : Form) : Nat := start f.stopsAtStop + f.weight true + state

/-- From so many literals on, no automaton is needed for a choice between them. -/
def manyLiterals : Nat := 3000

def isPlainChoice : Form → Bool
  | choice branches => manyLiterals ≤ branches.length && branches.all (·.literal?.isSome)
  | _ => false

def fits (f : Form) : Bool :=
  f.isPlainChoice || (f.forwardWeight ≤ limit && f.backwardWeight ≤ limit)

end Form

end CapturedTraffic.Pattern
