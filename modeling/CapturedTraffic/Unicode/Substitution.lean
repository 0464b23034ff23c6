import CapturedTraffic.Unicode.RangeSet

/-!
# Substitutions

Tables that replace code points by short sequences of others, such as decompositions.
-/
namespace CapturedTraffic.Unicode

/-- Replaces every code point of a run, at the given stride; a longer text replaces one alone. -/
structure Substitution where
  first : Nat
  last : Nat
  stride : Nat
  target : List Nat
  deriving DecidableEq, Repr

namespace Substitution

/-- The replacement of a member: the target moves along with the place in the run. -/
def image? (s : Substitution) (c : Nat) : Option (List Nat) :=
  if s.first ≤ c ∧ c ≤ s.last ∧ (c - s.first) % s.stride = 0 then
    some (s.target.map (· + (c - s.first)))
  else none

/-- Binary search for the last entry that starts at or before a code point. -/
def search (table : Array Substitution) (c lo hi : Nat) (bound : hi ≤ table.size) :
    Option (List Nat) :=
  if h : lo < hi then
    let middle := (lo + hi) / 2
    have inside : middle < table.size := by omega
    if c < table[middle].first then search table c lo middle (by omega)
    else (search table c (middle + 1) hi bound).or (table[middle].image? c)
  else none
termination_by hi - lo

/-- The replacement of a code point in a table sorted by first member. -/
def find? (table : Array Substitution) (c : Nat) : Option (List Nat) :=
  search table c 0 table.size (Nat.le_refl _)

/-- Reads hexadecimal numbers with the character that stands after each of them. -/
def readItems (value : Nat) (started : Bool) : List Char → List (Nat × Char)
  | [] => if started then [(value, ' ')] else []
  | c :: rest =>
    match RangeSet.hexDigit? c with
    | some d => readItems (16 * value + d) true rest
    | none => if started then (value, c) :: readItems 0 false rest else readItems 0 false rest

/-- Collects numbers into entries: the source up to the equals sign, then the target. -/
def assemble (source : List Nat) (stride : Nat) (target : List Nat) :
    List (Nat × Char) → List Substitution
  | [] => []
  | (n, '-') :: rest => assemble [n] 1 [] rest
  | (n, ':') :: rest => assemble [n] 2 [] rest
  | (n, '=') :: rest => assemble (source ++ [n]) stride [] rest
  | (n, '+') :: rest => assemble source stride (target ++ [n]) rest
  | (n, _) :: rest =>
    let entry : Substitution :=
      ⟨source.headD 0, source.getLastD 0, stride, target ++ [n]⟩
    entry :: assemble [] 1 [] rest

/--
A table from entries between blanks. A source is a code point, or the ends of a run with a hyphen,
or with a colon for every second one; after an equals sign come the code points of the target.
-/
def table (text : String) : Array Substitution :=
  (assemble [] 1 [] (readItems 0 false text.toList)).toArray

end Substitution

end CapturedTraffic.Unicode
