/-!
# Sets of code points

A set is kept as its maximal runs of consecutive members, in order. Character classes of patterns,
the Unicode tables and the checks on host names all share this representation.
-/
namespace CapturedTraffic.Unicode

def lastCodePoint : Nat := 0x10FFFF

structure RangeSet where
  runs : Array (Nat × Nat)
  deriving DecidableEq, Inhabited, Repr

namespace RangeSet

def empty : RangeSet := ⟨#[]⟩

def all : RangeSet := ⟨#[(0, lastCodePoint)]⟩

/-- Joins overlapping and touching runs of a list that is sorted by first member. -/
def coalesce : List (Nat × Nat) → List (Nat × Nat)
  | [] => []
  | [run] => [run]
  | (a, b) :: (c, d) :: rest =>
    if c ≤ b + 1 then coalesce ((a, max b d) :: rest) else (a, b) :: coalesce ((c, d) :: rest)
termination_by runs => runs.length

/-- The set of all members of the given runs, which may overlap and come in any order. -/
def ofList (runs : List (Nat × Nat)) : RangeSet :=
  ⟨(coalesce (runs.mergeSort fun x y => x.1 ≤ y.1)).toArray⟩

def single (c : Nat) : RangeSet := ⟨#[(c, c)]⟩

/-- Binary search for a run that holds `c` among those from `lo` up to `hi`. -/
def search (runs : Array (Nat × Nat)) (c lo hi : Nat) (bound : hi ≤ runs.size) : Bool :=
  if h : lo < hi then
    let middle := (lo + hi) / 2
    have inside : middle < runs.size := by omega
    if c < runs[middle].1 then search runs c lo middle (by omega)
    else if runs[middle].2 < c then search runs c (middle + 1) hi bound
    else true
  else false
termination_by hi - lo

def contains (s : RangeSet) (c : Nat) : Bool := search s.runs c 0 s.runs.size (Nat.le_refl _)

def containsChar (s : RangeSet) (c : Char) : Bool := s.contains c.toNat

def isEmpty (s : RangeSet) : Bool := s.runs.isEmpty

def union (s t : RangeSet) : RangeSet :=
  if s.isEmpty then t else if t.isEmpty then s else ofList (s.runs.toList ++ t.runs.toList)

def unions (sets : List RangeSet) : RangeSet := ofList (sets.flatMap (·.runs.toList))

/-- The runs between the given ones, from `first` to `last`. -/
def gaps (last : Nat) : Nat → List (Nat × Nat) → List (Nat × Nat)
  | first, [] => if first ≤ last then [(first, last)] else []
  | first, (a, b) :: rest =>
    if first < a then (first, a - 1) :: gaps last (b + 1) rest else gaps last (b + 1) rest

/-- The numbers from zero to `last` that are not in the set. -/
def complement (s : RangeSet) (last : Nat) : RangeSet := ⟨(gaps last 0 s.runs.toList).toArray⟩

def intersection (s t : RangeSet) : RangeSet :=
  ((s.complement lastCodePoint).union (t.complement lastCodePoint)).complement lastCodePoint

def difference (s t : RangeSet) : RangeSet := s.intersection (t.complement lastCodePoint)

def symmetricDifference (s t : RangeSet) : RangeSet := (s.difference t).union (t.difference s)

/-- Whether no member exceeds `bound`. -/
def below (s : RangeSet) (bound : Nat) : Bool := s.runs.all fun (_, b) => b ≤ bound

def hexDigit? (c : Char) : Option Nat :=
  if '0' ≤ c ∧ c ≤ '9' then some (c.toNat - 48)
  else if 'A' ≤ c ∧ c ≤ 'F' then some (c.toNat - 55)
  else if 'a' ≤ c ∧ c ≤ 'f' then some (c.toNat - 87)
  else none

/-- What has been read of a run: its bounds, and whether it takes every second member only. -/
structure Item where
  first : Option Nat
  second : Bool
  value : Nat

/-- The runs that a finished item stands for. -/
def Item.close (p : Item) : List (Nat × Nat) :=
  match p.first with
  | none => [(p.value, p.value)]
  | some a =>
    if p.second then (List.range ((p.value - a) / 2 + 1)).map fun i => (a + 2 * i, a + 2 * i)
    else [(a, p.value)]

def readRuns : List Char → Option Item → List (Nat × Nat)
  | [], none => []
  | [], some p => p.close
  | c :: rest, state =>
    match hexDigit? c, state with
    | some d, none => readRuns rest (some ⟨none, false, d⟩)
    | some d, some p => readRuns rest (some { p with value := 16 * p.value + d })
    | none, none => readRuns rest none
    | none, some p =>
      if c = '-' then readRuns rest (some ⟨some p.value, false, 0⟩)
      else if c = ':' then readRuns rest (some ⟨some p.value, true, 0⟩)
      else p.close ++ readRuns rest none

/--
The set written as hexadecimal items between blanks: a code point, a run as its two ends with a
hyphen, or every second code point of a run as its two ends with a colon.
-/
def ofText (text : String) : RangeSet := ofList (readRuns text.toList none)

end RangeSet

end CapturedTraffic.Unicode
