import CapturedTraffic.Unicode.RangeSet

/-!
# Characters as ranges of bytes

The encoded forms of the characters in a set are a union of products: each is given by one range of
bytes for every place. The products come in the order of the characters, so that those that start
alike stand together.
-/
namespace CapturedTraffic.Pattern

open Unicode

/-- Encoded forms, by the first and the last byte for every place. -/
abbrev Product := List (Nat × Nat)

namespace Product

/-- The ranges of characters whose encoded forms have the same length, without half surrogates. -/
def lengthClasses : List (Nat × Nat) :=
  [(0, 0x7F), (0x80, 0x7FF), (0x800, 0xD7FF), (0xE000, 0xFFFF), (0x10000, lastCodePoint)]

def common (r s : Nat × Nat) : List (Nat × Nat) :=
  if max r.1 s.1 ≤ min r.2 s.2 then [(max r.1 s.1, min r.2 s.2)] else []

/-- Cuts off the blocks of the given width that a range fills in part only. -/
def cut (width : Nat) (r : Nat × Nat) : List (Nat × Nat) :=
  let (a, b) := r
  if a / width = b / width then [r]
  else
    let start := if a % width = 0 then a else (a / width + 1) * width
    let front := if a % width = 0 then [] else [(a, start - 1)]
    let stop := b / width * width
    if start / width = b / width || b % width = width - 1 then front ++ [(start, b)]
    else front ++ [(start, stop - 1), (stop, b)]

def bytesOf (c : Nat) : List Nat := (String.utf8EncodeChar (Char.ofNat c)).map UInt8.toNat

/-- The products for a range of characters with encoded forms of one length. -/
def ofLengthClass (r : Nat × Nat) : List Product :=
  if r.2 < 0x80 then [[r]]
  else
    (((cut 0x40 r).flatMap (cut 0x1000)).flatMap (cut 0x40000)).map fun (a, b) =>
      (bytesOf a).zip (bytesOf b)

def ofRange (r : Nat × Nat) : List Product :=
  (lengthClasses.flatMap (common r)).flatMap ofLengthClass

def ofSet (s : RangeSet) : List Product := s.runs.toList.flatMap ofRange

/-- The first ranges of some products, each with what follows it. -/
def ways : List Product → List ((Nat × Nat) × List Product)
  | [] => []
  | [] :: rest => ways rest
  | (r :: product) :: rest =>
    match ways rest with
    | (first, tails) :: more =>
      if r = first then (r, product :: tails) :: more else (r, [product]) :: (first, tails) :: more
    | [] => [(r, [product])]

/-- The products themselves and what is left of them after their first ranges, so many times. -/
def remainders : Nat → List Product → List (List Product)
  | 0, _ => []
  | depth + 1, products =>
    match ways products with
    | [] => []
    | found => products :: found.flatMap fun (_, tails) => remainders depth tails

/-- How many ranges at the front two products have in common. -/
def commonCount : Product → Product → Nat
  | r :: p, s :: q => if r = s then commonCount p q + 1 else 0
  | _, _ => 0

/-- How many fronts some products have, after one that stands before them. -/
def frontCount : Product → List Product → Nat
  | _, [] => 0
  | before, p :: rest => (p.length - commonCount before p) + frontCount p rest

end Product

end CapturedTraffic.Pattern
