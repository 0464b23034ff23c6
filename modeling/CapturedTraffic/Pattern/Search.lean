import CapturedTraffic.Pattern.Regex
import CapturedTraffic.Text.Utf8
import CapturedTraffic.Unicode.Property

/-!
# Searching

Whether an expression matches somewhere in a sequence of bytes. Sets of places are kept as the bits
of a number, and an expression leads the places where it may start to those where it may end. No
choice is ever undone, so the work is bounded by the sizes of the expression and of the bytes.
-/
namespace CapturedTraffic.Pattern

open Unicode Text

/-- The bytes to be searched, with the character that starts at each place, if a whole one does. -/
structure Haystack where
  bytes : Array UInt8
  chars : Array (Option (Nat × Nat))

namespace Haystack

/-- The character at the front of some bytes, with its length. -/
def charAt? : Nat → Option Utf8.Pending → List UInt8 → Option (Nat × Nat)
  | _, _, [] => none
  | count, state, b :: rest =>
    match Utf8.step state b.toNat with
    | ([some c], none) => some (c.toNat, count + 1)
    | ([], some pending) => charAt? (count + 1) (some pending) rest
    | _ => none

def charsOf (before : Array (Option (Nat × Nat))) : List UInt8 → Array (Option (Nat × Nat))
  | [] => before
  | b :: rest => charsOf (before.push (charAt? 0 none (b :: rest))) rest

def ofBytes (bytes : List UInt8) : Haystack := ⟨bytes.toArray, charsOf #[] bytes⟩

def size (h : Haystack) : Nat := h.bytes.size

def byteAt? (h : Haystack) (i : Nat) : Option Nat := h.bytes[i]?.map UInt8.toNat

def byteBefore? (h : Haystack) (i : Nat) : Option Nat := if i = 0 then none else h.byteAt? (i - 1)

def charFrom? (h : Haystack) (i : Nat) : Option Nat := (h.chars[i]?.join).map (·.1)

def isContinuation (h : Haystack) (i : Nat) : Bool :=
  match h.byteAt? i with
  | some b => 0x80 ≤ b && b < 0xC0
  | none => false

/-- The last place before `i + 1`, but not before `limit`, that no continuation byte holds. -/
def leadFrom (h : Haystack) (limit : Nat) : Nat → Nat
  | 0 => 0
  | i + 1 => if limit < i && h.isContinuation i then leadFrom h limit i else i

/-- The character found by going back from `i` over at most three continuation bytes. -/
def charBefore? (h : Haystack) (i : Nat) : Option Nat :=
  let lead := h.leadFrom (i - 4) i
  match h.chars[lead]?.join with
  | some (c, length) => if lead + length ≤ i then some c else none
  | none => none

def isWordByte (b : Nat) : Bool :=
  (48 ≤ b && b ≤ 57) || (65 ≤ b && b ≤ 90) || b == 95 || (97 ≤ b && b ≤ 122)

def isWordChar (c : Nat) : Bool := if c < 128 then isWordByte c else Property.word.contains c

def wordBefore (h : Haystack) (unicode : Bool) (i : Nat) : Bool :=
  if unicode then (h.charBefore? i).any isWordChar else (h.byteBefore? i).any isWordByte

def wordAfter (h : Haystack) (unicode : Bool) (i : Nat) : Bool :=
  if unicode then (h.charFrom? i).any isWordChar else (h.byteAt? i).any isWordByte

/-- Whether what precedes a place is known: the start, a character, or any byte without Unicode. -/
def soundBefore (h : Haystack) (unicode : Bool) (i : Nat) : Bool :=
  !unicode || i = 0 || (h.charBefore? i).isSome

def soundAfter (h : Haystack) (unicode : Bool) (i : Nat) : Bool :=
  !unicode || i = h.size || (h.charFrom? i).isSome

def newline : Nat := 10

def carriageReturn : Nat := 13

def satisfies (h : Haystack) (i : Nat) : Look → Bool
  | .start => i = 0
  | .stop => i = h.size
  | .lineStart => i = 0 || h.byteBefore? i = some newline
  | .lineStop => i = h.size || h.byteAt? i = some newline
  | .crlfLineStart =>
    i = 0 || h.byteBefore? i = some newline ||
      (h.byteBefore? i = some carriageReturn && h.byteAt? i != some newline)
  | .crlfLineStop =>
    i = h.size || h.byteAt? i = some carriageReturn ||
      (h.byteAt? i = some newline && h.byteBefore? i != some carriageReturn)
  | .boundary unicode => h.wordBefore unicode i != h.wordAfter unicode i
  | .notBoundary unicode =>
    h.soundBefore unicode i && h.soundAfter unicode i &&
      h.wordBefore unicode i == h.wordAfter unicode i
  | .wordStart unicode => !h.wordBefore unicode i && h.wordAfter unicode i
  | .wordStop unicode => h.wordBefore unicode i && !h.wordAfter unicode i
  | .wordStartHalf unicode => h.soundBefore unicode i && !h.wordBefore unicode i
  | .wordStopHalf unicode => h.soundAfter unicode i && !h.wordAfter unicode i

/-- The places below `count` that satisfy a condition, as bits below those of `above`. -/
def placesUnder (condition : Nat → Bool) : Nat → Nat → Nat
  | 0, above => above
  | i + 1, above => placesUnder condition i (2 * above + (condition i).toNat)

def places (condition : Nat → Bool) (count : Nat) : Nat := placesUnder condition count 0

/-- Moves that an atom allows: from the places of a set, all forward by the same distance. -/
abbrev Moves := List (Nat × Nat)

def charMoves (h : Haystack) (set : RangeSet) (length : Nat) : Nat × Nat :=
  (places (fun i => match h.chars[i]?.join with
    | some (c, n) => n == length && set.contains c
    | none => false) h.size, length)

def moves (h : Haystack) : Atom → Moves
  | .char set =>
    if set.below 0x7F then [charMoves h set 1]
    else [charMoves h set 1, charMoves h set 2, charMoves h set 3, charMoves h set 4]
  | .byte set => [(places (fun i => (h.byteAt? i).any set.contains) h.size, 1)]
  | .look condition => [(places (h.satisfies · condition) (h.size + 1), 0)]

def advance (moves : Moves) (origin : Nat) : Nat :=
  moves.foldl (fun reached (allowed, distance) => reached ||| (origin &&& allowed) <<< distance) 0

end Haystack

/-- Applies a step so many times. -/
def iterate (step : Nat → Nat) : Nat → Nat → Nat
  | 0, places => places
  | count + 1, places => iterate step count (step places)

/-- All places reached from `frontier` in at most so many steps, together with those in `seen`. -/
def spread (step : Nat → Nat) : Nat → Nat → Nat → Nat
  | 0, seen, _ => seen
  | count + 1, seen, frontier =>
    if frontier = 0 then seen
    else
      let all := seen ||| step frontier
      spread step count all (all ^^^ seen)

/--
The places where a match may end that starts at one of the given places. Rounds of a repetition
beyond the number of places add nothing, since one of them would stand still.
-/
def Regex.ends (rounds : Nat) : Regex Haystack.Moves → Nat → Nat
  | .empty, places => places
  | .atom moves, places => Haystack.advance moves places
  | .concat first second, places =>
    let middle := first.ends rounds places
    if middle = 0 then 0 else second.ends rounds middle
  | .alternate left right, places => left.ends rounds places ||| right.ends rounds places
  | .repeated low high body, places =>
    let start := iterate (body.ends rounds) (min low rounds) places
    let more := match high with
      | some high => min (high - low) rounds
      | none => rounds
    spread (body.ends rounds) more start start
  | .group _ body, places => body.ends rounds places

/-- The places where a match may start: all, or only those between whole characters. -/
def Haystack.starts (h : Haystack) (anyBytes : Bool) : Nat :=
  places (fun i => anyBytes || !h.isContinuation i) (h.size + 1)

def Regex.foundIn (r : Regex Atom) (anyBytes : Bool) (bytes : List UInt8) : Bool :=
  let h := Haystack.ofBytes bytes
  (r.map h.moves).ends (h.size + 1) (h.starts anyBytes) != 0

end CapturedTraffic.Pattern
