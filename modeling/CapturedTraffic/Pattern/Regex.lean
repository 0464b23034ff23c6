import CapturedTraffic.Unicode.RangeSet

/-!
# Regular expressions

What a pattern means once its flags, classes and escapes have been worked out. The leaves are kept
open, so that the same shape serves before and after it is fitted to the text to be searched.
-/
namespace CapturedTraffic.Pattern

open Unicode

/-- A condition on a place between two bytes. -/
inductive Look
  | start
  | stop
  | lineStart
  | lineStop
  | crlfLineStart
  | crlfLineStop
  | boundary (unicode : Bool)
  | notBoundary (unicode : Bool)
  | wordStart (unicode : Bool)
  | wordStop (unicode : Bool)
  | wordStartHalf (unicode : Bool)
  | wordStopHalf (unicode : Bool)
  deriving DecidableEq, Repr

/-- Whether the condition is about words made of all kinds of letters. -/
def Look.ofWords : Look → Bool
  | boundary unicode => unicode
  | notBoundary unicode => unicode
  | wordStart unicode => unicode
  | wordStop unicode => unicode
  | wordStartHalf unicode => unicode
  | wordStopHalf unicode => unicode
  | _ => false

/-- One character of a set, one byte of a set, or a condition that takes nothing. -/
inductive Atom
  | char (set : RangeSet)
  | byte (set : RangeSet)
  | look (condition : Look)
  deriving DecidableEq, Repr

/-- An expression over some leaves; groups matter to the size of an expression alone. -/
inductive Regex (α : Type)
  | empty
  | atom (a : α)
  | concat (first second : Regex α)
  | alternate (left right : Regex α)
  | repeated (low : Nat) (high : Option Nat) (body : Regex α)
  | group (captured : Bool) (body : Regex α)
  deriving DecidableEq, Repr

namespace Regex

def map {α β : Type} (f : α → β) : Regex α → Regex β
  | empty => empty
  | atom a => atom (f a)
  | concat first second => concat (first.map f) (second.map f)
  | alternate left right => alternate (left.map f) (right.map f)
  | repeated low high body => repeated low high (body.map f)
  | group captured body => group captured (body.map f)

def concatAll {α : Type} : List (Regex α) → Regex α
  | [] => empty
  | [r] => r
  | r :: rest => concat r (concatAll rest)

/-- One of the expressions; the list is not empty where this is used. -/
def alternateAll {α : Type} : List (Regex α) → Regex α
  | [] => empty
  | [r] => r
  | r :: rest => alternate r (alternateAll rest)

/-- Whether some condition tells apart words of all characters, not only of ASCII. -/
def looksForWords : Regex Atom → Bool
  | empty => false
  | atom (.look condition) => condition.ofWords
  | atom _ => false
  | concat first second => first.looksForWords || second.looksForWords
  | alternate left right => left.looksForWords || right.looksForWords
  | repeated _ high body => high != some 0 && body.looksForWords
  | group _ body => body.looksForWords

end Regex

end CapturedTraffic.Pattern
