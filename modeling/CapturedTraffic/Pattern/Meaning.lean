import CapturedTraffic.Pattern.PropertyLookup
import CapturedTraffic.Pattern.Reader
import CapturedTraffic.Pattern.Regex
import CapturedTraffic.Unicode.CaseFolding

/-!
# The meaning of patterns

Works out flags, classes and escapes. With the Unicode flag on, classes are sets of characters;
with it off they are sets of bytes. A pattern for texts must not be able to match part of a
character, so there the classes of bytes may hold ASCII alone.
-/
namespace CapturedTraffic.Pattern

open Unicode

/-- The flags in force, and whether any bytes may be matched or whole characters only. -/
structure Context where
  ignoreCase : Bool
  multiLine : Bool
  dotMatchesNewline : Bool
  unicode : Bool
  carriageReturns : Bool
  anyBytes : Bool
  deriving DecidableEq, Repr

namespace Context

def set (c : Context) (change : Flag × Bool) : Context :=
  match change.1 with
  | .ignoreCase => { c with ignoreCase := change.2 }
  | .multiLine => { c with multiLine := change.2 }
  | .dotMatchesNewline => { c with dotMatchesNewline := change.2 }
  | .unicode => { c with unicode := change.2 }
  | .carriageReturns => { c with carriageReturns := change.2 }
  | .swapGreed => c
  | .verbose => c

def apply (c : Context) (changes : Changes) : Context := changes.foldl set c

/-- The largest member that a class can have. -/
def last (c : Context) : Nat := if c.unicode then lastCodePoint else 0xFF

/-- A class of bytes is allowed if it keeps to ASCII or any bytes may be matched. -/
def allowed? (c : Context) (set : RangeSet) : Option RangeSet :=
  if c.unicode || c.anyBytes || set.below 0x7F then some set else none

def fold (c : Context) (set : RangeSet) : RangeSet :=
  if !c.ignoreCase then set
  else if c.unicode then CaseFolding.closure set
  else CaseFolding.asciiClosure set

/-- Folds a class before it is negated, so that a negated class excludes both cases. -/
def finish? (c : Context) (negated : Bool) (set : RangeSet) : Option RangeSet :=
  let folded := c.fold set
  c.allowed? (if negated then folded.complement c.last else folded)

/-- The number that a code of a class stands for. -/
def member? (c : Context) (code : Code) : Option Nat :=
  let n := code.char.toNat
  if c.unicode || n < 0x80 || (code.asByte && c.anyBytes) then some n else none

def shorthand? (c : Context) (kind : Shorthand) (negated : Bool) : Option RangeSet :=
  let members : RangeSet :=
    match kind, c.unicode with
    | .digit, true => Category.decimalNumber
    | .space, true => Unicode.Property.whiteSpace
    | .word, true => Unicode.Property.word
    | .digit, false => .ofText "30-39"
    | .space, false => .ofText "9-D 20"
    | .word, false => .ofText "30-39 41-5A 5F 61-7A"
  c.allowed? (if negated then members.complement c.last else members)

def property? (c : Context) (p : Property) : Option RangeSet :=
  if c.unicode then p.set?.bind (c.finish? p.negated) else none

end Context

def SetOperator.apply (op : SetOperator) (left right : RangeSet) : RangeSet :=
  match op with
  | .intersection => left.intersection right
  | .difference => left.difference right
  | .symmetricDifference => left.symmetricDifference right

mutual

def ClassExpr.set? (c : Context) : ClassExpr → Option RangeSet
  | .literal code => (c.member? code).map .single
  | .range first last =>
    (c.member? first).bind fun a => (c.member? last).map fun b => .ofList [(a, b)]
  | .ascii members negated => c.finish? negated members
  | .property p => c.property? p
  | .shorthand kind negated => c.shorthand? kind negated
  | .bracketed negated body => (body.set? c).bind (c.finish? negated)
  | .union items => ClassExpr.unionOf? c items
  | .binary op left right => (left.set? c).bind fun l => (right.set? c).map fun r =>
      op.apply (c.fold l) (c.fold r)

def ClassExpr.unionOf? (c : Context) : List ClassExpr → Option RangeSet
  | [] => some .empty
  | item :: rest => (item.set? c).bind fun s => (ClassExpr.unionOf? c rest).map s.union

end

namespace Context

def atomOf (c : Context) (set : RangeSet) : Regex Atom :=
  .atom (if c.unicode then .char set else .byte set)

def literal? (c : Context) (code : Code) : Option (Regex Atom) :=
  let n := code.char.toNat
  if c.unicode then some (.atom (.char (c.fold (.single n))))
  else if n < 0x80 then some (.atom (.byte (c.fold (.single n))))
  else if !code.asByte then some (.atom (.char (.single n)))
  else if c.anyBytes then some (.atom (.byte (.single n)))
  else none

def dot? (c : Context) : Option (Regex Atom) :=
  let newlines : RangeSet :=
    if c.dotMatchesNewline then .empty
    else if c.carriageReturns then .ofText "A D"
    else .ofText "A"
  if c.unicode || c.anyBytes then some (c.atomOf (newlines.complement c.last)) else none

def look (c : Context) : Assertion → Look
  | .startLine =>
    if !c.multiLine then .start else if c.carriageReturns then .crlfLineStart else .lineStart
  | .endLine =>
    if !c.multiLine then .stop else if c.carriageReturns then .crlfLineStop else .lineStop
  | .startText => .start
  | .endText => .stop
  | .boundary => .boundary c.unicode
  | .notBoundary => .notBoundary c.unicode
  | .wordStart => .wordStart c.unicode
  | .wordEnd => .wordStop c.unicode
  | .wordStartHalf => .wordStartHalf c.unicode
  | .wordEndHalf => .wordStopHalf c.unicode

end Context

mutual

/-- The meaning of a tree, with the flags in force after it. -/
def Node.meaning? (c : Context) : Node → Option (Regex Atom × Context)
  | .empty => some (.empty, c)
  | .literal code => (c.literal? code).map (·, c)
  | .dot => c.dot?.map (·, c)
  | .assertion kind => some (.atom (.look (c.look kind)), c)
  | .property p => (c.property? p).map fun set => (c.atomOf set, c)
  | .shorthand kind negated => (c.shorthand? kind negated).map fun set => (c.atomOf set, c)
  | .bracketed negated body =>
    ((body.set? c).bind (c.finish? negated)).map fun set => (c.atomOf set, c)
  | .changes flags => some (.empty, c.apply flags)
  | .repetition low high body => (body.meaning? c).map fun (r, c) => (.repeated low high r, c)
  | .group captured flags body =>
    (body.meaning? (c.apply flags)).map fun (r, _) => (.group captured r, c)
  | .alternation branches =>
    (Node.meanings? c branches).map fun (rs, c) => (.alternateAll rs, c)
  | .concatenation items => (Node.meanings? c items).map fun (rs, c) => (.concatAll rs, c)

def Node.meanings? (c : Context) : List Node → Option (List (Regex Atom) × Context)
  | [] => some ([], c)
  | node :: rest => (node.meaning? c).bind fun (r, c) =>
      (Node.meanings? c rest).map fun (rs, c) => (r :: rs, c)

end

end CapturedTraffic.Pattern
