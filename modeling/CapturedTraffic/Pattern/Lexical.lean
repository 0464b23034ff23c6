import CapturedTraffic.Pattern.Syntax
import CapturedTraffic.Text.Hex
import CapturedTraffic.Unicode.Latest

/-!
# Lexical elements of patterns

Blanks and comments of the verbose mode, escapes, flag lists and group names. Every function takes
the characters still to be read and returns what is left of them, or nothing where the pattern is
malformed.
-/
namespace CapturedTraffic.Pattern

open Unicode Text

def isWhite (c : Char) : Bool := Property.whiteSpace.containsChar c

/-- Passes over blanks and over comments, which run from a number sign to the end of the line. -/
def skipBlanks (inComment : Bool) : List Char → List Char
  | [] => []
  | c :: rest =>
    if inComment then skipBlanks (c != '\n') rest
    else if isWhite c then skipBlanks false rest
    else if c = '#' then skipBlanks true rest
    else c :: rest

def skip (verbose : Bool) (s : List Char) : List Char := if verbose then skipBlanks false s else s

inductive Primitive
  | literal (code : Code)
  | dot
  | assertion (kind : Assertion)
  | property (p : Property)
  | shorthand (kind : Shorthand) (negated : Bool)

namespace Primitive

def toNode : Primitive → Node
  | .literal code => .literal code
  | .dot => .dot
  | .assertion kind => .assertion kind
  | .property p => .property p
  | .shorthand kind negated => .shorthand kind negated

/-- As a member of a class; a dot or an assertion cannot be one. -/
def toClassItem? : Primitive → Option ClassExpr
  | .literal code => some (.literal code)
  | .property p => some (.property p)
  | .shorthand kind negated => some (.shorthand kind negated)
  | _ => none

def toCode? : Primitive → Option Code
  | .literal code => some code
  | _ => none

end Primitive

/-- The character with the given number, if it is one. -/
def scalar? (n : Nat) : Option Char := if n.isValidChar then some (Char.ofNat n) else none

/-- Exactly so many hexadecimal digits. -/
def hexDigits? (verbose : Bool) : Nat → Nat → List Char → Option (Nat × List Char)
  | 0, value, s => some (value, s)
  | _ + 1, _, [] => none
  | count + 1, value, c :: rest =>
    (Hex.value? c).bind fun d => hexDigits? verbose count (16 * value + d) (skip verbose rest)

/-- The characters up to a closing brace, without blanks in verbose mode. -/
def braced? (verbose inComment : Bool) (before : List Char) :
    List Char → Option (List Char × List Char)
  | [] => none
  | c :: rest =>
    if inComment then braced? verbose (c != '\n') before rest
    else if verbose && isWhite c then braced? verbose false before rest
    else if verbose && c == '#' then braced? verbose true before rest
    else if c = '\x7d' then some (before.reverse, rest)
    else braced? verbose false (c :: before) rest

/-- A character by its number, after the letter that announces it. -/
def hexCode? (verbose : Bool) (letter : Char) (s : List Char) : Option (Code × List Char) :=
  match skip verbose s with
  | '\x7b' :: rest =>
    (braced? verbose false [] rest).bind fun (digits, rest) =>
      if digits = [] then none
      else (Hex.number? 0 digits).bind scalar? |>.map fun c => (⟨c, false⟩, skip verbose rest)
  | s =>
    let width := if letter = 'x' then 2 else if letter = 'u' then 4 else 8
    (hexDigits? verbose width 0 s).bind fun (n, rest) =>
      (scalar? n).map fun c => (⟨c, letter = 'x'⟩, rest)

/-- The text in front of the first occurrence of `mark`, and the text after it. -/
def splitAt? (mark : List Char) : List Char → Option (List Char × List Char)
  | [] => none
  | c :: rest =>
    if mark.isPrefixOf (c :: rest) then some ([], (c :: rest).drop mark.length)
    else (splitAt? mark rest).map fun (before, after) => (c :: before, after)

/-- Reads a property between its braces: a name, or a name and a value with a sign between them. -/
def propertyOfText (negated : Bool) (s : List Char) : Property :=
  let named := fun (name value : List Char) (negated : Bool) =>
    (⟨String.ofList name, some (String.ofList value), negated⟩ : Property)
  match splitAt? ['!', '='] s with
  | some (name, value) => named name value !negated
  | none =>
    match splitAt? [':'] s with
    | some (name, value) => named name value negated
    | none =>
      match splitAt? ['='] s with
      | some (name, value) => named name value negated
      | none => ⟨String.ofList s, none, negated⟩

def property? (verbose negated : Bool) (s : List Char) : Option (Property × List Char) :=
  match skip verbose s with
  | [] => none
  | '\x7b' :: rest =>
    (braced? verbose false [] rest).map fun (text, rest) => (propertyOfText negated text, rest)
  | c :: rest =>
    if c = '\\' then none
    else some (⟨String.singleton c, none, negated⟩, skip verbose rest)

/-- The characters with a meaning of their own outside classes or inside them. -/
def isMeta (c : Char) : Bool := "\\.+*?()|[]\x7b\x7d^$#&-~".toList.contains c

/-- The ASCII characters that stand for themselves after a backslash. -/
def isEscapable (c : Char) : Bool :=
  isMeta c || (c.toNat < 128 && !c.isAlphanum && c != '<' && c != '>')

def specialBoundary? (name : List Char) : Option Assertion :=
  match String.ofList name with
  | "start" => some .wordStart
  | "end" => some .wordEnd
  | "start-half" => some .wordStartHalf
  | "end-half" => some .wordEndHalf
  | _ => none

/-- The letters and hyphens of a boundary name, up to the brace that closes it. -/
def boundaryName? (verbose inComment : Bool) (before : List Char) :
    List Char → Option (List Char × List Char)
  | [] => none
  | c :: rest =>
    if inComment then boundaryName? verbose (c != '\n') before rest
    else if verbose && isWhite c then boundaryName? verbose false before rest
    else if verbose && c == '#' then boundaryName? verbose true before rest
    else if c = '\x7d' then some (before.reverse, rest)
    else if c.isAlpha || c == '-' then boundaryName? verbose false (c :: before) rest
    else none

/-- What follows a boundary escape: the name of a special boundary, or something unrelated. -/
def boundary? (verbose : Bool) (s : List Char) : Option (Assertion × List Char) :=
  match s with
  | '\x7b' :: rest =>
    match skip verbose rest with
    | [] => none
    | c :: tail =>
      if c.isAlpha || c == '-' then
        (boundaryName? verbose false [] (c :: tail)).bind fun (name, rest) =>
          (specialBoundary? name).map (·, rest)
      else some (.boundary, s)
  | _ => some (.boundary, s)

def controlEscape? (c : Char) : Option Char :=
  match c with
  | 'a' => some '\x07'
  | 'f' => some '\x0c'
  | 't' => some '\t'
  | 'n' => some '\n'
  | 'r' => some '\r'
  | 'v' => some '\x0b'
  | _ => none

def assertionEscape? (c : Char) : Option Assertion :=
  match c with
  | 'A' => some .startText
  | 'z' => some .endText
  | 'B' => some .notBoundary
  | '<' => some .wordStart
  | '>' => some .wordEnd
  | _ => none

def shorthand? (c : Char) : Option Shorthand :=
  match c with
  | 'd' | 'D' => some .digit
  | 's' | 'S' => some .space
  | 'w' | 'W' => some .word
  | _ => none

/-- Reads what stands after a backslash. -/
def escape? (verbose : Bool) : List Char → Option (Primitive × List Char)
  | [] => none
  | c :: rest =>
    if c.isDigit then none
    else if c = 'x' ∨ c = 'u' ∨ c = 'U' then
      (hexCode? verbose c rest).map fun (code, rest) => (.literal code, rest)
    else if c = 'p' ∨ c = 'P' then
      (property? verbose (c = 'P') rest).map fun (p, rest) => (.property p, rest)
    else if c = 'b' then (boundary? verbose rest).map fun (kind, rest) => (.assertion kind, rest)
    else if let some kind := shorthand? c then some (.shorthand kind c.isUpper, rest)
    else if isEscapable c then some (.literal ⟨c, false⟩, rest)
    else if let some d := controlEscape? c then some (.literal ⟨d, false⟩, rest)
    else (assertionEscape? c).map fun kind => (.assertion kind, rest)

/-- Reads a single element that is not a group, a class or a repetition. -/
def primitive? (verbose : Bool) : List Char → Option (Primitive × List Char)
  | [] => none
  | '\\' :: rest => escape? verbose rest
  | '.' :: rest => some (.dot, rest)
  | '^' :: rest => some (.assertion .startLine, rest)
  | '$' :: rest => some (.assertion .endLine, rest)
  | c :: rest => some (.literal ⟨c, false⟩, rest)

def flagOfChar? (c : Char) : Option Flag :=
  match c with
  | 'i' => some .ignoreCase
  | 'm' => some .multiLine
  | 's' => some .dotMatchesNewline
  | 'U' => some .swapGreed
  | 'u' => some .unicode
  | 'R' => some .carriageReturns
  | 'x' => some .verbose
  | _ => none

/--
Reads flags up to a colon or a closing parenthesis, which is returned as well. Flags after a hyphen
are switched off; no flag may come twice, and the hyphen needs one after it.
-/
def flags? (seen : Changes) (negative dangling : Bool) :
    List Char → Option (Changes × Char × List Char)
  | [] => none
  | c :: rest =>
    if c = ':' ∨ c = ')' then if dangling then none else some (seen, c, rest)
    else if c = '-' then if negative then none else flags? seen true true rest
    else (flagOfChar? c).bind fun flag =>
      if seen.any (·.1 = flag) then none
      else flags? (seen ++ [(flag, !negative)]) negative false rest

def isNameStart (c : Char) : Bool := c = '_' || Latest.alphabetic.containsChar c

def isNamePart (c : Char) : Bool :=
  isNameStart c || c = '.' || c = '[' || c = ']' || Latest.number.containsChar c

/-- Reads the rest of a group name, up to its closing angle bracket. -/
def groupName? (before : List Char) : List Char → Option (List Char × List Char)
  | [] => none
  | c :: rest =>
    if c = '>' then if before = [] then none else some (before.reverse, rest)
    else if (if before = [] then isNameStart c else isNamePart c) then groupName? (c :: before) rest
    else none

/-- The digits of a number, which blanks may surround. -/
def countDigits (verbose inComment : Bool) (before : List Char) : List Char → List Char × List Char
  | [] => (before.reverse, [])
  | c :: rest =>
    if inComment then countDigits verbose (c != '\n') before rest
    else if c.isDigit then countDigits verbose false (c :: before) rest
    else if verbose && before != [] && isWhite c then countDigits verbose false before rest
    else if verbose && before != [] && c == '#' then countDigits verbose true before rest
    else (before.reverse, c :: rest)

/-- The characters after leading blanks, where a comment is passed over in verbose mode as well. -/
def skipAround (verbose : Bool) (s : List Char) : List Char := skip verbose (s.dropWhile isWhite)

/-- The largest bound that a repetition can be given. -/
def maxCount : Nat := 2 ^ 32 - 1

/-- Reads a bound of a repetition: `none` inside if there are no digits. -/
def count? (verbose : Bool) (s : List Char) : Option (Option Nat × List Char) :=
  let (digits, rest) := countDigits verbose false [] (s.dropWhile isWhite)
  let rest := skipAround verbose rest
  if digits = [] then some (none, rest)
  else
    let n := digits.foldl (fun n c => 10 * n + (c.toNat - 48)) 0
    if n ≤ maxCount then some (some n, rest) else none

/-- Reads the bounds of a repetition after its opening brace, up to the closing one. -/
def bounds? (verbose : Bool) (s : List Char) : Option ((Nat × Option Nat) × List Char) :=
  (count? verbose (skip verbose s)).bind fun (low, rest) =>
    match rest with
    | ',' :: rest =>
      match skip verbose rest with
      | '\x7d' :: rest => low.map fun low => ((low, none), rest)
      | rest => (count? verbose rest).bind fun (high, rest) =>
        match low, high, rest with
        | some low, some high, '\x7d' :: rest =>
          if low ≤ high then some ((low, some high), rest) else none
        | _, _, _ => none
    | '\x7d' :: rest => low.map fun low => ((low, some low), rest)
    | _ => none

end CapturedTraffic.Pattern
