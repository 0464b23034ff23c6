import CapturedTraffic.Pattern.Basic
import CapturedTraffic.Text.AsciiCase
import CapturedTraffic.Text.Decimal
import CapturedTraffic.Unicode.Latest

/-!
# Logging directives

A directive sets the level of a target, for instance `storage=debug`. It may also name a span in
brackets, with fields in braces, before the equals sign. Where its parts lie is found in the text
without the blanks at its ends; the parts are then cut from the whole text at these places, so that
blanks in front shift all of them.
-/
namespace CapturedTraffic.Logging.Directive

open Text Unicode

/-- How many bytes a text takes. -/
def width (s : List Char) : Nat := s.foldl (fun bytes c => bytes + c.utf8Size) 0

/-- Where the level and the fields of a directive lie, in bytes; an open end is that of the text. -/
structure Layout where
  fields : List (Nat × Nat)
  level : Option (Nat × Option Nat)
  deriving DecidableEq, Repr

namespace Layout

/-- What follows the equals sign: a level that may be empty, and at most one comma that ends it. -/
def ofLevel? (place : Nat) (s : List Char) : Option Layout :=
  let level := s.takeWhile (· != ',')
  match s.drop level.length with
  | [] => some ⟨[], some (place, none)⟩
  | [_] => some ⟨[], some (place, some (place + width level))⟩
  | _ => none

/-- What follows the bracket that ends a span. -/
def afterSpan? (place : Nat) : List Char → Option Layout
  | [] => some ⟨[], none⟩
  | '=' :: rest => ofLevel? (place + 1) rest
  | _ => none

def withField (first last : Nat) (l : Layout) : Layout :=
  { l with fields := (first, last) :: l.fields }

/-- The fields of a span up to the closing brace, of which one starts at `first`. -/
def ofFields? (first place : Nat) : List Char → Option Layout
  | '\x7d' :: ']' :: rest => (afterSpan? (place + 2) rest).map (withField first place)
  | ',' :: rest => (ofFields? (place + 1) (place + 1) rest).map (withField first place)
  | c :: rest => if c = '\x7d' then none else ofFields? first (place + c.utf8Size) rest
  | [] => none

/-- What follows the bracket that begins a span. -/
def ofSpan? (place : Nat) : List Char → Option Layout
  | ']' :: rest => afterSpan? (place + 1) rest
  | '\x7b' :: rest => ofFields? (place + 1) (place + 1) rest
  | c :: rest => ofSpan? (place + c.utf8Size) rest
  | [] => none

/-- What follows the first character of a target; what ends in a comma is not looked at. -/
def ofTarget? (place : Nat) : List Char → Option Layout
  | '=' :: rest => ofLevel? (place + 1) rest
  | '[' :: rest => ofSpan? (place + 1) rest
  | [','] => some ⟨[], none⟩
  | ',' :: _ => none
  | c :: rest => ofTarget? (place + c.utf8Size) rest
  | [] => some ⟨[], none⟩

def startsTarget (c : Char) : Bool :=
  c == '-' || c == ':' || c == '_' || Latest.alphabetic.containsChar c
    || Latest.number.containsChar c

def of? : List Char → Option Layout
  | '[' :: rest => ofSpan? 1 rest
  | c :: rest => if startsTarget c then ofTarget? c.utf8Size rest else none
  | [] => none

end Layout

def levelNames : List (List Char) :=
  ["error", "warn", "info", "debug", "trace", "off"].map String.toList

/-- A name in any case, or a number up to five that may carry a plus sign. -/
def isLevel (s : List Char) : Bool :=
  let digits := if s.head? = some '+' then s.drop 1 else s
  levelNames.contains (s.map asciiLower)
    || (!digits.isEmpty && digits.all Decimal.isDigit && Decimal.value 0 digits ≤ 5)

/-- A value is a number or a pattern, and the pattern must not look for words of all characters. -/
def acceptsValue (s : List Char) : Bool :=
  Decimal.isReal s ||
    match Pattern.compile .text (String.ofList s) with
    | .ok pattern => !pattern.regex.looksForWords
    | .error _ => false

/-- A field has a name, which may be followed by an equals sign and its value. -/
def acceptsField (s : List Char) : Bool :=
  !s.isEmpty &&
    match s.dropWhile (· != '=') with
    | _ :: rest => acceptsValue (rest.takeWhile (· != '='))
    | [] => true

/-- The text after its first `n` bytes, if no character is cut. -/
def dropBytes? : Nat → List Char → Option (List Char)
  | 0, s => some s
  | _ + 1, [] => none
  | n + 1, c :: rest => if c.utf8Size ≤ n + 1 then dropBytes? (n + 1 - c.utf8Size) rest else none

/-- The first `n` bytes of a text, if no character is cut. -/
def takeBytes? : Nat → List Char → Option (List Char)
  | 0, _ => some []
  | _ + 1, [] => none
  | n + 1, c :: rest =>
    if c.utf8Size ≤ n + 1 then (takeBytes? (n + 1 - c.utf8Size) rest).map (c :: ·) else none

def cut? (given : List Char) (first last : Nat) : Option (List Char) :=
  (dropBytes? first given).bind (takeBytes? (last - first))

/-- Whether the parts that a layout finds in a text are as they must be. -/
def Layout.fits (l : Layout) (given : List Char) : Bool :=
  l.fields.all (fun (first, last) => (cut? given first last).any acceptsField) &&
    match l.level with
    | none => true
    | some (first, last) =>
      ((dropBytes? first given).bind fun rest =>
        (last.map fun last => takeBytes? (last - first) rest).getD (some rest)).any
          fun level => level.isEmpty || isLevel level

def isBlank (c : Char) : Bool := Property.whiteSpace.containsChar c

def accepts (given : List Char) : Bool :=
  let trimmed := ((given.dropWhile isBlank).reverse.dropWhile isBlank).reverse
  (Layout.of? trimmed).any (·.fits given)

end CapturedTraffic.Logging.Directive
