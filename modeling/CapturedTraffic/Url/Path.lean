import CapturedTraffic.Url.Percent

/-!
# Paths

The path of a URL with its dots worked out. A segment of one dot is dropped and one of two dots
takes the segment before it away, unless that looks like a drive letter. A drive letter that starts
the path of a file is followed by a colon; empty segments in front of such a path are dropped, but
only after that. Tabs and newlines are skipped; one that stands right after a drive letter makes a
segment of its own of what follows, in which dots are left alone.
-/
namespace CapturedTraffic.Url

/-- The syntax that a scheme follows. -/
inductive Kind
  | plain
  | web
  | file
  deriving DecidableEq, Repr

namespace Kind

def isSpecial (k : Kind) : Bool := k != .plain

/-- The default port of a scheme. -/
def defaultPort? (scheme : List Char) : Option Nat :=
  match String.ofList scheme with
  | "http" => some 80
  | "https" => some 443
  | "ws" => some 80
  | "wss" => some 443
  | "ftp" => some 21
  | _ => none

def ofScheme (scheme : List Char) : Kind :=
  if scheme = ['f', 'i', 'l', 'e'] then .file
  else if (defaultPort? scheme).isSome then .web
  else .plain

def isSlash (k : Kind) (c : Char) : Bool := c == '/' || (k.isSpecial && c == '\\')

end Kind

def isSkipped (c : Char) : Bool := c == '\t' || c == '\n' || c == '\r'

/-- The text without its tabs and newlines. -/
def condense (s : List Char) : List Char := s.filter fun c => !isSkipped c

/-- What stands after the given number of characters other than tabs and newlines. -/
def dropCondensed : Nat → List Char → List Char
  | 0, s => s
  | _ + 1, [] => []
  | n + 1, c :: rest => if isSkipped c then dropCondensed (n + 1) rest else dropCondensed n rest

namespace Path

/-- The segments of a path, without the slash at its start. -/
def segments (k : Kind) (s : List Char) : List (List Char) :=
  match s with
  | [] => [[]]
  | c :: rest =>
    match segments k rest with
    | [] => [[c]]
    | segment :: more => if k.isSlash c then [] :: segment :: more else (c :: segment) :: more

/-- The text with each encoded dot in place of its code. -/
def plainDots : List Char → List Char
  | '%' :: '2' :: 'e' :: rest => '.' :: plainDots rest
  | '%' :: '2' :: 'E' :: rest => '.' :: plainDots rest
  | c :: rest => c :: plainDots rest
  | [] => []

def isSingleDot (s : List Char) : Bool := plainDots s == ['.']

def isDoubleDot (s : List Char) : Bool := plainDots s == ['.', '.']

/-- A letter with a colon or a bar, alone or in front of a backslash. -/
def looksLikeDrive : List Char → Bool
  | [a, b] => a.isAlpha && (b == ':' || b == '|')
  | a :: b :: c :: _ => a.isAlpha && (b == ':' || b == '|') && c == '\\'
  | _ => false

/-- A drive letter that starts the path of a file, with its colon. -/
def drive? (k : Kind) (done : List (List Char)) (segment : List Char) : Option (List Char) :=
  match segment with
  | [a, b] =>
    if k = .file ∧ done = [] ∧ a.isAlpha ∧ (b = ':' ∨ b = '|') then some [a, ':']
    else none
  | _ => none

/-- Splits a segment after a drive letter that a tab or newline follows. -/
def cutDrive? (k : Kind) (done : List (List Char)) (given : List Char) :
    Option (List Char × List Char) :=
  let drive := (condense given).take 2
  let after := dropCondensed 2 given
  match drive with
  | [a, ':'] =>
    if k = .file ∧ done = [] ∧ a.isAlpha ∧ after.head?.any isSkipped ∧ condense after ≠ [] then
      some (drive, condense after)
    else none
  | _ => none

def dropLast (done : List (List Char)) : List (List Char) :=
  match done with
  | segment :: rest => if looksLikeDrive segment then done else rest
  | [] => []

/-- What is known of a path: its finished segments, last first, and whether one is a drive. -/
structure State where
  done : List (List Char)
  hasDrive : Bool

/-- Takes a segment that has neither tabs nor newlines. -/
def takeCondensed (k : Kind) (state : State) (segment : List Char) : State :=
  if isDoubleDot segment then { state with done := dropLast state.done }
  else if isSingleDot segment then state
  else
    match drive? k state.done segment with
    | some drive => ⟨drive :: state.done, true⟩
    | none => { state with done := Percent.encode Percent.inPath segment :: state.done }

/-- Takes a segment as it is given. -/
def take (k : Kind) (state : State) (given : List Char) : State :=
  match cutDrive? k state.done given with
  | some (drive, rest) =>
    { state with done := Percent.encode Percent.inPath rest :: drive :: state.done }
  | none => takeCondensed k state (condense given)

/-- Takes the segment at the end of the path; what dots leave behind is an empty one. -/
def finish (k : Kind) (state : State) (given : List Char) : State :=
  let next := take k state given
  let segment := condense given
  if isDoubleDot segment || isSingleDot segment then { next with done := [] :: next.done } else next

def resolve (k : Kind) (state : State) : List (List Char) → State
  | [] => state
  | [segment] => finish k state segment
  | segment :: rest => resolve k (take k state segment) rest

/-- The text of a path with a slash in front, and whether it starts with a drive letter. -/
def read (k : Kind) (s : List Char) : List Char × Bool :=
  let state := resolve k ⟨[], false⟩ (segments k s)
  let text := state.done.reverse.flatMap ('/' :: ·)
  let text := if k = .file then '/' :: text.dropWhile (· == '/') else text
  (text, state.hasDrive)

end Path

end CapturedTraffic.Url
