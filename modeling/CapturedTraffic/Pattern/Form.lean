import CapturedTraffic.Pattern.ByteRanges
import CapturedTraffic.Pattern.Regex
import CapturedTraffic.Text.Utf8

/-!
# The form of an expression

An expression as its automaton is built from it. Sequences in sequences are made one, neighbouring
literals are joined, branches that are single characters or classes become one class, and what all
branches start with stands in front of them once.
-/
namespace CapturedTraffic.Pattern

open Unicode

inductive Form
  | empty
  | literal (bytes : List Nat)
  | oneOf (ofChars : Bool) (set : RangeSet)
  | look (condition : Look)
  | repeated (low : Nat) (high : Option Nat) (body : Form)
  | captured (body : Form)
  | sequence (items : List Form)
  | choice (branches : List Form)

namespace Form

/-- A class; one with a single member is a literal. -/
def ofSet (ofChars : Bool) (set : RangeSet) : Form :=
  match set.runs.toList with
  | [] => .oneOf false set
  | [(a, b)] =>
    if a = b then .literal (if ofChars then Product.bytesOf a else [a]) else .oneOf ofChars set
  | _ => .oneOf ofChars set

def ofAtom : Atom → Form
  | .char set => ofSet true set
  | .byte set => ofSet false set
  | .look condition => .look condition

def literal? : Form → Option (List Nat)
  | literal bytes => some bytes
  | _ => none

mutual

/-- The least number of bytes that a match takes, if there can be one. -/
def minLength? : Form → Option Nat
  | empty => some 0
  | literal bytes => some bytes.length
  | oneOf ofChars set =>
    (set.runs[0]?).map fun run => if ofChars then (Product.bytesOf run.1).length else 1
  | look _ => some 0
  | repeated low _ body => body.minLength?.map (low * ·)
  | captured body => body.minLength?
  | sequence items => (minLengths? items).map List.sum
  | choice branches => (minLengths? branches).bind List.min?

def minLengths? : List Form → Option (List Nat)
  | [] => some []
  | f :: rest => f.minLength?.bind fun n => (minLengths? rest).map (n :: ·)

end

mutual

/-- Whether there can be a match, and every match takes no bytes. -/
def takesNothing : Form → Bool
  | empty => true
  | literal bytes => bytes.isEmpty
  | oneOf _ _ => false
  | look _ => true
  | repeated _ high body => high == some 0 || (high.isSome && body.takesNothing)
  | captured body => body.takesNothing
  | sequence items => allTakeNothing items
  | choice branches => allTakeNothing branches

def allTakeNothing : List Form → Bool
  | [] => true
  | f :: rest => f.takesNothing && allTakeNothing rest

end

/-- A repetition; what takes no bytes is not repeated more than once. -/
def inRepetition (low : Nat) (high : Option Nat) (body : Form) : Form :=
  let (low, high) :=
    if body.takesNothing then (min low 1, some (min (high.getD 1) 1)) else (low, high)
  if low = 0 ∧ high = some 0 then empty
  else if low = 1 ∧ high = some 1 then body
  else repeated low high body

/-- What a form contributes to a sequence around it. -/
def items : Form → List Form
  | empty => []
  | sequence items => items
  | f => [f]

/-- What a form contributes to a choice around it. -/
def branches : Form → List Form
  | choice branches => branches
  | f => [f]

def joinLiterals : List Form → List Form
  | [] => []
  | literal a :: rest =>
    match joinLiterals rest with
    | literal b :: rest => literal (a ++ b) :: rest
    | rest => literal a :: rest
  | f :: rest => f :: joinLiterals rest

def inSequence (parts : List Form) : Form :=
  match joinLiterals (parts.flatMap items) with
  | [] => empty
  | [f] => f
  | fs => sequence fs

mutual

/-- Whether two forms are the same; no two captured groups are. -/
def same : Form → Form → Bool
  | empty, empty => true
  | literal a, literal b => a == b
  | oneOf b s, oneOf c t => b == c && s == t
  | look a, look b => a == b
  | repeated low high f, repeated low' high' g => low == low' && high == high' && f.same g
  | sequence fs, sequence gs => sameAll fs gs
  | choice fs, choice gs => sameAll fs gs
  | _, _ => false

def sameAll : List Form → List Form → Bool
  | [], [] => true
  | f :: fs, g :: gs => f.same g && sameAll fs gs
  | _, _ => false

end

/-- How many items at the front two sequences have in common. -/
def commonCount : List Form → List Form → Nat
  | f :: fs, g :: gs => if f.same g then commonCount fs gs + 1 else 0
  | _, _ => 0

/-- How many items at the front all branches have in common, if all of them are sequences. -/
def commonFront (branches : List Form) : Nat :=
  match branches with
  | sequence first :: rest =>
    rest.foldl (fun count f => match f with
      | sequence fs => min count (commonCount first fs)
      | _ => 0) first.length
  | _ => 0

/-- The character that a literal consists of. -/
def char? : Form → Option RangeSet
  | literal bytes =>
    match (Text.Utf8.decode? (bytes.map UInt8.ofNat)).map String.toList with
    | some [c] => some (.single c.toNat)
    | _ => none
  | _ => none

/-- The byte that a literal consists of. -/
def byte? : Form → Option RangeSet
  | literal [b] => some (.single b)
  | _ => none

/-- A class as one of characters, or as one of bytes; only ASCII can be either. -/
def class? (ofChars : Bool) : Form → Option RangeSet
  | oneOf chars set => if chars == ofChars || set.below 0x7F then some set else none
  | _ => none

/-- The class that the branches of a choice make up together. -/
def merged? (branches : List Form) : Option Form :=
  let all := fun (ofChars : Bool) (member? : Form → Option RangeSet) =>
    (branches.mapM member?).map fun sets => ofSet ofChars (.unions sets)
  (((all true char?).or (all false byte?)).or (all true (class? true))).or (all false (class? false))

/-- A choice, in which fronts are taken out at most `fuel` times. -/
def choose : Nat → List Form → Form
  | 0, parts => choice parts
  | fuel + 1, parts =>
    match parts.flatMap branches with
    | [f] => f
    | fs =>
      match merged? fs with
      | some f => f
      | none =>
        let count := commonFront fs
        if count = 0 then choice fs
        else
          let front := match fs with
            | sequence first :: _ => first.take count
            | _ => []
          inSequence (front ++ [choose fuel (fs.map fun f => inSequence (f.items.drop count))])

mutual

/-- How many forms there are in a form. -/
def count : Form → Nat
  | repeated _ _ body => body.count + 1
  | captured body => body.count + 1
  | sequence items => countAll items + 1
  | choice branches => countAll branches + 1
  | _ => 1

def countAll : List Form → Nat
  | [] => 0
  | f :: rest => f.count + countAll rest

end

/-- A choice; taking a front out leaves fewer forms. -/
def inChoice (parts : List Form) : Form := choose (countAll parts + 1) parts

mutual

/-- Whether every match starts at the start of the text, because of a condition in front. -/
def startsAtStart : Form → Bool
  | look condition => condition == .start
  | repeated low _ body => low != 0 && body.startsAtStart
  | captured body => body.startsAtStart
  | sequence items => startsSequence items
  | choice branches => startsAll branches
  | _ => false

def startsSequence : List Form → Bool
  | [] => false
  | f :: rest => f.startsAtStart || (f.takesNothing && startsSequence rest)

def startsAll : List Form → Bool
  | [] => true
  | f :: rest => f.startsAtStart && startsAll rest

end

mutual

/-- Whether every match stops at the end of the text, because of a condition at the end. -/
def stopsAtStop : Form → Bool
  | look condition => condition == .stop
  | repeated low _ body => low != 0 && body.stopsAtStop
  | captured body => body.stopsAtStop
  | sequence items => stopsSequence items
  | choice branches => stopsAll branches
  | _ => false

def stopsSequence : List Form → Bool
  | [] => false
  | f :: rest => stopsSequence rest || (allTakeNothing rest && f.stopsAtStop)

def stopsAll : List Form → Bool
  | [] => true
  | f :: rest => f.stopsAtStop && stopsAll rest

end

end Form

/-- What has been put together of an expression: a form, or the parts of a sequence or a choice. -/
inductive Spine
  | single (f : Form)
  | items (parts : List Form)
  | branches (parts : List Form)

namespace Spine

def form : Spine → Form
  | single f => f
  | items parts => .inSequence parts
  | branches parts => .inChoice parts

def asItems : Spine → List Form
  | items parts => parts
  | s => [s.form]

def asBranches : Spine → List Form
  | branches parts => parts
  | s => [s.form]

end Spine

namespace Regex

def spine : Regex Atom → Spine
  | empty => .single .empty
  | atom a => .single (.ofAtom a)
  | concat first second => .items (first.spine.form :: second.spine.asItems)
  | alternate left right => .branches (left.spine.form :: right.spine.asBranches)
  | repeated low high body => .single (.inRepetition low high body.spine.form)
  | group captured body =>
    .single (if captured then .captured body.spine.form else body.spine.form)

def form (r : Regex Atom) : Form := r.spine.form

end Regex

end CapturedTraffic.Pattern
