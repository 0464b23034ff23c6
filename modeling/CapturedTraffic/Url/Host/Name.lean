import CapturedTraffic.Unicode.Direction
import CapturedTraffic.Unicode.Joining
import CapturedTraffic.Unicode.Latest
import CapturedTraffic.Unicode.Normalization
import CapturedTraffic.Url.Host.Mapping
import CapturedTraffic.Url.Host.Punycode

/-!
# Host names

The ASCII form of a host name. Characters are mapped and composed, every label is checked on its
own, and names with right-to-left parts are checked as a whole. A label that is not ASCII is written
in Punycode; one that is given in Punycode must be what that writing would have produced.
-/
namespace CapturedTraffic.Url.Host.Name

open Unicode

/-- The ASCII characters that no host name may contain. -/
def isForbidden (c : Char) : Bool :=
  c ≤ ' ' || c == '\x7f' ||
    ['%', '#', '/', ':', '<', '>', '?', '@', '[', '\\', ']', '^', '|'].contains c

def isAscii (s : List Char) : Bool := s.all (·.toNat < 0x80)

def labels (s : List Char) : List (List Char) :=
  match s with
  | [] => [[]]
  | c :: rest =>
    match labels rest with
    | [] => [[c]]
    | label :: more => if c = '.' then [] :: label :: more else (c :: label) :: more

def zeroWidthNonJoiner : Nat := 0x200C

def zeroWidthJoiner : Nat := 0x200D

/-- The combining class of the marks that suppress a vowel. -/
def suppressing : Nat := 9

def joins (transparent side : RangeSet) (s : List Nat) : Bool :=
  ((s.dropWhile transparent.contains).head?).any fun c =>
    side.contains c || Joining.onBothSides.contains c

/-- Whether joiners stand only where they make a difference; `before` has the nearest first. -/
def joinersFit (before : List Nat) : List Nat → Bool
  | [] => true
  | c :: rest =>
    let afterVirama := (before.head?).any fun d => Normalization.combiningClass d == suppressing
    let fits :=
      if c = zeroWidthJoiner then afterVirama
      else if c = zeroWidthNonJoiner then
        afterVirama || (joins Joining.transparent Joining.toLeft before &&
          joins Joining.transparent Joining.toRight rest)
      else true
    fits && joinersFit (c :: before) rest

/-- The conditions on a label in any name. -/
def labelFits (label : List Char) : Bool :=
  (label.head?).all (fun c => !Latest.mark.containsChar c) &&
    joinersFit [] (label.map Char.toNat)

/-- A label as it is meant, and as it is written in ASCII. -/
structure Label where
  meant : List Char
  written : List Char

def announcesPunycode (label : List Char) : Bool := ['x', 'n', '-', '-'].isPrefixOf label

/-- The most characters that a label may have that is not ASCII. -/
def longestMeant : Nat := 1000

def label? (label : List Char) : Option Label :=
  if announcesPunycode label then
    (Punycode.decode? (label.drop 4)).bind fun meant =>
      if !isAscii meant && meant.length ≤ longestMeant && meant.all Mapping.isPlain &&
          !meant.any isForbidden && Normalization.compose meant == meant && labelFits meant
      then some ⟨meant, label⟩ else none
  else if isAscii label then some ⟨label, label⟩
  else if label.length ≤ longestMeant && labelFits label then
    some ⟨label, ['x', 'n', '-', '-'] ++ Punycode.encode label⟩
  else none

/-- The conditions on a label of a name that has right-to-left parts. -/
def directionFits (label : List Char) : Bool :=
  let points := label.map Char.toNat
  match points with
  | [] => true
  | first :: _ =>
    let isLeft := fun c => !Direction.notLeft.contains c
    let isNumber := Direction.europeanNumber.contains
    let common := fun c =>
      isNumber c || Direction.neutral.contains c || Direction.nonspacing.contains c
    let last := (points.reverse.dropWhile Direction.nonspacing.contains).head?
    if isLeft first then
      points.all (fun c => isLeft c || common c) && last.any fun c => isLeft c || isNumber c
    else if Direction.rightToLeft.contains first || Direction.arabicLetter.contains first then
      points.all (fun c => Direction.strongRight.contains c || common c) &&
        last.any (fun c => Direction.strongRight.contains c || isNumber c) &&
        !(points.any isNumber && points.any Direction.arabicNumber.contains)
    else false

def joinLabels : List (List Char) → List Char
  | [] => []
  | [label] => label
  | label :: rest => label ++ '.' :: joinLabels rest

/-- The ASCII form of a name, if it is a valid one. -/
def toAscii? (name : List Char) : Option (List Char) :=
  (name.mapM Mapping.map?).bind fun parts =>
    let prepared := Normalization.compose parts.flatten
    if prepared.any isForbidden then none
    else ((labels prepared).mapM label?).bind fun found =>
      let mixed := found.any fun l => l.meant.any Direction.strongRight.containsChar
      if mixed && !found.all (directionFits ·.meant) then none
      else some (joinLabels (found.map (·.written)))

end CapturedTraffic.Url.Host.Name
