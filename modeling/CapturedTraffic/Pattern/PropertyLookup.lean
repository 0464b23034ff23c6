import CapturedTraffic.Pattern.Syntax
import CapturedTraffic.Unicode.Age
import CapturedTraffic.Unicode.Break
import CapturedTraffic.Unicode.Property
import CapturedTraffic.Unicode.Script

/-!
# Looking up properties

The set that a property of a pattern stands for. Names are compared without regard to case, blanks,
hyphens, underscores and a leading "is". A bare name is looked for among the binary properties, the
general categories and the scripts, in this order.
-/
namespace CapturedTraffic.Pattern

open Unicode

def isSeparator (c : Char) : Bool := c = ' ' || c = '_' || c = '-'

def lowerName (s : List Char) : List Char :=
  (s.filter fun c => !isSeparator c && c.toNat < 128).map Char.toLower

/-- The form of a property name under which it is listed. -/
def normalName (name : String) : String :=
  match name.toList with
  | a :: b :: rest =>
    if a.toLower = 'i' ∧ b.toLower = 's' then
      let tail := lowerName rest
      String.ofList (if tail = ['c'] then ['i', 's', 'c'] else tail)
    else String.ofList (lowerName (a :: b :: rest))
  | short => String.ofList (lowerName short)

def inTable? (table : List (List String × RangeSet)) (name : String) : Option RangeSet :=
  (table.find? (·.1.contains name)).map (·.2)

/-- The set of a property given by name alone; three names belong to categories only. -/
def namedSet? (name : String) : Option RangeSet :=
  let binary :=
    if name = "cf" ∨ name = "sc" ∨ name = "lc" then none
    else inTable? Unicode.Property.named name
  binary <|> inTable? Category.named name <|> Script.find? name

/-- The set of code points for which a property has a value. -/
def valueSet? (name value : String) : Option RangeSet :=
  if name = "gc" ∨ name = "generalcategory" then inTable? Category.named value
  else if name = "sc" ∨ name = "script" then Script.find? value
  else if name = "scx" ∨ name = "scriptextensions" then Script.findExtended? value
  else if name = "age" then Age.find? value
  else if name = "gcb" ∨ name = "graphemeclusterbreak" then inTable? Break.Grapheme.named value
  else if name = "wb" ∨ name = "wordbreak" then inTable? Break.Word.named value
  else if name = "sb" ∨ name = "sentencebreak" then inTable? Break.Sentence.named value
  else none

def Property.set? (p : Property) : Option RangeSet :=
  match p.value with
  | none => namedSet? (normalName p.name)
  | some value => valueSet? (normalName p.name) (normalName value)

end CapturedTraffic.Pattern
