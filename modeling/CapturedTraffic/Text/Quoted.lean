import CapturedTraffic.Text.Hex
import CapturedTraffic.Unicode.Latest

/-!
# Quoted text

A text between double quotes. A quote, a backslash and the usual control characters are written
with a backslash; what has no visible form of its own, and marks that would join the character
before them, are written as their code point in braces. The halfwidth sound marks of Katakana stand
in a place of their own, and are kept.
-/
namespace CapturedTraffic.Text.Quoted

open Unicode

/-- What a reader cannot see: controls, formats, blanks but the space, unassigned code points. -/
def invisible : RangeSet :=
  .unions [Category.control, Category.format, Category.surrogate, Category.privateUse,
    Latest.unassigned, Category.separator.difference (.single 32), Property.defaultIgnorable]

def halfwidthSoundMarks : RangeSet := .ofText "FF9E-FF9F"

def escaped : RangeSet := invisible.union (Latest.graphemeExtend.difference halfwidthSoundMarks)

def isEscaped (c : Char) : Bool :=
  if c.toNat < 128 then c.toNat < 32 || c.toNat == 127 else escaped.containsChar c

def writeChar (c : Char) : List Char :=
  if c = '"' then ['\\', '"']
  else if c = '\\' then ['\\', '\\']
  else if c = '\x00' then ['\\', '0']
  else if c = '\t' then ['\\', 't']
  else if c = '\n' then ['\\', 'n']
  else if c = '\r' then ['\\', 'r']
  else if isEscaped c then ['\\', 'u', '\x7b'] ++ Hex.digits c.toNat ++ ['\x7d']
  else [c]

def write (s : List Char) : List Char := '"' :: (s.flatMap writeChar ++ ['"'])

end CapturedTraffic.Text.Quoted
