import CapturedTraffic.Text.Hex
import CapturedTraffic.Text.Utf8

/-!
# Percent-encoding

Characters that a part of a URL may not hold are written as the bytes of their encoding, each as a
percent sign with two capital digits. Every part has its own set of such characters; control
characters and all that is not ASCII belong to every set.
-/
namespace CapturedTraffic.Url.Percent

open Text

def isControl (c : Char) : Bool := c < ' ' || '~' < c

def inFragment (c : Char) : Bool := isControl c || [' ', '"', '<', '>', '\x60'].contains c

def inPath (c : Char) : Bool := inFragment c || ['#', '?', '\x7b', '\x7d'].contains c

def inUserinfo (c : Char) : Bool :=
  inPath c || ['/', ':', ';', '=', '@', '[', '\\', ']', '^', '|'].contains c

def inQuery (c : Char) : Bool := isControl c || [' ', '"', '#', '<', '>'].contains c

def inSpecialQuery (c : Char) : Bool := inQuery c || c == '\''

def encodeByte (b : UInt8) : List Char := '%' :: (Hex.fixed 2 b.toNat).map Char.toUpper

def encodeChar (encoded : Char → Bool) (c : Char) : List Char :=
  if encoded c then (String.utf8EncodeChar c).flatMap encodeByte else [c]

def encode (encoded : Char → Bool) (s : List Char) : List Char := s.flatMap (encodeChar encoded)

/-- The bytes of a text in which a percent sign with two digits stands for one byte. -/
def decode : List Char → List UInt8
  | '%' :: a :: b :: rest =>
    match Hex.value? a, Hex.value? b with
    | some x, some y => (16 * x + y).toUInt8 :: decode rest
    | _, _ => 37 :: decode (a :: b :: rest)
  | c :: rest => String.utf8EncodeChar c ++ decode rest
  | [] => []

end CapturedTraffic.Url.Percent
