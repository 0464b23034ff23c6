import CapturedTraffic.Json.Value

/-!
# Printing JSON

The compact text of a value: no blanks, entries in their order, and only quotes, backslashes and
control characters escaped.
-/
namespace CapturedTraffic.Json

open Text

namespace Printer

def writeChar (c : Char) : List Char :=
  if c = '"' then ['\\', '"']
  else if c = '\\' then ['\\', '\\']
  else if c = '\x08' then ['\\', 'b']
  else if c = '\x0c' then ['\\', 'f']
  else if c = '\n' then ['\\', 'n']
  else if c = '\r' then ['\\', 'r']
  else if c = '\t' then ['\\', 't']
  else if c < ' ' then ['\\', 'u'] ++ Hex.fixed 4 c.toNat
  else [c]

def writeText (s : List Char) : List Char := '"' :: (s.flatMap writeChar ++ ['"'])

mutual

def write : Value → List Char
  | .null => ['n', 'u', 'l', 'l']
  | .boolean true => ['t', 'r', 'u', 'e']
  | .boolean false => ['f', 'a', 'l', 's', 'e']
  | .natural n => Decimal.digits n
  | .otherNumber => ['-', '0']
  | .text s => writeText (s.getD "").toList
  | .array [] => ['[', ']']
  | .array (v :: rest) => '[' :: write v ++ writeItems rest
  | .object [] => ['\x7b', '\x7d']
  | .object ((key, v) :: rest) =>
    '\x7b' :: writeText (key.getD "").toList ++ ':' :: write v ++ writeEntries rest

/-- The items after the first one, with the end of the array. -/
def writeItems : List Value → List Char
  | [] => [']']
  | v :: rest => ',' :: write v ++ writeItems rest

def writeEntries : List (Option String × Value) → List Char
  | [] => ['\x7d']
  | (key, v) :: rest =>
    ',' :: writeText (key.getD "").toList ++ ':' :: write v ++ writeEntries rest

end

end Printer

def Value.render (v : Value) : String := String.ofList (Printer.write v)

end CapturedTraffic.Json
