/-!
# UTF-8

The bytes of a text, and the text of bytes. Reading goes byte by byte; bytes that belong to no
character are reported in maximal pieces, each of which is one replacement character when the
bytes are read leniently and an error when they are read strictly.
-/
namespace CapturedTraffic.Text.Utf8

def encode (s : String) : List UInt8 := s.toList.flatMap String.utf8EncodeChar

/-- A character of which some bytes have been read, with the bounds that the next one must obey. -/
structure Pending where
  bits : Nat
  missing : Nat
  low : Nat
  high : Nat
  deriving DecidableEq, Repr

/-- What a byte at the start of a character begins or is. `none` among the characters is bad. -/
def start (b : Nat) : List (Option Char) × Option Pending :=
  if b < 0x80 then ([some (Char.ofNat b)], none)
  else if b < 0xC2 then ([none], none)
  else if b < 0xE0 then ([], some ⟨b % 0x20, 1, 0x80, 0xBF⟩)
  else if b < 0xF0 then
    ([], some ⟨b % 0x10, 2, if b = 0xE0 then 0xA0 else 0x80, if b = 0xED then 0x9F else 0xBF⟩)
  else if b < 0xF5 then
    ([], some ⟨b % 0x08, 3, if b = 0xF0 then 0x90 else 0x80, if b = 0xF4 then 0x8F else 0xBF⟩)
  else ([none], none)

def step : Option Pending → Nat → List (Option Char) × Option Pending
  | none, b => start b
  | some p, b =>
    if p.low ≤ b ∧ b ≤ p.high then
      let bits := 0x40 * p.bits + b % 0x40
      if p.missing ≤ 1 then ([some (Char.ofNat bits)], none)
      else ([], some ⟨bits, p.missing - 1, 0x80, 0xBF⟩)
    else
      let (found, next) := start b
      (none :: found, next)

/-- The characters of the bytes, with `none` for each piece that is no character. -/
def scan : Option Pending → List UInt8 → List (Option Char)
  | none, [] => []
  | some _, [] => [none]
  | state, b :: rest =>
    let (found, next) := step state b.toNat
    found ++ scan next rest

/-- The text of the bytes, with U+FFFD for every piece that is no character. -/
def decodeLossy (bytes : List UInt8) : String :=
  String.ofList ((scan none bytes).map fun c => c.getD (Char.ofNat 0xFFFD))

/-- The text of the bytes, if all of them belong to characters. -/
def decode? (bytes : List UInt8) : Option String :=
  ((scan none bytes).mapM id).map String.ofList

end CapturedTraffic.Text.Utf8
