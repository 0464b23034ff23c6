import CapturedTraffic.Text.Decimal
import CapturedTraffic.Text.Hex

/-!
# Addresses

Hosts given by number. A version 4 address may be written in one to four parts, each in decimal,
octal or hexadecimal; a version 6 address is eight pieces, of which one run of zeros may be left
out. Each has one written form, in which the first longest run of zeros is left out.
-/
namespace CapturedTraffic.Url.Host.Address

open Text

def splitDots (s : List Char) : List (List Char) :=
  match s with
  | [] => [[]]
  | c :: rest =>
    match splitDots rest with
    | [] => [[c]]
    | part :: more => if c = '.' then [] :: part :: more else (c :: part) :: more

/-- The number that the digits denote in a base, if all of them are digits of it. -/
def inBase? (base : Nat) (digits : List Char) : Option Nat :=
  digits.foldlM (fun n c => (Hex.value? c).bind fun d =>
    if d < base then some (base * n + d) else none) 0

/-- A part of a version 4 address; a leading zero announces another base. -/
def part? : List Char → Option Nat
  | [] => none
  | ['0'] => some 0
  | '0' :: 'x' :: digits => inBase? 16 digits
  | '0' :: 'X' :: digits => inBase? 16 digits
  | '0' :: digits => inBase? 8 digits
  | digits => inBase? 10 digits

/-- The parts of a name, where a dot at the end does not start another one. -/
def parts (name : List Char) : List (List Char) :=
  match (splitDots name).reverse with
  | [] :: rest => rest.reverse
  | all => all.reverse

/-- A name whose last part is a number must be an address. -/
def endsInNumber (name : List Char) : Bool :=
  match (parts name).getLast? with
  | none => false
  | some last => (!last.isEmpty && last.all Decimal.isDigit) || (part? last).isSome

/-- Parts below 256, with the last one filling the bytes that are left. -/
def combine? : Nat → Nat → List Nat → Option Nat
  | _, _, [] => none
  | room, high, [last] =>
    let left := Nat.pow 256 room
    if last < left then some (high * left + last) else none
  | 0, _, _ => none
  | room + 1, high, n :: rest => if n < 256 then combine? room (high * 256 + n) rest else none

def version4? (name : List Char) : Option Nat :=
  let written := parts name
  if 4 < written.length then none else (written.mapM part?).bind (combine? 4 0)

def version4Text (n : Nat) : List Char :=
  Decimal.digits (n / 2 ^ 24) ++ '.' :: Decimal.digits (n / 2 ^ 16 % 256) ++
    '.' :: Decimal.digits (n / 2 ^ 8 % 256) ++ '.' :: Decimal.digits (n % 256)

/-- One byte of the dotted end of a version 6 address: no leading zero, at most 255. -/
def byte? (digits : List Char) : Option Nat :=
  if digits.isEmpty || (digits.head? == some '0' && digits.length != 1) then none
  else if digits.all Decimal.isDigit then
    let n := Decimal.value 0 digits
    if n < 256 then some n else none
  else none

/-- The two pieces that a dotted end stands for. -/
def dotted? (s : List Char) : Option (List Nat) :=
  match (splitDots s).mapM byte? with
  | some [a, b, c, d] => some [256 * a + b, 256 * c + d]
  | _ => none

/--
Reads pieces up to the end. `before` are the pieces so far, last first; `gap` is how many of them
came before the run that was left out, which takes the place of one piece at least.
-/
def pieces? : Nat → List Nat → Option Nat → List Char → Option (List Nat × Option Nat)
  | 0, _, _, _ => none
  | _ + 1, before, gap, [] => some (before.reverse, gap)
  | fuel + 1, before, gap, s@(c :: rest) =>
    if 8 ≤ before.length then none
    else if c = ':' then
      if gap.isSome then none else pieces? fuel (0 :: before) (some (before.length + 1)) rest
    else
      let digits := (s.take 4).takeWhile fun c => (Hex.value? c).isSome
      let value := (Hex.number? 0 digits).getD 0
      match s.drop digits.length with
      | [] => some ((value :: before).reverse, gap)
      | '.' :: _ =>
        if digits.isEmpty || 6 < before.length then none
        else (dotted? s).map fun found => (before.reverse ++ found, gap)
      | [':'] => none
      | ':' :: tail => pieces? fuel (value :: before) gap tail
      | _ => none

/-- The eight pieces of a version 6 address. -/
def version6? (s : List Char) : Option (List Nat) :=
  let start := match s with
    | ':' :: ':' :: rest => pieces? (s.length + 1) [0] (some 1) rest
    | ':' :: _ => none
    | [_] => none
    | _ => pieces? (s.length + 1) [] none s
  start.bind fun (found, gap) =>
    match gap with
    | none => if found.length = 8 then some found else none
    | some front =>
      if found.length ≤ 8 then
        some (found.take front ++ List.replicate (8 - found.length) 0 ++ found.drop front)
      else none

/-- The start and the length of the first longest run of zeros. -/
def longestRun (place : Nat) (current best : Nat × Nat) : List Nat → Nat × Nat
  | [] => best
  | n :: rest =>
    if n = 0 then
      let current := if current.2 = 0 then (place, 1) else (current.1, current.2 + 1)
      longestRun (place + 1) current (if best.2 < current.2 then current else best) rest
    else longestRun (place + 1) (0, 0) best rest

def joinPieces : List Nat → List Char
  | [] => []
  | [n] => Hex.digits n
  | n :: rest => Hex.digits n ++ ':' :: joinPieces rest

def version6Text (found : List Nat) : List Char :=
  let (start, length) := longestRun 0 (0, 0) (0, 0) found
  if length < 2 then joinPieces found
  else joinPieces (found.take start) ++ [':', ':'] ++ joinPieces (found.drop (start + length))

end CapturedTraffic.Url.Host.Address
