/-!
# Punycode

A label written with ASCII letters, digits and hyphens alone. The ASCII characters of the label
come first; the others are inserted in the order of their code points, each by a number that says
how far to go from the one before it. Digits stand for more than one range of values, which is
adjusted after every insertion.
-/
namespace CapturedTraffic.Url.Host.Punycode

/-- The bounds of the values that a digit in the given place leaves to those after it. -/
def floor (bias place : Nat) : Nat :=
  if place < bias + 1 then 1 else if place - bias < 26 then place - bias else 26

theorem floor_pos (bias place : Nat) : 0 < floor bias place := by
  unfold floor
  split
  · omega
  · split <;> omega

/-- Divides a distance down to the range in which the bias formula is fair. -/
def settle (distance places : Nat) : Nat × Nat :=
  if 455 < distance then settle (distance / 35) (places + 36) else (distance, places)
termination_by distance
decreasing_by omega

/-- The bias after an insertion by `distance` that makes a label of `size` characters. -/
def adapt (first : Bool) (distance size : Nat) : Nat :=
  let damped := if first then distance / 700 else distance / 2
  let (rest, places) := settle (damped + damped / size) 0
  places + 36 * rest / (rest + 38)

def digit (n : Nat) : Char := Char.ofNat (if n < 26 then 97 + n else 22 + n)

def value? (c : Char) : Option Nat :=
  if 'a' ≤ c ∧ c ≤ 'z' then some (c.toNat - 97)
  else if '0' ≤ c ∧ c ≤ '9' then some (c.toNat - 22)
  else none

def writeNumber (bias place n : Nat) : List Char :=
  let least := floor bias place
  if n < least then [digit n]
  else
    digit (least + (n - least) % (36 - least)) ::
      writeNumber bias (place + 36) ((n - least) / (36 - least))
termination_by n
decreasing_by
  have := floor_pos bias place
  have := Nat.div_le_self (n - floor bias place) (36 - floor bias place)
  omega

structure Writer where
  written : List Char
  count : Nat
  distance : Nat
  bias : Nat
  first : Bool

/-- Passes one character while code point `n` is being inserted. -/
def Writer.pass (n : Nat) (w : Writer) (c : Nat) : Writer :=
  if c < n then { w with distance := w.distance + 1 }
  else if c = n then
    { written := w.written ++ writeNumber w.bias 36 w.distance
      count := w.count + 1
      distance := 0
      bias := adapt w.first w.distance (w.count + 1)
      first := false }
  else w

/-- Inserts the given code points, which are in ascending order, starting after `last`. -/
def insertAll (label : List Nat) (w : Writer) (last : Nat) : List Nat → List Char
  | [] => w.written
  | n :: rest =>
    let w := { w with distance := w.distance + (n - last) * (w.count + 1) }
    let w := label.foldl (Writer.pass n) w
    insertAll label { w with distance := w.distance + 1 } (n + 1) rest

def encode (label : List Char) : List Char :=
  let points := label.map Char.toNat
  let basic := label.filter (·.toNat < 0x80)
  let others := ((points.filter (0x80 ≤ ·)).mergeSort (· ≤ ·)).eraseDups
  let front := if basic.isEmpty then [] else basic ++ ['-']
  front ++ insertAll points ⟨[], basic.length, 0, 72, true⟩ 0x80 others

/-- A label being read, with the number of which some digits have been seen. -/
structure Reader where
  label : List Nat
  point : Nat
  index : Nat
  bias : Nat
  first : Bool
  distance : Nat
  weight : Nat
  place : Nat

def insertAt (c : Nat) : Nat → List Nat → List Nat
  | i + 1, x :: rest => x :: insertAt c i rest
  | _, rest => c :: rest

/-- Inserts the character that a complete number asks for, and starts the next number. -/
def Reader.finish? (r : Reader) : Option Reader :=
  let size := r.label.length + 1
  let reached := r.index + r.distance
  let point := r.point + reached / size
  if point.isValidChar then
    some
      { label := insertAt point (reached % size) r.label
        point := point
        index := reached % size + 1
        bias := adapt r.first r.distance size
        first := false
        distance := 0
        weight := 1
        place := 36 }
  else none

def readDigits (r : Reader) (between : Bool) : List Char → Option (List Nat)
  | [] => if between then some r.label else none
  | c :: rest => (value? c).bind fun d =>
      let r := { r with distance := r.distance + d * r.weight }
      let least := floor r.bias r.place
      if d < least then r.finish?.bind fun r => readDigits r true rest
      else readDigits { r with weight := r.weight * (36 - least), place := r.place + 36 } false rest

/-- The most characters that are read as one written label. -/
def longestWritten : Nat := 2000

/--
Reads a written label, which must be ASCII; the part that stands for itself ends at the last hyphen,
unless that is the first character.
-/
def decode? (written : List Char) : Option (List Char) :=
  let tail := (written.reverse.takeWhile (· != '-')).reverse
  let front := written.take (written.length - tail.length)
  let (basic, digits) := if front.length < 2 then ([], written) else (front.dropLast, tail)
  if longestWritten < written.length || written.any (0x80 ≤ ·.toNat) then none
  else
    (readDigits ⟨basic.map Char.toNat, 0x80, 0, 72, true, 0, 1, 36⟩ true digits).map
      (·.map Char.ofNat)

end CapturedTraffic.Url.Host.Punycode
