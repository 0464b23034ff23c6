import CapturedTraffic.Text.Hex
import CapturedTraffic.Time.Instant

/-!
# Identifiers

An exchange is identified by a 128-bit number. Four of its bits are a version; numbers of version
7 begin with a count of milliseconds since 1970, those of versions 1 and 6 hold a count of ticks
since the start of the Gregorian calendar, and the others carry no time.
-/
namespace CapturedTraffic

open Text Time

structure ExchangeId where
  value : Nat
  value_lt : value < 2 ^ 128
  deriving DecidableEq, Repr

namespace ExchangeId

instance : LT ExchangeId := ⟨fun a b => a.value < b.value⟩

instance : LE ExchangeId := ⟨fun a b => a.value ≤ b.value⟩

instance (a b : ExchangeId) : Decidable (a < b) := inferInstanceAs (Decidable (a.value < b.value))

instance (a b : ExchangeId) : Decidable (a ≤ b) := inferInstanceAs (Decidable (a.value ≤ b.value))

/-- Groups of 8, 4, 4, 4 and 12 lower-case hexadecimal digits, between hyphens. -/
def chars (id : ExchangeId) : List Char :=
  Hex.fixed 8 (id.value / 2 ^ 96) ++ '-' :: Hex.fixed 4 (id.value / 2 ^ 80) ++
    '-' :: Hex.fixed 4 (id.value / 2 ^ 64) ++ '-' :: Hex.fixed 4 (id.value / 2 ^ 48) ++
    '-' :: Hex.fixed 12 id.value

def text (id : ExchangeId) : String := String.ofList id.chars

def ofNumber? (n : Nat) : Option ExchangeId :=
  if h : n < 2 ^ 128 then some ⟨n, h⟩ else none

def ofDigits? (digits : List Char) : Option ExchangeId :=
  if digits.length = 32 then (Hex.number? 0 digits).bind ofNumber? else none

/-- The digits of the hyphenated form, if the hyphens are in place. -/
def ungroup? (s : List Char) : Option (List Char) :=
  if s.length = 36 ∧ s[8]? = some '-' ∧ s[13]? = some '-' ∧ s[18]? = some '-' ∧ s[23]? = some '-'
  then some (s.take 8 ++ (s.drop 9).take 4 ++ (s.drop 14).take 4 ++ (s.drop 19).take 4 ++ s.drop 24)
  else none

def ofGroups? (s : List Char) : Option ExchangeId := (ungroup? s).bind ofDigits?

/-- Reads 32 digits, or the hyphenated form alone, in braces, or after its name space in any case. -/
def parse? (s : String) : Option ExchangeId :=
  let cs := s.toList
  if cs.length = 32 then ofDigits? cs
  else if cs.length = 38 ∧ cs.head? = some '\x7b' ∧ cs.getLast? = some '\x7d' then
    ofGroups? (cs.drop 1).dropLast
  else if (cs.take 9).map Char.toLower = "urn:uuid:".toList then ofGroups? (cs.drop 9)
  else ofGroups? cs

def version (id : ExchangeId) : Nat := id.value / 2 ^ 76 % 16

/-- The first 48 bits. -/
def milliseconds (id : ExchangeId) : Nat := id.value / 2 ^ 80

/-- Ticks of 100 nanoseconds between the start of the Gregorian calendar and that of 1970. -/
def epochTicks : Nat := 0x01B21DD213814000

/-- The tick count of version 1, stored with its least significant part first. -/
def ticksReversed (id : ExchangeId) : Nat :=
  id.value / 2 ^ 64 % 2 ^ 12 * 2 ^ 48 + id.value / 2 ^ 80 % 2 ^ 16 * 2 ^ 32 + id.value / 2 ^ 96

/-- The tick count of version 6, stored in order. -/
def ticksOrdered (id : ExchangeId) : Nat :=
  id.value / 2 ^ 80 * 2 ^ 12 + id.value / 2 ^ 64 % 2 ^ 12

/-- The instant of a tick count; ticks before 1970 wrap around at 64 bits. -/
def instantOfTicks (ticks : Nat) : Option Instant :=
  let since := (ticks + 2 ^ 64 - epochTicks) % 2 ^ 64
  Instant.ofUnix? (since / 10000000 : Nat) (since % 10000000 * 100)

/-- The time that the identifier carries, if its version has one. -/
def timestamp (id : ExchangeId) : Option Instant :=
  if id.version = 7 then
    Instant.ofUnix? (id.milliseconds / 1000 : Nat) (id.milliseconds % 1000 * 1000000)
  else if id.version = 1 then instantOfTicks id.ticksReversed
  else if id.version = 6 then instantOfTicks id.ticksOrdered
  else none

/-- Milliseconds since 1970, if the instant is not before that. -/
def stamp? (t : Instant) : Option Nat :=
  if 0 ≤ t.seconds then some (t.seconds.toNat * 1000 + t.nanos / 1000000) else none

/-- A version 7 number with the low 48 bits of `ms` in front and the given bits where it is free. -/
def ofMilliseconds (ms : Nat) (first : Fin (2 ^ 12)) (second : Fin (2 ^ 62)) : ExchangeId :=
  ⟨ms % 2 ^ 48 * 2 ^ 80 + 7 * 2 ^ 76 + first * 2 ^ 64 + 2 ^ 63 + second, by
    have := first.isLt; have := second.isLt; omega⟩

/-- An identifier stamped with an instant; times before 1970 have none. -/
def at? (t : Instant) (first : Fin (2 ^ 12)) (second : Fin (2 ^ 62)) : Option ExchangeId :=
  (stamp? t).map fun ms => ofMilliseconds ms first second

end ExchangeId

end CapturedTraffic
