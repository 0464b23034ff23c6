import CapturedTraffic.Time.Date

/-!
# Instants

A point in time in UTC, as whole seconds since the start of 1970 and nanoseconds after them. A
leap second is counted as further nanoseconds of the last second of its minute.
-/
namespace CapturedTraffic.Time

open Text

structure Instant where
  seconds : Int
  nanos : Nat
  deriving DecidableEq, Repr

namespace Instant

def billion : Nat := 1000000000

def date (t : Instant) : Date := .ofDay (t.seconds / 86400)

/-- The years that dates are kept for. -/
def inCalendar (t : Instant) : Bool := -262143 ≤ t.date.year && t.date.year ≤ 262142

def ofUnix? (seconds : Int) (nanos : Nat) : Option Instant :=
  let t : Instant := ⟨seconds, nanos⟩
  if (nanos < billion ∨ nanos < 2 * billion ∧ seconds % 60 = 59) ∧ t.inCalendar then some t
  else none

/-- The fraction of a second in three, six or nine digits, the fewest that are exact. -/
def fractionText (nanos : Nat) : List Char :=
  if nanos = 0 then []
  else if nanos % 1000000 = 0 then '.' :: Decimal.fixed 3 (nanos / 1000000)
  else if nanos % 1000 = 0 then '.' :: Decimal.fixed 6 (nanos / 1000)
  else '.' :: Decimal.fixed 9 nanos

/-- The time of day, where a leap second is the sixty-first of its minute. -/
def clockText (t : Instant) : List Char :=
  let ofDay := (t.seconds % 86400).toNat
  let second := ofDay % 60 + t.nanos / billion
  Decimal.fixed 2 (ofDay / 3600) ++ ':' :: Decimal.fixed 2 (ofDay / 60 % 60) ++
    ':' :: Decimal.fixed 2 second ++ fractionText (t.nanos % billion)

def text (t : Instant) : String :=
  String.ofList (t.date.text ++ ' ' :: t.clockText ++ [' ', 'U', 'T', 'C'])

end Instant

end CapturedTraffic.Time
