import CapturedTraffic.Text.Decimal

/-!
# Calendar dates

Days of the Gregorian calendar, counted from the first of January 1970. The count is split into
spans of 400 years that begin in March, so that the leap day is the last day of its year.
-/
namespace CapturedTraffic.Time

open Text

structure Date where
  year : Int
  month : Nat
  day : Nat
  deriving DecidableEq, Repr

namespace Date

/-- The date that lies `n` days after the first of January 1970. -/
def ofDay (n : Int) : Date :=
  let shifted := n + 719468
  let span := shifted / 146097
  let inSpan := (shifted % 146097).toNat
  let year := (inSpan - inSpan / 1460 + inSpan / 36524 - inSpan / 146096) / 365
  let inYear := inSpan - (365 * year + year / 4 - year / 100)
  let month := (5 * inYear + 2) / 153
  let day := inYear - (153 * month + 2) / 5 + 1
  if month < 10 then ⟨span * 400 + year, month + 3, day⟩
  else ⟨span * 400 + year + 1, month - 9, day⟩

/-- Four digits for the years 0 to 9999; other years have a sign and at least four digits. -/
def yearText (year : Int) : List Char :=
  if 0 ≤ year ∧ year ≤ 9999 then Decimal.fixed 4 year.toNat
  else (if 0 ≤ year then '+' else '-') :: Decimal.padded 4 year.natAbs

def text (d : Date) : List Char :=
  yearText d.year ++ '-' :: Decimal.fixed 2 d.month ++ '-' :: Decimal.fixed 2 d.day

end Date

end CapturedTraffic.Time
