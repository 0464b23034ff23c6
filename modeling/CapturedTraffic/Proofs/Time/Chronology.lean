import CapturedTraffic.Proofs.Text.DigitOrder
import CapturedTraffic.Time.Instant
import Mathlib.Order.Monotone.Basic

/-!
# Dates in order

A later day has a later date. Days are told apart first by the year that begins in March and then
by the day in it, and both the months and the days of such a year go up with it.
-/
namespace CapturedTraffic.Time

open Text

namespace Date

instance : LT Date where
  lt a b := a.year < b.year ∨
    a.year = b.year ∧ (a.month < b.month ∨ a.month = b.month ∧ a.day < b.day)

theorem lt_iff {a b : Date} : a < b ↔ a.year < b.year ∨
    a.year = b.year ∧ (a.month < b.month ∨ a.month = b.month ∧ a.day < b.day) := Iff.rfl

/-- A day of a span, less the leap days that have gone before it. -/
def withoutLeapDays (n : Nat) : Nat := n - n / 1460 + n / 36524 - n / 146096

/-- The year that a day of a span falls into. -/
def yearInSpan (n : Nat) : Nat := withoutLeapDays n / 365

/-- The first day of a year of a span. -/
def firstDay (year : Nat) : Nat := 365 * year + year / 4 - year / 100

theorem withoutLeapDays_le_succ (n : Nat) : withoutLeapDays n ≤ withoutLeapDays (n + 1) := by
  have below : n / 1460 ≤ n := Nat.div_le_self n 1460
  have four : (n + 1) / 1460 ≤ n / 1460 + 1 := by omega
  have spans : (n + 1) / 146096 + n / 36524 ≤ (n + 1) / 36524 + n / 146096 := by
    have before := Nat.div_div_eq_div_mul n 36524 4
    have after := Nat.div_div_eq_div_mul (n + 1) 36524 4
    omega
  unfold withoutLeapDays
  omega

theorem yearInSpan_le_yearInSpan {m n : Nat} (h : m ≤ n) : yearInSpan m ≤ yearInSpan n :=
  Nat.div_le_div_right (monotone_nat_of_le_succ withoutLeapDays_le_succ h)

theorem yearInSpan_firstDay {year : Nat} (h : year < 400) : yearInSpan (firstDay year) = year := by
  have all : ∀ year < 400, yearInSpan (firstDay year) = year := by decide +kernel
  exact all year h

theorem yearInSpan_lastDay {year : Nat} (h : year < 400) :
    yearInSpan (firstDay (year + 1) - 1) = year := by
  have all : ∀ year < 400, yearInSpan (firstDay (year + 1) - 1) = year := by decide +kernel
  exact all year h

theorem yearInSpan_lt {n : Nat} (h : n < 146097) : yearInSpan n < 400 := by
  have last : yearInSpan n ≤ yearInSpan 146096 := yearInSpan_le_yearInSpan (Nat.le_of_lt_succ h)
  exact Nat.lt_of_le_of_lt last (by decide)

theorem firstDay_le {n : Nat} (h : n < 146097) : firstDay (yearInSpan n) ≤ n := by
  by_contra early
  cases year : yearInSpan n with
  | zero => rw [year] at early; exact early (Nat.zero_le n)
  | succ earlier =>
    have bound := yearInSpan_lt h
    rw [year] at early bound
    have before : yearInSpan n ≤ yearInSpan (firstDay (earlier + 1) - 1) :=
      yearInSpan_le_yearInSpan (by omega)
    rw [yearInSpan_lastDay (by omega)] at before
    omega

theorem lt_firstDay_succ {n : Nat} (h : yearInSpan n + 1 < 400) :
    n < firstDay (yearInSpan n + 1) := by
  by_contra late
  have after := yearInSpan_le_yearInSpan (Nat.le_of_not_lt late)
  rw [yearInSpan_firstDay h] at after
  omega

/-- The last year of a span has a leap day more than its first day and the next one tell. -/
theorem sub_firstDay_le {n : Nat} (h : n < 146097) : n - firstDay (yearInSpan n) ≤ 365 := by
  have bound := yearInSpan_lt h
  by_cases last : yearInSpan n + 1 < 400
  · have before := lt_firstDay_succ last
    generalize yearInSpan n = year at before
    unfold firstDay at before ⊢
    omega
  · have year : yearInSpan n = 399 := by omega
    have first : firstDay 399 = 145731 := by decide
    rw [year, first]
    omega

/-- The year of a day, where years begin in March. -/
def marchYear (n : Int) : Int :=
  (n + 719468) / 146097 * 400 + yearInSpan ((n + 719468) % 146097).toNat

/-- The place of a day in its year, where years begin in March. -/
def dayOfMarchYear (n : Int) : Nat :=
  let inSpan := ((n + 719468) % 146097).toNat
  inSpan - firstDay (yearInSpan inSpan)

/-- The date of a day of a year that begins in March. -/
def ofMarchYear (year : Int) (inYear : Nat) : Date :=
  let month := (5 * inYear + 2) / 153
  let day := inYear - (153 * month + 2) / 5 + 1
  if month < 10 then ⟨year, month + 3, day⟩ else ⟨year + 1, month - 9, day⟩

theorem ofDay_eq_ofMarchYear (n : Int) :
    ofDay n = ofMarchYear (marchYear n) (dayOfMarchYear n) := rfl

theorem dayOfMarchYear_le (n : Int) : dayOfMarchYear n ≤ 365 :=
  sub_firstDay_le (by omega)

/-- A later day is in a later year, or further on in the same one. -/
theorem marchYear_lt_or {m n : Int} (h : m < n) :
    marchYear m < marchYear n ∨ marchYear m = marchYear n ∧ dayOfMarchYear m < dayOfMarchYear n := by
  have smallM : ((m + 719468) % 146097).toNat < 146097 := by omega
  have smallN : ((n + 719468) % 146097).toNat < 146097 := by omega
  have boundM := yearInSpan_lt smallM
  by_cases span : (m + 719468) / 146097 = (n + 719468) / 146097
  · have later : ((m + 719468) % 146097).toNat < ((n + 719468) % 146097).toNat := by omega
    have years := yearInSpan_le_yearInSpan (Nat.le_of_lt later)
    have started := firstDay_le smallM
    unfold marchYear dayOfMarchYear
    dsimp only
    rw [span]
    rcases Nat.lt_or_eq_of_le years with less | same
    · exact .inl (by omega)
    · rw [← same]
      exact .inr ⟨rfl, by omega⟩
  · left
    unfold marchYear
    omega

theorem ofMarchYear_lt {year later : Int} {inYear inLater : Nat} (bound : inYear ≤ 365)
    (h : year < later ∨ year = later ∧ inYear < inLater) :
    ofMarchYear year inYear < ofMarchYear later inLater := by
  unfold ofMarchYear
  dsimp only
  rw [lt_iff]
  split <;> split <;> dsimp only <;> omega

theorem ofDay_lt_ofDay {m n : Int} (h : m < n) : ofDay m < ofDay n := by
  rw [ofDay_eq_ofMarchYear, ofDay_eq_ofMarchYear]
  exact ofMarchYear_lt (dayOfMarchYear_le m) (marchYear_lt_or h)

theorem month_day_ofDay_lt (n : Int) : (ofDay n).month < 100 ∧ (ofDay n).day < 100 := by
  have bound := dayOfMarchYear_le n
  rw [ofDay_eq_ofMarchYear]
  unfold ofMarchYear
  dsimp only
  split <;> dsimp only <;> omega

theorem text_append_lt {a b : Date} (ha : 0 ≤ a.year ∧ a.year ≤ 9999)
    (hb : 0 ≤ b.year ∧ b.year ≤ 9999) (month : b.month < 100) (day : b.day < 100)
    {r s : List Char} (h : a < b ∨ a = b ∧ r < s) : a.text ++ r < b.text ++ s := by
  have blocks : a.year < b.year ∨ a.year = b.year ∧
      (a.month < b.month ∨ a.month = b.month ∧ (a.day < b.day ∨ a.day = b.day ∧ r < s)) := by
    rcases h with (year | ⟨year, month | ⟨month, day⟩⟩) | ⟨rfl, less⟩
    · exact .inl year
    · exact .inr ⟨year, .inl month⟩
    · exact .inr ⟨year, .inr ⟨month, .inl day⟩⟩
    · exact .inr ⟨rfl, .inr ⟨rfl, .inr ⟨rfl, less⟩⟩⟩
  rw [text, text, yearText, yearText, if_pos ha, if_pos hb]
  simp only [List.append_assoc, List.cons_append]
  apply Decimal.fixed_append_lt (by omega)
  refine blocks.imp (by omega) fun ⟨year, blocks⟩ => ⟨by rw [year], ?_⟩
  apply List.cons_lt_cons_self.2
  apply Decimal.fixed_append_lt month
  refine blocks.imp_right fun ⟨month, blocks⟩ => ⟨month, ?_⟩
  apply List.cons_lt_cons_self.2
  exact Decimal.fixed_append_lt day blocks

end Date

namespace Instant

instance : LT Instant where
  lt a b := a.seconds < b.seconds ∨ a.seconds = b.seconds ∧ a.nanos < b.nanos

instance : LE Instant where
  le a b := a.seconds < b.seconds ∨ a.seconds = b.seconds ∧ a.nanos ≤ b.nanos

variable {a b : Instant}

theorem lt_iff : a < b ↔ a.seconds < b.seconds ∨ a.seconds = b.seconds ∧ a.nanos < b.nanos := Iff.rfl

theorem le_iff_not_lt : a ≤ b ↔ ¬ b < a := by
  have le : a ≤ b ↔ a.seconds < b.seconds ∨ a.seconds = b.seconds ∧ a.nanos ≤ b.nanos := Iff.rfl
  rw [le, lt_iff]
  omega

theorem lt_or_eq_or_gt (a b : Instant) : a < b ∨ a = b ∨ b < a := by
  have same : a = b ↔ a.seconds = b.seconds ∧ a.nanos = b.nanos := by
    cases a
    cases b
    rw [mk.injEq]
  rw [lt_iff, lt_iff, same]
  omega

/-- The fraction of a second is written in groups of three digits, unless it is zero. -/
theorem fractionText_eq_groups (n : Nat) :
    fractionText n = if n = 0 then [] else '.' :: Decimal.groups 3 n := by
  have six (m : Nat) : Decimal.fixed 6 m = Decimal.fixed 3 (m / 1000) ++ Decimal.fixed 3 m :=
    Decimal.fixed_append 3 3 m
  have nine : Decimal.fixed 9 n = Decimal.fixed 3 (n / 1000000) ++ Decimal.fixed 6 n :=
    Decimal.fixed_append 3 6 n
  have middle : Decimal.fixed 3 (n % 1000000 / 1000) = Decimal.fixed 3 (n / 1000) := by
    rw [← Decimal.fixed_mod 3 (n / 1000)]
    congr 1
    omega
  have last : Decimal.fixed 3 (n % 1000) = Decimal.fixed 3 n := Decimal.fixed_mod 3 n
  have thousandth : n % 1000000 % 1000 = n % 1000 := Nat.mod_mod_of_dvd n (by decide)
  simp only [fractionText, Decimal.groups, Nat.reducePow, Nat.div_one, List.append_nil, six, nine,
    middle, thousandth, last, Nat.div_div_eq_div_mul, Nat.reduceMul]
  split_ifs <;> simp only [List.append_nil]

/-- A shorter fraction ends before the digits that a longer one goes on with. -/
theorem fractionText_append_lt {m n : Nat} (h : m < n) (hn : n < billion) (r s : List Char) :
    fractionText m ++ ' ' :: r < fractionText n ++ s := by
  rw [fractionText_eq_groups, fractionText_eq_groups, if_neg (by omega : n ≠ 0)]
  by_cases zero : m = 0
  · rw [if_pos zero]
    exact List.cons_lt_cons_iff.2 (.inl (by decide))
  · rw [if_neg zero]
    exact List.cons_lt_cons_self.2 (Decimal.groups_lt_groups h hn r s)

/-- The seconds of the day that have gone. -/
def ofDay (t : Instant) : Nat := (t.seconds % 86400).toNat

theorem clockText_of_nanos_lt {t : Instant} (h : t.nanos < billion) :
    t.clockText = Decimal.fixed 2 (t.ofDay / 3600) ++ ':' :: Decimal.fixed 2 (t.ofDay / 60 % 60) ++
      ':' :: Decimal.fixed 2 (t.ofDay % 60) ++ fractionText t.nanos := by
  rw [clockText, Nat.div_eq_of_lt h, Nat.mod_eq_of_lt h]
  rfl

theorem clockText_append_lt (ha : a.nanos < billion) (hb : b.nanos < billion)
    (h : a.ofDay < b.ofDay ∨ a.ofDay = b.ofDay ∧ a.nanos < b.nanos) (r s : List Char) :
    a.clockText ++ ' ' :: r < b.clockText ++ s := by
  have small : b.ofDay < 86400 := by
    unfold ofDay
    omega
  have blocks : a.ofDay / 3600 < b.ofDay / 3600 ∨ a.ofDay / 3600 = b.ofDay / 3600 ∧
      (a.ofDay / 60 % 60 < b.ofDay / 60 % 60 ∨ a.ofDay / 60 % 60 = b.ofDay / 60 % 60 ∧
        (a.ofDay % 60 < b.ofDay % 60 ∨ a.ofDay % 60 = b.ofDay % 60 ∧ a.nanos < b.nanos)) := by
    omega
  rw [clockText_of_nanos_lt ha, clockText_of_nanos_lt hb]
  simp only [List.append_assoc, List.cons_append]
  apply Decimal.fixed_append_lt (by omega)
  refine blocks.imp_right fun ⟨hour, blocks⟩ => ⟨hour, ?_⟩
  apply List.cons_lt_cons_self.2
  apply Decimal.fixed_append_lt (by omega)
  refine blocks.imp_right fun ⟨minute, blocks⟩ => ⟨minute, ?_⟩
  apply List.cons_lt_cons_self.2
  apply Decimal.fixed_append_lt (by omega)
  refine blocks.imp_right fun ⟨second, less⟩ => ⟨second, ?_⟩
  exact fractionText_append_lt less hb r s

/-- Outside leap seconds, and in a year that is written in four digits. -/
structure Ordinary (t : Instant) : Prop where
  nanos_lt : t.nanos < billion
  year : 0 ≤ t.date.year ∧ t.date.year ≤ 9999

theorem text_lt_text (ha : a.Ordinary) (hb : b.Ordinary) (h : a < b) : a.text < b.text := by
  have days : a.seconds / 86400 < b.seconds / 86400 ∨ a.seconds / 86400 = b.seconds / 86400 ∧
      (a.ofDay < b.ofDay ∨ a.ofDay = b.ofDay ∧ a.nanos < b.nanos) := by
    rw [lt_iff] at h
    unfold ofDay
    omega
  obtain ⟨month, day⟩ := Date.month_day_ofDay_lt (b.seconds / 86400)
  rw [String.lt_iff, text, text, String.toList_ofList, String.toList_ofList]
  simp only [List.append_assoc, List.cons_append]
  apply Date.text_append_lt ha.year hb.year month day
  refine days.imp Date.ofDay_lt_ofDay fun ⟨same, clock⟩ => ⟨congrArg Date.ofDay same, ?_⟩
  apply List.cons_lt_cons_self.2
  exact clockText_append_lt ha.nanos_lt hb.nanos_lt clock _ _

theorem sameOrder_text (ha : a.Ordinary) (hb : b.Ordinary) : SameOrder a b a.text b.text :=
  .of_increasing (lt_or_eq_or_gt a b) (text_lt_text ha hb) (congrArg text) (text_lt_text hb ha)

theorem text_lt_text_iff (ha : a.Ordinary) (hb : b.Ordinary) : a.text < b.text ↔ a < b :=
  (sameOrder_text ha hb).lt

theorem text_inj (ha : a.Ordinary) (hb : b.Ordinary) : a.text = b.text ↔ a = b :=
  (sameOrder_text ha hb).eq

end Instant

end CapturedTraffic.Time
