import CapturedTraffic.Exchange.Id

/-!
# Time stamps

An identifier is stamped with a count of milliseconds, of which it keeps 48 bits, and the instant is
read back from these. That is the instant of the stamp up to its whole milliseconds, unless the
count needs more bits or the instant is inside a leap second: counts have no place for these.
-/
namespace CapturedTraffic

open Time

namespace Time

theorem Date.year_ofDay_le (n : Int) :
    (n + 719468) / 146097 * 400 ≤ (ofDay n).year ∧
      (ofDay n).year ≤ (n + 719468) / 146097 * 400 + 401 := by
  unfold ofDay
  dsimp only
  split
  · dsimp only
    omega
  · dsimp only
    omega

namespace Instant

/-- The instant at the start of the millisecond. -/
def truncated (t : Instant) : Instant := ⟨t.seconds, t.nanos / 1000000 * 1000000⟩

/-- The milliseconds of an instant since 1970, those of leap seconds counted. -/
def milliseconds (t : Instant) : Nat := t.seconds.toNat * 1000 + t.nanos / 1000000

/-- The instant that lies a number of milliseconds after the start of 1970. -/
def ofMilliseconds (ms : Nat) : Instant := ⟨(ms / 1000 : Nat), ms % 1000 * 1000000⟩

theorem inCalendar_iff {t : Instant} :
    t.inCalendar = true ↔ -262143 ≤ t.date.year ∧ t.date.year ≤ 262142 := by
  rw [inCalendar, Bool.and_eq_true, decide_eq_true_iff, decide_eq_true_iff]

/-- The calendar goes on for longer than any count of seconds in 41 bits. -/
theorem inCalendar_of_lt {t : Instant} (after : 0 ≤ t.seconds) (before : t.seconds < 2 ^ 41) :
    t.inCalendar = true := by
  have bounds := Date.year_ofDay_le (t.seconds / 86400)
  rw [inCalendar_iff, date]
  omega

theorem ofUnix?_of_lt {seconds nanos : Nat} (before : seconds < 2 ^ 41)
    (fraction : nanos < billion) :
    ofUnix? seconds nanos = some ⟨seconds, nanos⟩ := by
  have calendar : (⟨seconds, nanos⟩ : Instant).inCalendar = true :=
    inCalendar_of_lt (Int.natCast_nonneg seconds) (by dsimp only; omega)
  exact if_pos ⟨.inl fraction, calendar⟩

theorem ofUnix?_ofMilliseconds {ms : Nat} (h : ms < 2 ^ 48) :
    ofUnix? (ms / 1000 : Nat) (ms % 1000 * 1000000) = some (ofMilliseconds ms) := by
  have fraction : ms % 1000 * 1000000 < billion := by
    rw [billion]
    omega
  exact ofUnix?_of_lt (by omega) fraction

/-- Counting milliseconds loses what is below them, and leap seconds. -/
theorem ofMilliseconds_eq_truncated_iff {t : Instant} {ms : Nat} (h : 0 ≤ t.seconds) :
    ofMilliseconds ms = t.truncated ↔ t.nanos < billion ∧ ms = t.milliseconds := by
  simp only [ofMilliseconds, truncated, milliseconds, billion, Instant.mk.injEq]
  omega

end Instant

end Time

namespace ExchangeId

variable {t : Instant} {ms : Nat} {first : Fin (2 ^ 12)} {second : Fin (2 ^ 62)}

theorem version_ofMilliseconds : (ofMilliseconds ms first second).version = 7 := by
  have := first.isLt
  have := second.isLt
  dsimp only [version, ofMilliseconds]
  omega

theorem milliseconds_ofMilliseconds :
    (ofMilliseconds ms first second).milliseconds = ms % 2 ^ 48 := by
  have := first.isLt
  have := second.isLt
  dsimp only [milliseconds, ofMilliseconds]
  omega

theorem timestamp_ofMilliseconds :
    (ofMilliseconds ms first second).timestamp = some (.ofMilliseconds (ms % 2 ^ 48)) := by
  rw [timestamp, if_pos version_ofMilliseconds, milliseconds_ofMilliseconds]
  exact Instant.ofUnix?_ofMilliseconds (Nat.mod_lt ms (by decide))

theorem at?_eq_none_iff : at? t first second = none ↔ t.seconds < 0 := by
  rw [at?, Option.map_eq_none_iff, stamp?]
  split
  next after => simp [after]
  next before => simpa using before

theorem at?_eq_some_iff {id : ExchangeId} :
    at? t first second = some id ↔
      0 ≤ t.seconds ∧ ofMilliseconds t.milliseconds first second = id := by
  rw [at?, stamp?]
  split
  next after => simp [after, Instant.milliseconds]
  next before => simp [before]

/--
Exactly the instants before 1970 have no identifier. The others are read back, in whole
milliseconds, exactly if they are outside leap seconds and 48 bits suffice for their milliseconds;
what is read is always the instant of the lowest 48 bits, whatever the rest of the identifier holds.
-/
theorem at?_faithful_iff (t : Instant) (first : Fin (2 ^ 12)) (second : Fin (2 ^ 62)) :
    (at? t first second = none ↔ t.seconds < 0) ∧
      ∀ id, at? t first second = some id →
        id.timestamp = some (.ofMilliseconds (t.milliseconds % 2 ^ 48)) ∧
          (id.timestamp = some t.truncated ↔
            t.nanos < Instant.billion ∧ t.milliseconds < 2 ^ 48) := by
  refine ⟨at?_eq_none_iff, fun id stamped => ?_⟩
  obtain ⟨after, rfl⟩ := at?_eq_some_iff.1 stamped
  refine ⟨timestamp_ofMilliseconds, ?_⟩
  rw [timestamp_ofMilliseconds, Option.some_inj, Instant.ofMilliseconds_eq_truncated_iff after,
    Nat.mod_eq_iff_lt (by decide)]

/-- The last millisecond that is read back, with all other bits set. -/
theorem at?_faithful_iff_last :
    let t : Instant := ⟨281474976710, 655999999⟩
    let first : Fin (2 ^ 12) := ⟨2 ^ 12 - 1, by decide⟩
    let second : Fin (2 ^ 62) := ⟨2 ^ 62 - 1, by decide⟩
    let id : ExchangeId := ofMilliseconds (2 ^ 48 - 1) first second
    at? t first second = some id ∧ id.timestamp = some t.truncated ∧
      t.truncated = ⟨281474976710, 655000000⟩ := by
  intro t first second id
  have stamped : at? t first second = some id := by decide
  obtain ⟨_, read⟩ := at?_faithful_iff t first second
  obtain ⟨_, faithful⟩ := read id stamped
  exact ⟨stamped, faithful.2 (by decide), by decide⟩

/-- One millisecond more is read as the start of 1970, and a leap second as the one after it. -/
theorem stamp_of_other_instant :
    let late : Instant := ⟨281474976710, 656000000⟩
    let leap : Instant := ⟨59, 1500000000⟩
    Instant.ofUnix? late.seconds late.nanos = some late ∧
      Instant.ofUnix? leap.seconds leap.nanos = some leap ∧
      (at? late 0 0).bind timestamp = some ⟨0, 0⟩ ∧ late.truncated ≠ ⟨0, 0⟩ ∧
      (at? leap 0 0).bind timestamp = some ⟨60, 500000000⟩ ∧ leap.truncated ≠ ⟨60, 500000000⟩ := by
  decide

end ExchangeId

end CapturedTraffic
