import CapturedTraffic.Proofs.Exchange.Stamp
import CapturedTraffic.Query.Field

/-!
# The time that an identifier carries

An identifier carries a time exactly if its version is 1, 6 or 7. The count in it is turned into
seconds and nanoseconds in words of 64 and 32 bits; the seconds must then fit a signed word, and the
instant must be one of the calendar. None of these steps can fail: the ticks before 1970, which wrap
around, are read as seconds in 41 bits like all others.
-/
namespace CapturedTraffic

open Query Time

namespace ExchangeId

/-- The seconds and nanoseconds of a count of ticks. -/
def clockOfTicks (ticks : UInt64) : UInt64 × UInt32 :=
  let since := ticks - UInt64.ofNat epochTicks
  (since / 10000000, (since % 10000000).toUInt32 * 100)

/-- The seconds and nanoseconds of a count of milliseconds. -/
def clockOfMilliseconds (ms : UInt64) : UInt64 × UInt32 :=
  (ms / 1000, (ms % 1000 * 1000000).toUInt32)

/-- What the version makes of the bits. -/
def clock? (id : ExchangeId) : Option (UInt64 × UInt32) :=
  if id.version = 7 then some (clockOfMilliseconds (.ofNat id.milliseconds))
  else if id.version = 1 then some (clockOfTicks (.ofNat id.ticksReversed))
  else if id.version = 6 then some (clockOfTicks (.ofNat id.ticksOrdered))
  else none

/-- The number of an unsigned word, if a signed one has it too. -/
def signed? (n : UInt64) : Option Int := if n.toNat < 2 ^ 63 then some n.toNat else none

/-- The time, by steps each of which may fail. -/
def stepwise? (id : ExchangeId) : Option Instant := do
  let (seconds, nanos) ← id.clock?
  let seconds ← signed? seconds
  Instant.ofUnix? seconds nanos.toNat

/-- The instant that a clock shows. -/
def shown (clock : UInt64 × UInt32) : Instant := ⟨clock.1.toNat, clock.2.toNat⟩

/-- A clock within the bounds that all later steps ask for. -/
structure InBounds (clock : UInt64 × UInt32) : Prop where
  seconds : clock.1.toNat < 2 ^ 41
  nanos : clock.2.toNat < Instant.billion

variable {id : ExchangeId} {clock : UInt64 × UInt32}

theorem milliseconds_lt (id : ExchangeId) : id.milliseconds < 2 ^ 48 := by
  have := id.value_lt
  unfold milliseconds
  omega

theorem ticksReversed_lt (id : ExchangeId) : id.ticksReversed < 2 ^ 60 := by
  have := id.value_lt
  unfold ticksReversed
  omega

theorem ticksOrdered_lt (id : ExchangeId) : id.ticksOrdered < 2 ^ 60 := by
  have := id.value_lt
  unfold ticksOrdered
  omega

theorem shown_clockOfTicks {ticks : Nat} (h : ticks < 2 ^ 60) :
    some (shown (clockOfTicks (.ofNat ticks))) = instantOfTicks ticks ∧
      InBounds (clockOfTicks (.ofNat ticks)) := by
  -- before 1970 the difference wraps around, but the seconds in it are few either way
  let since := (ticks + 2 ^ 64 - epochTicks) % 2 ^ 64
  have hsince : (UInt64.ofNat ticks - UInt64.ofNat epochTicks).toNat = since := by
    rw [UInt64.toNat_sub, UInt64.toNat_ofNat', UInt64.toNat_ofNat', epochTicks]
    simp only [since, epochTicks]
    omega
  have seconds : (clockOfTicks (.ofNat ticks)).1.toNat = since / 10000000 := by
    dsimp only [clockOfTicks]
    rw [UInt64.toNat_div, hsince]
    rfl
  have nanos : (clockOfTicks (.ofNat ticks)).2.toNat = since % 10000000 * 100 := by
    dsimp only [clockOfTicks]
    rw [UInt32.toNat_mul, UInt64.toNat_toUInt32, UInt64.toNat_mod, hsince]
    change since % 10000000 % 2 ^ 32 * 100 % 2 ^ 32 = since % 10000000 * 100
    omega
  have before : since / 10000000 < 2 ^ 41 := by
    have : since < 2 ^ 64 := Nat.mod_lt _ (by decide)
    omega
  have fraction : since % 10000000 * 100 < Instant.billion := by
    rw [Instant.billion]
    omega
  refine ⟨?_, seconds ▸ before, nanos ▸ fraction⟩
  rw [shown, seconds, nanos]
  exact (Instant.ofUnix?_of_lt before fraction).symm

theorem shown_clockOfMilliseconds {ms : Nat} (h : ms < 2 ^ 48) :
    shown (clockOfMilliseconds (.ofNat ms)) = .ofMilliseconds ms ∧
      InBounds (clockOfMilliseconds (.ofNat ms)) := by
  have count : (UInt64.ofNat ms).toNat = ms := by
    rw [UInt64.toNat_ofNat']
    omega
  have seconds : (clockOfMilliseconds (.ofNat ms)).1.toNat = ms / 1000 := by
    dsimp only [clockOfMilliseconds]
    rw [UInt64.toNat_div, count]
    rfl
  have nanos : (clockOfMilliseconds (.ofNat ms)).2.toNat = ms % 1000 * 1000000 := by
    dsimp only [clockOfMilliseconds]
    rw [UInt64.toNat_toUInt32, UInt64.toNat_mul, UInt64.toNat_mod, count]
    change ms % 1000 * 1000000 % 2 ^ 64 % 2 ^ 32 = ms % 1000 * 1000000
    omega
  have before : ms / 1000 < 2 ^ 41 := by omega
  have fraction : ms % 1000 * 1000000 < Instant.billion := by
    rw [Instant.billion]
    omega
  refine ⟨?_, seconds ▸ before, nanos ▸ fraction⟩
  rw [shown, seconds, nanos]
  rfl

/-- An identifier counts milliseconds, or ticks in 60 bits, or nothing. -/
theorem clock?_cases (id : ExchangeId) :
    (id.version = 7 ∧ id.clock? = some (clockOfMilliseconds (.ofNat id.milliseconds)) ∧
        id.timestamp = some (.ofMilliseconds id.milliseconds)) ∨
      (∃ ticks < 2 ^ 60, (id.version = 1 ∨ id.version = 6) ∧
        id.clock? = some (clockOfTicks (.ofNat ticks)) ∧ id.timestamp = instantOfTicks ticks) ∨
      (¬ (id.version = 1 ∨ id.version = 6 ∨ id.version = 7) ∧
        id.clock? = none ∧ id.timestamp = none) := by
  unfold clock? timestamp
  by_cases seven : id.version = 7
  · rw [if_pos seven, if_pos seven]
    exact .inl ⟨seven, rfl, Instant.ofUnix?_ofMilliseconds (milliseconds_lt id)⟩
  rw [if_neg seven, if_neg seven]
  by_cases one : id.version = 1
  · rw [if_pos one, if_pos one]
    exact .inr (.inl ⟨_, ticksReversed_lt id, .inl one, rfl, rfl⟩)
  rw [if_neg one, if_neg one]
  by_cases six : id.version = 6
  · rw [if_pos six, if_pos six]
    exact .inr (.inl ⟨_, ticksOrdered_lt id, .inr six, rfl, rfl⟩)
  · rw [if_neg six, if_neg six]
    exact .inr (.inr ⟨by simp only [one, six, seven, or_self, not_false_eq_true], rfl, rfl⟩)

/-- The instant of an identifier is the one that its clock shows. -/
theorem timestamp_eq_shown (id : ExchangeId) : id.timestamp = id.clock?.map shown := by
  rcases clock?_cases id with ⟨_, own, time⟩ | ⟨ticks, small, _, own, time⟩ | ⟨_, own, time⟩
  · rw [own, time, Option.map_some, (shown_clockOfMilliseconds (milliseconds_lt id)).1]
  · rw [own, time, Option.map_some, (shown_clockOfTicks small).1]
  · rw [own, time, Option.map_none]

theorem inBounds_of_clock? (h : id.clock? = some clock) : InBounds clock := by
  rcases clock?_cases id with ⟨_, own, _⟩ | ⟨ticks, small, _, own, _⟩ | ⟨_, own, _⟩
  · obtain rfl := Option.some.inj (own.symm.trans h)
    exact (shown_clockOfMilliseconds (milliseconds_lt id)).2
  · obtain rfl := Option.some.inj (own.symm.trans h)
    exact (shown_clockOfTicks small).2
  · rw [own] at h
    cases h

theorem timestamp_isSome_iff :
    id.timestamp.isSome = true ↔ id.version = 1 ∨ id.version = 6 ∨ id.version = 7 := by
  rw [timestamp_eq_shown, Option.isSome_map]
  rcases clock?_cases id with ⟨seven, own, _⟩ | ⟨_, _, version, own, _⟩ | ⟨others, own, _⟩
  · simp [own, seven]
  · rw [own]
    simp only [Option.isSome_some, true_iff]
    exact version.imp_right .inl
  · simpa [own] using others

/-- No identifier carries a leap second. -/
theorem nanos_lt_of_timestamp {t : Instant} (h : id.timestamp = some t) :
    t.nanos < Instant.billion := by
  rw [timestamp_eq_shown] at h
  obtain ⟨clock, found, rfl⟩ := Option.map_eq_some_iff.1 h
  exact (inBounds_of_clock? found).nanos

theorem signed?_of_lt {n : UInt64} (h : n.toNat < 2 ^ 63) : signed? n = some (n.toNat : Int) :=
  if_pos h

/-- No step fails once the version gives a clock. -/
theorem stepwise?_eq_timestamp (id : ExchangeId) : id.stepwise? = id.timestamp := by
  rw [stepwise?, timestamp_eq_shown]
  cases found : id.clock? with
  | none => rfl
  | some clock =>
    have bounds : InBounds clock := inBounds_of_clock? found
    have fits : clock.1.toNat < 2 ^ 63 := Nat.lt_trans bounds.seconds (by decide)
    simp only [Option.bind_eq_bind, Option.bind_some, signed?_of_lt fits, Option.map_some]
    exact Instant.ofUnix?_of_lt bounds.seconds bounds.nanos

/-- The nanoseconds since 1970 of the instant that lies a number of milliseconds after it. -/
theorem nanoseconds_ofMilliseconds (ms : Nat) :
    (Instant.ofMilliseconds ms).seconds * 10 ^ 9 + (Instant.ofMilliseconds ms).nanos =
      ms * 10 ^ 6 := by
  dsimp only [Instant.ofMilliseconds]
  omega

/-- The text of an instant is never empty. -/
theorem resolve_timestamp_eq_empty_iff (e : Exchange) :
    Field.resolve e "req.timestamp" = "" ↔ e.id.timestamp = none := by
  have value : Field.resolve e "req.timestamp" = (e.id.timestamp.map Instant.text).getD "" := rfl
  rw [value]
  cases e.id.timestamp with
  | none => simp
  | some t =>
    have filled : t.text ≠ "" := by
      intro empty
      have letters := congrArg String.toList empty
      simp [Instant.text] at letters
    simp [filled]

/--
Exactly the identifiers of versions 1, 6 and 7 carry a time, whatever their other bits. The steps
that lead to it never fail: the seconds fit a signed word and the nanoseconds are less than a second,
and their instant is in the calendar. Version 7 counts milliseconds in its first 48 bits. The field
for the time is empty exactly for the other versions.
-/
theorem timestamp_characterised (id : ExchangeId) :
    (id.timestamp.isSome = true ↔ id.version = 1 ∨ id.version = 6 ∨ id.version = 7) ∧
      id.stepwise? = id.timestamp ∧
      (∀ seconds nanos, id.clock? = some (seconds, nanos) →
        seconds.toNat < 2 ^ 63 ∧ nanos.toNat < 10 ^ 9 ∧
          (⟨seconds.toNat, nanos.toNat⟩ : Instant).inCalendar = true ∧
          id.timestamp = some ⟨seconds.toNat, nanos.toNat⟩) ∧
      (id.version = 7 → ∃ t, id.timestamp = some t ∧ t.nanos < 10 ^ 9 ∧
        t.seconds * 10 ^ 9 + t.nanos = (id.value / 2 ^ 80 : Nat) * 10 ^ 6) ∧
      (∀ e : Exchange, e.id = id → (Field.resolve e "req.timestamp" = "" ↔
        ¬ (id.version = 1 ∨ id.version = 6 ∨ id.version = 7))) := by
  refine ⟨timestamp_isSome_iff, stepwise?_eq_timestamp id, ?_, ?_, ?_⟩
  · intro seconds nanos found
    have bounds : InBounds (seconds, nanos) := inBounds_of_clock? found
    have before : seconds.toNat < 2 ^ 41 := bounds.seconds
    have calendar : (⟨seconds.toNat, nanos.toNat⟩ : Instant).inCalendar = true :=
      Instant.inCalendar_of_lt (Int.natCast_nonneg _) (by dsimp only; omega)
    have time : id.timestamp = some ⟨seconds.toNat, nanos.toNat⟩ := by
      rw [timestamp_eq_shown, found]
      rfl
    exact ⟨by omega, bounds.nanos, calendar, time⟩
  · intro seven
    have fraction : (Instant.ofMilliseconds id.milliseconds).nanos < 10 ^ 9 := by
      dsimp only [Instant.ofMilliseconds]
      omega
    have time : id.timestamp = some (.ofMilliseconds id.milliseconds) := by
      rw [timestamp, if_pos seven]
      exact Instant.ofUnix?_ofMilliseconds (milliseconds_lt id)
    exact ⟨_, time, fraction, nanoseconds_ofMilliseconds id.milliseconds⟩
  · rintro e rfl
    rw [resolve_timestamp_eq_empty_iff, ← timestamp_isSome_iff, Option.not_isSome_iff_eq_none]

/--
The last of the milliseconds with no variant, the first of the ticks, which lies before 1970, with
all bits of the variant, and a version that carries no time.
-/
theorem timestamp_characterised_extremes :
    let late : ExchangeId := ⟨(2 ^ 48 - 1) * 2 ^ 80 + 7 * 2 ^ 76, by decide⟩
    let early : ExchangeId := ⟨2 ^ 76 + 3 * 2 ^ 62, by decide⟩
    let other : ExchangeId := ⟨(2 ^ 48 - 1) * 2 ^ 80 + 4 * 2 ^ 76, by decide⟩
    let e : Exchange := .new other "GET" none
    late.version = 7 ∧ late.value / 2 ^ 80 = 2 ^ 48 - 1 ∧
      (∃ t, late.timestamp = some t ∧ t.nanos < 10 ^ 9 ∧
        t.seconds * 10 ^ 9 + t.nanos = (late.value / 2 ^ 80 : Nat) * 10 ^ 6) ∧
      early.clock? = some (1832455114570, 955161600) ∧
      early.timestamp = some ⟨1832455114570, 955161600⟩ ∧
      other.timestamp = none ∧ e.id = other ∧ Field.resolve e "req.timestamp" = "" := by
  intro late early other e
  have seven : late.version = 7 := by decide
  have clock : early.clock? = some (1832455114570, 955161600) := by decide +kernel
  obtain ⟨_, _, _, milliseconds, _⟩ := timestamp_characterised late
  obtain ⟨_, _, bounds, _, _⟩ := timestamp_characterised early
  obtain ⟨carries, _, _, _, empty⟩ := timestamp_characterised other
  have four : ¬ (other.version = 1 ∨ other.version = 6 ∨ other.version = 7) := by decide
  have none : other.timestamp = none := by
    rw [← Option.not_isSome_iff_eq_none, carries]
    exact four
  exact ⟨seven, by decide, milliseconds seven, clock, (bounds _ _ clock).2.2.2, none, rfl,
    (empty e rfl).2 four⟩

end ExchangeId

end CapturedTraffic
