import CapturedTraffic.Proofs.Exchange.Identifier
import CapturedTraffic.Proofs.Exchange.Stamp
import CapturedTraffic.Proofs.Text.ByteOrder

/-!
# The order of identifiers

Identifiers are ordered as numbers, which is the order of their sixteen bytes and that of their
texts: the digits of a text are as many for every identifier, and the hyphens stand in the same
places. Identifiers stamped in one millisecond are in the order of their free bits, and others in
that of their milliseconds.
-/
namespace CapturedTraffic

open Text Time

namespace ExchangeId

variable {a b : ExchangeId}

theorem lt_iff : a < b ↔ a.value < b.value := Iff.rfl

theorem le_iff_not_lt : a ≤ b ↔ ¬ b < a := Nat.not_lt.symm

theorem lt_or_eq_or_gt (a b : ExchangeId) : a < b ∨ a = b ∨ b < a := by
  have same : a = b ↔ a.value = b.value := by
    cases a
    cases b
    rw [mk.injEq]
  rw [lt_iff, lt_iff, same]
  exact Nat.lt_trichotomy a.value b.value

/-- The bytes of an identifier, the first one being the most significant. -/
def bytes (id : ExchangeId) : List UInt8 := numeral 256 UInt8.ofNat 16 id.value

theorem bytes_lt_bytes (h : a < b) : a.bytes < b.bytes :=
  numeral_lt_numeral (fun _ hb _ ha => Utf8.byte_lt_byte ha hb) h b.value_lt

/-- A group of digits decides unless it is the same in both, and then the groups after it do. -/
theorem group_append_lt (place : Nat) {m n width : Nat} {r s : List Char}
    (h : m % (place * 16 ^ width) < n % (place * 16 ^ width))
    (rest : m % place < n % place → r < s) :
    Hex.fixed width (m / place) ++ '-' :: r < Hex.fixed width (n / place) ++ '-' :: s := by
  apply Hex.fixed_append_lt
  rw [← Nat.mod_mul_right_div_self, ← Nat.mod_mul_right_div_self]
  refine (div_lt_or_mod_lt h place).imp_right fun ⟨same, less⟩ => ⟨same, ?_⟩
  rw [Nat.mod_mul_right_mod, Nat.mod_mul_right_mod] at less
  exact List.cons_lt_cons_self.2 (rest less)

theorem chars_lt_chars (h : a < b) : a.chars < b.chars := by
  have whole : a.value % 2 ^ 128 < b.value % 2 ^ 128 := by
    rwa [Nat.mod_eq_of_lt a.value_lt, Nat.mod_eq_of_lt b.value_lt]
  have last (less : a.value % 16 ^ 12 < b.value % 16 ^ 12) :
      Hex.fixed 12 a.value < Hex.fixed 12 b.value := by
    simpa using Hex.fixed_append_lt (r := []) (s := []) (.inl less)
  rw [chars, chars]
  simp only [List.append_assoc, List.cons_append]
  -- From the left, each group leaves what is not decided to the bits below it.
  apply group_append_lt (2 ^ 96) whole
  intro low
  apply group_append_lt (2 ^ 80) low
  intro low
  apply group_append_lt (2 ^ 64) low
  intro low
  exact group_append_lt (2 ^ 48) low last

theorem text_lt_text (h : a < b) : a.text < b.text := by
  rw [String.lt_iff, text, text, String.toList_ofList, String.toList_ofList]
  exact chars_lt_chars h

theorem sameOrder_bytes (a b : ExchangeId) : SameOrder a b a.bytes b.bytes :=
  .of_increasing (lt_or_eq_or_gt a b) bytes_lt_bytes (congrArg bytes) bytes_lt_bytes

theorem sameOrder_text (a b : ExchangeId) : SameOrder a b a.text b.text :=
  .of_increasing (lt_or_eq_or_gt a b) text_lt_text (congrArg text) text_lt_text

variable {t u : Instant} {m n : Nat} {first first' : Fin (2 ^ 12)} {second second' : Fin (2 ^ 62)}

/-- The milliseconds stand in front of the version, the same for all, and of the free bits. -/
theorem ofMilliseconds_lt_iff : ofMilliseconds m first second < ofMilliseconds n first' second' ↔
    m % 2 ^ 48 < n % 2 ^ 48 ∨ m % 2 ^ 48 = n % 2 ^ 48 ∧
      (first < first' ∨ first = first' ∧ second < second') := by
  have := first.isLt
  have := first'.isLt
  have := second.isLt
  have := second'.isLt
  rw [lt_iff, Fin.lt_def, Fin.lt_def, Fin.ext_iff]
  dsimp only [ofMilliseconds]
  omega

/--
Identifiers of instants that differ in their milliseconds are in the order of these, whatever their
free bits, as long as 48 bits suffice for the milliseconds; the free bits decide in one millisecond.
-/
theorem at?_lt_at?_iff (ht : 0 ≤ t.seconds) (hu : 0 ≤ u.seconds) (before : t.milliseconds < 2 ^ 48)
    (after : u.milliseconds < 2 ^ 48) (first first' : Fin (2 ^ 12)) (second second' : Fin (2 ^ 62)) :
    ∃ a b, at? t first second = some a ∧ at? u first' second' = some b ∧
      (a < b ↔ t.milliseconds < u.milliseconds ∨ t.milliseconds = u.milliseconds ∧
        (first < first' ∨ first = first' ∧ second < second')) := by
  refine ⟨_, _, at?_eq_some_iff.2 ⟨ht, rfl⟩, at?_eq_some_iff.2 ⟨hu, rfl⟩, ?_⟩
  rw [ofMilliseconds_lt_iff, Nat.mod_eq_of_lt before, Nat.mod_eq_of_lt after]

/-- All free bits are set in the last millisecond but one, and none in the last. -/
theorem at?_lt_at?_iff_last :
    let t : Instant := ⟨281474976710, 654999999⟩
    let u : Instant := ⟨281474976710, 655000000⟩
    let first : Fin (2 ^ 12) := ⟨2 ^ 12 - 1, by decide⟩
    let second : Fin (2 ^ 62) := ⟨2 ^ 62 - 1, by decide⟩
    let early := ofMilliseconds (2 ^ 48 - 2) first second
    let late := ofMilliseconds (2 ^ 48 - 1) 0 0
    at? t first second = some early ∧ early.text = "ffffffff-fffe-7fff-bfff-ffffffffffff" ∧
      at? u 0 0 = some late ∧ late.text = "ffffffff-ffff-7000-8000-000000000000" ∧
      t.milliseconds < u.milliseconds ∧ early < late := by
  intro t u first second early late
  have stamped : at? t first second = some early := by decide
  have next : at? u 0 0 = some late := by decide
  have less : t.milliseconds < u.milliseconds := by decide
  obtain ⟨a, b, ha, hb, order⟩ :=
    at?_lt_at?_iff (t := t) (u := u) (by decide) (by decide) (by decide) (by decide) first 0 second 0
  obtain rfl : early = a := Option.some.inj (stamped.symm.trans ha)
  obtain rfl : late = b := Option.some.inj (next.symm.trans hb)
  exact ⟨stamped, by decide, next, by decide, less, order.2 (.inl less)⟩

end ExchangeId

end CapturedTraffic
