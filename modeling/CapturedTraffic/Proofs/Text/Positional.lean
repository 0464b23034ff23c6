import CapturedTraffic.Proofs.Order
import CapturedTraffic.Text.Decimal
import CapturedTraffic.Text.Hex
import Mathlib.Algebra.Group.Nat.Defs

/-!
# Positional numerals

Numerals of a fixed width in any base, with digits of any kind. Where the digits go up with their
numbers, so do the numerals. Decimal and hexadecimal numerals are of this form.
-/
namespace CapturedTraffic.Text

section Numeral

variable {α : Type} {base : Nat} {digit : Nat → α}

/-- The last `width` digits of a number. -/
def numeral (base : Nat) (digit : Nat → α) : Nat → Nat → List α
  | 0, _ => []
  | width + 1, n => numeral base digit width (n / base) ++ [digit (n % base)]

theorem length_numeral (width n : Nat) : (numeral base digit width n).length = width := by
  induction width generalizing n with
  | zero => rfl
  | succ width ih => rw [numeral, List.length_append, ih, List.length_singleton]

/-- Only the last digits of a number are written. -/
theorem numeral_mod (width n : Nat) :
    numeral base digit width (n % base ^ width) = numeral base digit width n := by
  induction width generalizing n with
  | zero => rfl
  | succ width ih =>
    rw [numeral, numeral, Nat.pow_succ', Nat.mod_mul_right_div_self, ih,
      Nat.mod_mod_of_dvd n (Nat.dvd_mul_right base _)]

theorem numeral_eq_cons (positive : 0 < base) (width n : Nat) :
    ∃ first rest, first < base ∧ numeral base digit (width + 1) n = digit first :: rest := by
  induction width generalizing n with
  | zero => exact ⟨n % base, [], Nat.mod_lt n positive, rfl⟩
  | succ width ih =>
    obtain ⟨first, rest, small, written⟩ := ih (n / base)
    exact ⟨first, rest ++ [digit (n % base)], small, by rw [numeral, written]; rfl⟩

variable [LT α]

/-- The digits below the base are in the order of their numbers. -/
def Ascending (base : Nat) (digit : Nat → α) : Prop := ∀ b < base, ∀ a < b, digit a < digit b

theorem numeral_lt_numeral (digits : Ascending base digit) {width a b : Nat} (h : a < b)
    (hb : b < base ^ width) : numeral base digit width a < numeral base digit width b := by
  induction width generalizing a b with
  | zero => exact absurd hb (by simp; omega)
  | succ width ih =>
    rw [Nat.pow_succ'] at hb
    have positive : 0 < base := by
      apply Nat.pos_of_ne_zero
      rintro rfl
      omega
    rw [numeral, numeral]
    rcases div_lt_or_mod_lt h base with less | ⟨same, less⟩
    · apply append_lt_append (ih less (Nat.div_lt_of_lt_mul hb))
      rw [length_numeral, length_numeral]
    · rw [same]
      apply List.append_left_lt
      exact List.cons_lt_cons_iff.2 (.inl (digits _ (Nat.mod_lt b positive) _ less))

/-- What is written of a number decides, and leaves it to what follows if it is the same. -/
theorem numeral_append_lt (digits : Ascending base digit) (positive : 0 < base) {width a b : Nat}
    {r s : List α} (h : a % base ^ width < b % base ^ width ∨
      a % base ^ width = b % base ^ width ∧ r < s) :
    numeral base digit width a ++ r < numeral base digit width b ++ s := by
  rw [← numeral_mod width a, ← numeral_mod width b]
  rcases h with less | ⟨same, less⟩
  · have bound : b % base ^ width < base ^ width := Nat.mod_lt b (Nat.pow_pos positive)
    apply append_lt_append (numeral_lt_numeral digits less bound)
    rw [length_numeral, length_numeral]
  · rw [same]
    exact List.append_left_lt less

end Numeral

namespace Decimal

theorem digit_mod (n : Nat) : digit (n % 10) = digit n := by
  rw [digit, digit, Nat.mod_mod]

theorem fixed_eq_numeral (width n : Nat) : fixed width n = numeral 10 digit width n := by
  induction width generalizing n with
  | zero => rfl
  | succ width ih => rw [fixed, ih, numeral, digit_mod]

theorem ascending_digit : Ascending 10 digit := by
  unfold Ascending
  decide

end Decimal

namespace Hex

theorem fixed_eq_numeral (width n : Nat) : fixed width n = numeral 16 digit width n := by
  induction width generalizing n with
  | zero => rfl
  | succ width ih => rw [fixed, ih, numeral]

theorem ascending_digit : Ascending 16 digit := by
  unfold Ascending
  decide

theorem fixed_append_lt {width a b : Nat} {r s : List Char}
    (h : a % 16 ^ width < b % 16 ^ width ∨ a % 16 ^ width = b % 16 ^ width ∧ r < s) :
    fixed width a ++ r < fixed width b ++ s := by
  rw [fixed_eq_numeral, fixed_eq_numeral]
  exact numeral_append_lt ascending_digit (by decide) h

theorem length_fixed (width n : Nat) : (fixed width n).length = width := by
  rw [fixed_eq_numeral, length_numeral]

theorem fixed_succ (width n : Nat) :
    ∃ first rest, first < 16 ∧ fixed (width + 1) n = digit first :: rest := by
  rw [fixed_eq_numeral]
  exact numeral_eq_cons (by decide) width n

end Hex

end CapturedTraffic.Text
