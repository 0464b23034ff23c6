import CapturedTraffic.Proofs.Text.Numerals

/-!
# The order of numerals

Numerals of one width are in the order of their numbers. Fractions are written in groups of three
digits, of which the last ones are left out if they are zero: they keep the order too, as long as
what follows them comes before all digits.
-/
namespace CapturedTraffic.Text

namespace Decimal

theorem blank_lt_of_isDigit {c : Char} (h : isDigit c = true) : ' ' < c := by
  have digit : '0' ≤ c := by
    rw [isDigit, Bool.and_eq_true, decide_eq_true_iff, decide_eq_true_iff] at h
    exact h.1
  exact Nat.lt_of_lt_of_le (by decide : ' '.toNat < '0'.toNat) digit

theorem fixed_eq_cons (width n : Nat) :
    ∃ c rest, fixed (width + 1) n = c :: rest ∧ isDigit c = true := by
  rw [fixed_eq_numeral]
  obtain ⟨first, rest, _, written⟩ : ∃ first rest, first < 10 ∧
      numeral 10 digit (width + 1) n = digit first :: rest := numeral_eq_cons (by decide) width n
  exact ⟨digit first, rest, written, isDigit_digit first⟩

theorem fixed_append (high low n : Nat) :
    fixed (high + low) n = fixed high (n / 10 ^ low) ++ fixed low n := by
  induction low generalizing n with
  | zero => simp [fixed]
  | succ low ih =>
    rw [← Nat.add_assoc, fixed, ih, Nat.div_div_eq_div_mul, ← Nat.pow_succ', fixed,
      List.append_assoc]

/-- Only the last digits of a number are written. -/
theorem fixed_mod (width n : Nat) : fixed width (n % 10 ^ width) = fixed width n := by
  rw [fixed_eq_numeral, fixed_eq_numeral, numeral_mod]

/-- Numerals of one width decide by their numbers, and else leave it to what follows. -/
theorem fixed_append_lt {width a b : Nat} (hb : b < 10 ^ width) {r s : List Char}
    (h : a < b ∨ a = b ∧ r < s) : fixed width a ++ r < fixed width b ++ s := by
  rw [fixed_eq_numeral, fixed_eq_numeral]
  apply numeral_append_lt ascending_digit (by decide)
  have ha : a < 10 ^ width := by omega
  rwa [Nat.mod_eq_of_lt ha, Nat.mod_eq_of_lt hb]

/-- The digits of `n` in groups of three, at most `count`, up to the last that is not zero. -/
def groups : Nat → Nat → List Char
  | 0, _ => []
  | count + 1, n =>
    if n = 0 then [] else fixed 3 (n / 1000 ^ count) ++ groups count (n % 1000 ^ count)

theorem groups_lt_groups {count a b : Nat} (h : a < b) (hb : b < 1000 ^ count) (r s : List Char) :
    groups count a ++ ' ' :: r < groups count b ++ s := by
  induction count generalizing a b with
  | zero => exact absurd hb (by simp; omega)
  | succ count ih =>
    have leading : b / 1000 ^ count < 10 ^ 3 := by
      apply Nat.div_lt_of_lt_mul
      rwa [← Nat.pow_succ]
    have following : b % 1000 ^ count < 1000 ^ count := Nat.mod_lt b (Nat.pow_pos (by decide))
    rw [groups, groups, if_neg (by omega : b ≠ 0)]
    by_cases zero : a = 0
    · -- Nothing is written for zero, so the blank meets the first digit.
      obtain ⟨c, rest, written, numeric⟩ := fixed_eq_cons 2 (b / 1000 ^ count)
      rw [if_pos zero, written]
      exact List.cons_lt_cons_iff.2 (.inl (blank_lt_of_isDigit numeric))
    · rw [if_neg zero, List.append_assoc, List.append_assoc]
      apply fixed_append_lt leading
      exact (div_lt_or_mod_lt h _).imp_right fun ⟨same, less⟩ => ⟨same, ih less following⟩

end Decimal

end CapturedTraffic.Text
