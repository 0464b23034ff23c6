import CapturedTraffic.Proofs.Text.Positional

/-!
# Reading numerals back

The digits of a number denote that number, whatever was read before them.
-/
namespace CapturedTraffic.Text

namespace Decimal

theorem isDigit_digit (n : Nat) : isDigit (digit n) = true := by
  have all : ∀ m < 10, isDigit (Char.ofNat (48 + m)) = true := by decide
  exact all (n % 10) (Nat.mod_lt n (by decide))

theorem toNat_digit (n : Nat) : (digit n).toNat - 48 = n % 10 := by
  have all : ∀ m < 10, (Char.ofNat (48 + m)).toNat - 48 = m := by decide
  exact all (n % 10) (Nat.mod_lt n (by decide))

theorem digits_isDigit {n : Nat} {c : Char} (h : c ∈ digits n) : isDigit c = true := by
  induction n using digits.induct with
  | case1 n small =>
    rw [digits, if_pos small, List.mem_singleton] at h
    rw [h]
    exact isDigit_digit n
  | case2 n big ih =>
    rw [digits, if_neg big, List.mem_append, List.mem_singleton] at h
    rcases h with h | rfl
    · exact ih h
    · exact isDigit_digit n

theorem value_cons (high : Nat) (c : Char) (rest : List Char) :
    value high (c :: rest) = value (10 * high + (c.toNat - 48)) rest := by
  conv => lhs; unfold value

theorem value_append (high : Nat) (a b : List Char) :
    value high (a ++ b) = value (value high a) b := by
  induction a generalizing high with
  | nil => rfl
  | cons c rest ih => rw [List.cons_append, value_cons, value_cons, ih]

theorem value_digits (n : Nat) : value 0 (digits n) = n := by
  induction n using digits.induct with
  | case1 n small =>
    rw [digits, if_pos small, value_cons, toNat_digit]
    change 10 * 0 + n % 10 = n
    omega
  | case2 n big ih =>
    rw [digits, if_neg big, value_append, ih, value_cons, toNat_digit]
    change 10 * (n / 10) + n % 10 = n
    omega

theorem digits_eq_cons (n : Nat) : ∃ c rest, digits n = c :: rest ∧ isDigit c = true := by
  cases written : digits n with
  | nil =>
    rw [digits] at written
    split at written
    · cases written
    · exact absurd written (by simp)
  | cons c rest => exact ⟨c, rest, rfl, digits_isDigit (n := n) (by rw [written]; simp)⟩

/-- Only zero is written with a zero in front. -/
theorem digits_zero_or_leading (n : Nat) :
    n = 0 ∧ digits n = ['0'] ∨ ∃ c rest, digits n = c :: rest ∧ c ≠ '0' := by
  induction n using digits.induct with
  | case1 n small =>
    rw [digits, if_pos small]
    by_cases zero : n = 0
    · exact .inl ⟨zero, by rw [zero]; rfl⟩
    · have all : ∀ m < 10, m ≠ 0 → digit m ≠ '0' := by decide
      exact .inr ⟨_, _, rfl, all n small zero⟩
  | case2 n big ih =>
    rw [digits, if_neg big]
    rcases ih with ⟨zero, _⟩ | ⟨c, rest, written, other⟩
    · omega
    · exact .inr ⟨c, rest ++ [digit n], by rw [written]; rfl, other⟩

end Decimal

namespace Hex

theorem value?_digit {n : Nat} (h : n < 16) : value? (digit n) = some n := by
  have all : ∀ m < 16, value? (digit m) = some m := by decide
  exact all n h

theorem digit_mem_lowerDigits {n : Nat} (h : n < 16) : digit n ∈ "0123456789abcdef".toList := by
  have all : ∀ m < 16, digit m ∈ "0123456789abcdef".toList := by decide
  exact all n h

theorem mem_lowerDigits_of_mem_fixed {width n : Nat} {c : Char} (h : c ∈ fixed width n) :
    c ∈ "0123456789abcdef".toList := by
  induction width generalizing n with
  | zero => cases h
  | succ width ih =>
    rw [fixed, List.mem_append, List.mem_singleton] at h
    rcases h with h | rfl
    · exact ih h
    · exact digit_mem_lowerDigits (Nat.mod_lt n (by decide))

theorem mem_lowerDigits_of_mem_digits {n : Nat} {c : Char} (h : c ∈ digits n) :
    c ∈ "0123456789abcdef".toList := by
  induction n using digits.induct with
  | case1 n small =>
    rw [digits, if_pos small, List.mem_singleton] at h
    exact h ▸ digit_mem_lowerDigits small
  | case2 n big ih =>
    rw [digits, if_neg big, List.mem_append, List.mem_singleton] at h
    rcases h with h | rfl
    · exact ih h
    · exact digit_mem_lowerDigits (Nat.mod_lt n (by decide))

theorem number?_append (high : Nat) (a b : List Char) :
    number? high (a ++ b) = (number? high a).bind fun n => number? n b := by
  induction a generalizing high with
  | nil => rfl
  | cons c rest ih =>
    rw [List.cons_append, number?, number?]
    cases value? c with
    | none => rfl
    | some d => exact ih _

theorem number?_digits (n : Nat) : number? 0 (digits n) = some n := by
  induction n using digits.induct with
  | case1 n small =>
    rw [digits, if_pos small, number?, value?_digit small, Option.bind_some, number?, Nat.mul_zero,
      Nat.zero_add]
  | case2 n big ih =>
    have last : n % 16 < 16 := Nat.mod_lt n (by decide)
    rw [digits, if_neg big, number?_append, ih, Option.bind_some, number?, value?_digit last,
      Option.bind_some, number?, Nat.div_add_mod]

/-- Digits of a fixed width shift what was read before them by that width. -/
theorem number?_fixed (high width n : Nat) :
    number? high (fixed width n) = some (16 ^ width * high + n % 16 ^ width) := by
  induction width generalizing n with
  | zero => simp [fixed, number?, Nat.mod_one]
  | succ width ih =>
    have last : n % 16 < 16 := Nat.mod_lt n (by decide)
    rw [fixed, number?_append, ih, Option.bind_some, number?, value?_digit last, Option.bind_some,
      number?, Nat.pow_succ, Nat.mul_comm (16 ^ width) 16, Nat.mod_mul]
    congr 1
    rw [Nat.mul_add, Nat.mul_assoc]
    omega

end Hex

end CapturedTraffic.Text
