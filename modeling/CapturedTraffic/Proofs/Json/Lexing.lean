import CapturedTraffic.Json.Printer
import CapturedTraffic.Proofs.Json.Locality
import CapturedTraffic.Proofs.Text.Numerals
import Mathlib.Data.List.TakeWhile

/-!
# Lexing what is printed

A printed number and a printed text are each read back as one token, whatever stands around them.
-/
namespace CapturedTraffic.Json.Token

open Text Printer

theorem lexes_singleton {c : Char} {s : List Char} {t : Token} (blank : isBlank c = false)
    (h : read? (c :: s) = some (t, [])) : Lexes (c :: s) [t] := by
  apply all_eq_some_iff.1
  rw [all_cons blank h, all]
  rfl

theorem integer?_digits (n : Nat) : integer? (Decimal.digits n) = some (n, []) := by
  have each : ∀ c ∈ Decimal.digits n, Decimal.isDigit c = true := fun c => Decimal.digits_isDigit
  have taken := List.takeWhile_eq_self_iff.2 each
  have left := List.dropWhile_eq_nil_iff.2 each
  have denoted := Decimal.value_digits n
  rcases Decimal.digits_zero_or_leading n with ⟨rfl, zero⟩ | ⟨c, tail, written, other⟩
  · rw [zero]
    rfl
  · rw [written] at taken left denoted ⊢
    rw [integer?]
    · rw [taken, left]
      simp only [denoted]
    · rintro rest' ⟨rfl, rfl⟩
      exact other rfl

theorem not_blank_of_isDigit {c : Char} (h : Decimal.isDigit c = true) : isBlank c = false := by
  simp only [isBlank, Bool.or_eq_false_iff, decide_eq_false_iff_not]
  refine ⟨⟨⟨?_, ?_⟩, ?_⟩, ?_⟩
  all_goals
    rintro rfl
    revert h
    decide

theorem lexes_digits (n : Nat) : Lexes (Decimal.digits n) [natural n] := by
  have integer := integer?_digits n
  obtain ⟨c, tail, written, digit⟩ := Decimal.digits_eq_cons n
  rw [written] at integer ⊢
  apply lexes_singleton (not_blank_of_isDigit digit)
  rw [read?_of_numeric (.inr digit), number?_of_ne, magnitude?, integer]
  · rfl
  · rintro rfl
    revert digit
    decide

/-- A character is printed as a letter after a backslash, as its code point, or as it is. -/
theorem writeChar_forms (c : Char) :
    (∃ e, writeChar c = ['\\', e] ∧ escape? e = some c) ∨
      (c < ' ' ∧ writeChar c = '\\' :: 'u' :: Hex.fixed 4 c.toNat) ∨
        (c ≠ '"' ∧ c ≠ '\\' ∧ ¬ c < ' ' ∧ writeChar c = [c]) := by
  unfold writeChar
  iterate 7
    split
    next h =>
      subst h
      exact .inl ⟨_, rfl, rfl⟩
  split
  next control => exact .inr (.inl ⟨control, rfl⟩)
  next quote backslash _ _ _ _ _ visible => exact .inr (.inr ⟨quote, backslash, visible, rfl⟩)

/-- Four digits are the code point of a character that is half of nothing. -/
theorem string_control {c : Char} (control : c < ' ') (done rest : List Char) :
    string (some done) ('\\' :: 'u' :: Hex.fixed 4 c.toNat ++ rest) =
      string (some (c :: done)) rest := by
  have small : c.toNat < 32 := control
  have denoted : Hex.number? 0 (Hex.fixed 4 c.toNat) = some c.toNat := by
    rw [Hex.number?_fixed]
    congr 1
    omega
  have leading : isLeading c.toNat = false := by simp [isLeading]; omega
  have trailing : isTrailing c.toNat = false := by simp [isTrailing]; omega
  simp only [Hex.fixed, List.nil_append, List.cons_append] at denoted ⊢
  rw [string, denoted]
  simp only [leading, trailing, Option.map_some, Char.ofNat_toNat]
  rfl

/-- A printed character is read as itself. -/
theorem string_writeChar (done : List Char) (c : Char) (rest : List Char) :
    string (some done) (writeChar c ++ rest) = string (some (c :: done)) rest := by
  rcases writeChar_forms c with ⟨e, written, he⟩ | ⟨control, written⟩ |
    ⟨quote, backslash, visible, written⟩
  · rw [written]
    exact string_escape he (some done) rest
  · rw [written]
    exact string_control control done rest
  · rw [written]
    exact string_plain quote backslash visible (some done) rest

theorem string_write (done s rest : List Char) :
    string (some done) (s.flatMap writeChar ++ '"' :: rest) =
      some (some (done.reverse ++ s), rest) := by
  induction s generalizing done with
  | nil =>
    rw [List.flatMap_nil, List.nil_append, string, Option.map_some, List.append_nil]
  | cons c tail ih =>
    rw [List.flatMap_cons, List.append_assoc, string_writeChar, ih, List.reverse_cons,
      List.append_assoc, List.singleton_append]

theorem lexes_writeText (s : String) : Lexes (writeText s.toList) [text (some s)] := by
  apply lexes_singleton rfl
  rw [read?, string_write]
  simp only [Option.map_some, List.reverse_nil, List.nil_append, String.ofList_toList]

end CapturedTraffic.Json.Token
