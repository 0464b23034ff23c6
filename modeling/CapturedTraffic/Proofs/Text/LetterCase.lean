import CapturedTraffic.Proofs.Text.Utf8
import CapturedTraffic.Unicode.Lowercase

/-!
# The case of ASCII letters

Changing the case of letters from A to Z changes these letters and nothing around them. The
lower-case form of a text does not see it: a letter of either case is a cased one that case does not
ignore, so the sigmas of the text end the same words as before. In UTF-8 the letters are bytes of
their own, and no byte of another character is taken for a letter.
-/
namespace CapturedTraffic

namespace Text

theorem sameIgnoringCase_of_eq {a b : String} (same : a = b) : sameIgnoringCase a b = true := by
  rw [same, sameIgnoringCase_self]

/-- The code of the lower-case letter, if the code is that of a letter from A to Z. -/
def lowerCode (n : Nat) : Nat := if 65 ≤ n ∧ n ≤ 90 then n + 32 else n

theorem lowerCode_of_le {n : Nat} (h : 91 ≤ n) : lowerCode n = n := if_neg (by omega)

theorem lowerCode_lt {n : Nat} (ascii : n < 0x80) : lowerCode n < 0x80 := by
  unfold lowerCode
  split <;> omega

/-- No letter is taken for a code below the letters. -/
theorem lowerCode_eq_iff {m n : Nat} (below : m < 65) : lowerCode n = m ↔ n = m := by
  unfold lowerCode
  split <;> omega

/-- What takes the two forms of each letter alike does not tell a code from that in lower case. -/
theorem apply_lowerCode {α : Type} {f : Nat → α} (letters : ∀ i < 26, f (97 + i) = f (65 + i))
    (n : Nat) : f (lowerCode n) = f n := by
  by_cases h : 65 ≤ n ∧ n ≤ 90
  · have capital : 65 + (n - 65) = n := by omega
    have small : 97 + (n - 65) = n + 32 := by omega
    have letter := letters (n - 65) (by omega)
    rw [capital, small] at letter
    rw [lowerCode, if_pos h, letter]
  · rw [lowerCode, if_neg h]

theorem asciiLower_eq (c : Char) : asciiLower c = Char.ofNat (lowerCode c.toNat) := by
  by_cases h : 65 ≤ c.toNat ∧ c.toNat ≤ 90
  · rw [lowerCode, if_pos h]
    exact if_pos h
  · rw [lowerCode, if_neg h, Char.ofNat_toNat]
    exact if_neg h

theorem apply_asciiLower {α : Type} {f : Char → α}
    (letters : ∀ i < 26, f (Char.ofNat (97 + i)) = f (Char.ofNat (65 + i))) (c : Char) :
    f (asciiLower c) = f c := by
  have same := apply_lowerCode (f := fun n => f (Char.ofNat n)) letters c.toNat
  rwa [← asciiLower_eq, Char.ofNat_toNat] at same

theorem toNat_ofNat_of_valid {n : Nat} (valid : n.isValidChar) : (Char.ofNat n).toNat = n := by
  rw [Char.ofNat, dif_pos valid]
  rfl

theorem toNat_ofNat_ascii {n : Nat} (ascii : n < 0x80) : (Char.ofNat n).toNat = n :=
  toNat_ofNat_of_valid (.inl (by omega))

/-- A character outside ASCII is its own form, and is the form of no letter. -/
theorem asciiLower_lt_iff {c : Char} : (asciiLower c).toNat < 0x80 ↔ c.toNat < 0x80 := by
  rw [asciiLower_eq]
  rcases Nat.lt_or_ge c.toNat 0x80 with ascii | other
  · have lower : lowerCode c.toNat < 0x80 := lowerCode_lt ascii
    simp only [toNat_ofNat_ascii lower, lower, ascii]
  · rw [lowerCode_of_le (by omega), Char.ofNat_toNat]

end Text

namespace Unicode

open Text

namespace Lowercase

theorem ofChar_asciiLower (c : Char) : ofChar (asciiLower c) = ofChar c :=
  apply_asciiLower (by decide) c

theorem isCased_asciiLower (c : Char) : isCased (asciiLower c) = isCased c :=
  apply_asciiLower (by decide) c

theorem isCaseIgnorable_asciiLower (c : Char) : isCaseIgnorable (asciiLower c) = isCaseIgnorable c :=
  apply_asciiLower (by decide) c

theorem asciiLower_eq_sigma_iff {c : Char} : asciiLower c = 'Σ' ↔ c = 'Σ' :=
  decide_eq_decide.1 (apply_asciiLower (f := fun c => decide (c = 'Σ')) (by decide) c)

theorem meetsCased_map_asciiLower (s : List Char) :
    meetsCased (s.map asciiLower) = meetsCased s := by
  induction s with
  | nil => rfl
  | cons c rest ih =>
    rw [List.map_cons, meetsCased, meetsCased, isCaseIgnorable_asciiLower, isCased_asciiLower, ih]

theorem chars_map_asciiLower (before s : List Char) :
    chars (before.map asciiLower) (s.map asciiLower) = chars before s := by
  induction s generalizing before with
  | nil => rfl
  | cons c rest ih =>
    simp only [List.map_cons, chars, asciiLower_eq_sigma_iff, meetsCased_map_asciiLower,
      ofChar_asciiLower]
    rw [← List.map_cons, ih]

end Lowercase

/-- The lower-case form is that of the text with its ASCII letters in lower case. -/
theorem lowercase_eq_ofList (s : String) :
    lowercase s = String.ofList (Lowercase.chars [] (asciiFold s)) := by
  rw [lowercase, asciiFold, ← Lowercase.chars_map_asciiLower, List.map_nil]

theorem lowercase_congr {s t : String} (same : sameIgnoringCase s t = true) :
    lowercase s = lowercase t := by
  rw [lowercase_eq_ofList, lowercase_eq_ofList, sameIgnoringCase_iff.1 same]

end Unicode

namespace Text.Utf8

def lowerByte (b : UInt8) : UInt8 := UInt8.ofNat (lowerCode b.toNat)

theorem toNat_lowerByte (b : UInt8) : (lowerByte b).toNat = lowerCode b.toNat := by
  have bound := b.toNat_lt
  apply toNat_byte
  unfold lowerCode
  split <;> omega

theorem lowerByte_of_le {b : UInt8} (h : 91 ≤ b.toNat) : lowerByte b = b := by
  rw [lowerByte, lowerCode_of_le h, UInt8.ofNat_toNat]

theorem utf8EncodeChar_ascii {c : Char} (ascii : c.toNat < 0x80) :
    String.utf8EncodeChar c = [UInt8.ofNat c.toNat] := by
  have one : c.val.toNat ≤ 0x7F := Nat.le_of_lt_succ ascii
  unfold String.utf8EncodeChar
  dsimp only
  rw [if_pos one]
  rfl

theorem le_toNat_byte {n : Nat} (low : 0x80 ≤ n) (high : n < 256) :
    0x80 ≤ (UInt8.ofNat n).toNat := by
  rwa [toNat_byte high]

/-- The bytes of a character outside ASCII are outside ASCII too. -/
theorem le_toNat_of_mem_utf8EncodeChar {c : Char} (other : 0x80 ≤ c.toNat) :
    ∀ b ∈ String.utf8EncodeChar c, 0x80 ≤ b.toNat := by
  have more : ¬ c.val.toNat ≤ 0x7F := Nat.not_le_of_lt other
  unfold String.utf8EncodeChar
  dsimp only
  rw [if_neg more]
  split
  · simp only [List.forall_mem_cons]
    exact ⟨le_toNat_byte (by omega) (by omega), le_toNat_byte (by omega) (by omega), by simp⟩
  · split
    · simp only [List.forall_mem_cons]
      exact ⟨le_toNat_byte (by omega) (by omega), le_toNat_byte (by omega) (by omega),
        le_toNat_byte (by omega) (by omega), by simp⟩
    · simp only [List.forall_mem_cons]
      exact ⟨le_toNat_byte (by omega) (by omega), le_toNat_byte (by omega) (by omega),
        le_toNat_byte (by omega) (by omega), le_toNat_byte (by omega) (by omega), by simp⟩

theorem map_lowerByte_utf8EncodeChar (c : Char) :
    (String.utf8EncodeChar c).map lowerByte = String.utf8EncodeChar (asciiLower c) := by
  rw [asciiLower_eq]
  rcases Nat.lt_or_ge c.toNat 0x80 with ascii | other
  · have lower : lowerCode c.toNat < 0x80 := lowerCode_lt ascii
    rw [utf8EncodeChar_ascii ascii, utf8EncodeChar_ascii (by rwa [toNat_ofNat_ascii lower]),
      toNat_ofNat_ascii lower, List.map_singleton, lowerByte, toNat_byte (by omega)]
  · have same : Char.ofNat (lowerCode c.toNat) = c := by
      rw [lowerCode_of_le (by omega), Char.ofNat_toNat]
    have bytes : ∀ b ∈ String.utf8EncodeChar c, lowerByte b = b := fun b hb =>
      lowerByte_of_le (Nat.le_trans (by decide) (le_toNat_of_mem_utf8EncodeChar other b hb))
    rw [same, List.map_congr_left bytes, List.map_id']

theorem map_lowerByte_encode (s : String) :
    (encode s).map lowerByte = (asciiFold s).flatMap String.utf8EncodeChar := by
  rw [encode, asciiFold, List.map_flatMap, List.flatMap_map]
  simp only [map_lowerByte_utf8EncodeChar]

end Text.Utf8

end CapturedTraffic
