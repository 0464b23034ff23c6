import CapturedTraffic.Pattern.Basic
import CapturedTraffic.Proofs.Text.LetterCase
import CapturedTraffic.Proofs.Unicode.CaseFolding
import Mathlib.Data.Option.Basic

/-!
# Patterns and letter case

A pattern whose sets hold both forms of each ASCII letter or none of them answers the same for texts
that differ in the case of these letters only. Such a change leaves every character at its place and
as long as it was, and does not make or break a word. So each part of the pattern leads from the
same places to the same places.
-/
namespace CapturedTraffic

open Unicode Text Utf8

namespace Pattern

namespace Haystack

/-- The character of a place with its length. Only characters of one byte can be ASCII letters. -/
def lowerChar (found : Nat × Nat) : Nat × Nat :=
  (if found.2 = 1 then lowerCode found.1 else found.1, found.2)

theorem apply_lowerChar {α : Type} {f : Nat → α} (letters : ∀ i < 26, f (97 + i) = f (65 + i))
    (found : Nat × Nat) : f (lowerChar found).1 = f found.1 := by
  rw [lowerChar]
  split
  · exact apply_lowerCode letters found.1
  · rfl

section CharAt

variable {p : Pending} {b : UInt8} {count : Nat}

theorem charAt?_ascii (ascii : b.toNat < 0x80) (count : Nat) (rest : List UInt8) :
    charAt? count none (b :: rest) = some (b.toNat, count + 1) := by
  rw [charAt?, step, start_one ascii]
  simp only [toNat_ofNat_ascii ascii]

theorem start_of_le {n : Nat} (h : 0x80 ≤ n) :
    start n = ([none], none) ∨ ∃ p, start n = ([], some p) ∧ 0x80 ≤ p.low := by
  rw [start, if_neg (by omega)]
  split
  · exact .inl rfl
  · split
    · exact .inr ⟨_, rfl, Nat.le_refl _⟩
    · split
      · refine .inr ⟨_, rfl, ?_⟩
        dsimp only
        split <;> decide
      · split
        · refine .inr ⟨_, rfl, ?_⟩
          dsimp only
          split <;> decide
        · exact .inl rfl

theorem charAt?_broken (broken : ¬ (p.low ≤ b.toNat ∧ b.toNat ≤ p.high)) (count : Nat)
    (rest : List UInt8) : charAt? count (some p) (b :: rest) = none := by
  simp only [charAt?, step, if_neg broken]

theorem charAt?_within (within : p.low ≤ b.toNat ∧ b.toNat ≤ p.high) (count : Nat)
    (rest : List UInt8) :
    charAt? count (some p) (b :: rest) =
      if p.missing ≤ 1 then some ((Char.ofNat (0x40 * p.bits + b.toNat % 0x40)).toNat, count + 1)
      else charAt? (count + 1)
        (some ⟨0x40 * p.bits + b.toNat % 0x40, p.missing - 1, 0x80, 0xBF⟩) rest := by
  simp only [charAt?, step, if_pos within]
  by_cases last : p.missing ≤ 1
  · simp only [if_pos last]
  · simp only [if_neg last]

/-- Within a character no byte is a letter, and a letter breaks it off in either form. -/
theorem charAt?_pending (low : 0x80 ≤ p.low) (count : Nat) (bytes : List UInt8) :
    charAt? count (some p) (bytes.map lowerByte) = charAt? count (some p) bytes := by
  induction bytes generalizing p count with
  | nil => rfl
  | cons b rest ih =>
    rw [List.map_cons]
    rcases Nat.lt_or_ge b.toNat 0x80 with ascii | other
    · have lower : (lowerByte b).toNat < 0x80 := by
        rw [toNat_lowerByte]
        exact lowerCode_lt ascii
      rw [charAt?_broken (by omega), charAt?_broken (by omega)]
    · rw [lowerByte_of_le (by omega)]
      by_cases within : p.low ≤ b.toNat ∧ b.toNat ≤ p.high
      · rw [charAt?_within within, charAt?_within within, ih (Nat.le_refl _)]
      · rw [charAt?_broken within, charAt?_broken within]

theorem lt_of_charAt? {bytes : List UInt8} {found : Nat × Nat}
    (h : charAt? count (some p) bytes = some found) : count < found.2 := by
  induction bytes generalizing p count with
  | nil => cases h
  | cons b rest ih =>
    by_cases within : p.low ≤ b.toNat ∧ b.toNat ≤ p.high
    · rw [charAt?_within within] at h
      split at h
      · cases h
        exact Nat.lt_succ_self count
      · exact Nat.lt_of_succ_lt (ih h)
    · rw [charAt?_broken within] at h
      cases h

theorem charAt?_lower (bytes : List UInt8) :
    charAt? 0 none (bytes.map lowerByte) = (charAt? 0 none bytes).map lowerChar := by
  cases bytes with
  | nil => rfl
  | cons b rest =>
    rw [List.map_cons]
    rcases Nat.lt_or_ge b.toNat 0x80 with ascii | other
    · have lower : (lowerByte b).toNat < 0x80 := by
        rw [toNat_lowerByte]
        exact lowerCode_lt ascii
      rw [charAt?_ascii ascii, charAt?_ascii lower, toNat_lowerByte]
      rfl
    · -- What such a byte begins has more bytes than one, so it is no letter if it is whole.
      rw [lowerByte_of_le (by omega), charAt?, charAt?, step]
      rcases start_of_le other with bad | ⟨p, begun, low⟩
      · rw [bad]
        rfl
      · rw [begun]
        dsimp only
        rw [charAt?_pending low]
        cases found : charAt? (0 + 1) (some p) rest with
        | none => rfl
        | some c =>
          have long := lt_of_charAt? found
          rw [Option.map_some, lowerChar, if_neg (by omega)]

end CharAt

theorem charsOf_lower (before : Array (Option (Nat × Nat))) (bytes : List UInt8) :
    charsOf (before.map (Option.map lowerChar)) (bytes.map lowerByte) =
      (charsOf before bytes).map (Option.map lowerChar) := by
  induction bytes generalizing before with
  | nil => rfl
  | cons b rest ih =>
    rw [List.map_cons, charsOf, charsOf, ← List.map_cons, charAt?_lower, ← Array.map_push, ih]

/-- The haystack with its ASCII letters in lower case. -/
def lower (h : Haystack) : Haystack :=
  ⟨h.bytes.map lowerByte, h.chars.map (Option.map lowerChar)⟩

theorem ofBytes_map_lowerByte (bytes : List UInt8) :
    ofBytes (bytes.map lowerByte) = (ofBytes bytes).lower := by
  rw [ofBytes, ofBytes, lower, List.map_toArray, ← charsOf_lower, Array.map_empty]

section Lower

variable {h : Haystack} {f : Nat → Bool}

theorem size_lower : h.lower.size = h.size := Array.size_map

theorem byteAt?_lower (i : Nat) : h.lower.byteAt? i = (h.byteAt? i).map lowerCode := by
  simp only [byteAt?, lower, Array.getElem?_map, Option.map_map]
  exact Option.map_congr fun b _ => toNat_lowerByte b

theorem byteBefore?_lower (i : Nat) : h.lower.byteBefore? i = (h.byteBefore? i).map lowerCode := by
  unfold byteBefore?
  split
  · rfl
  · exact byteAt?_lower (i - 1)

theorem join_chars_lower (i : Nat) :
    h.lower.chars[i]?.join = (h.chars[i]?.join).map lowerChar := by
  rw [lower, Array.getElem?_map]
  cases h.chars[i]? with
  | none => rfl
  | some found => rfl

theorem isContinuation_lower (i : Nat) : h.lower.isContinuation i = h.isContinuation i := by
  rw [isContinuation, isContinuation, byteAt?_lower]
  cases h.byteAt? i with
  | none => rfl
  | some b =>
    exact apply_lowerCode (f := fun b => decide (0x80 ≤ b) && decide (b < 0xC0)) (by decide) b

theorem leadFrom_lower (limit i : Nat) : h.lower.leadFrom limit i = h.leadFrom limit i := by
  induction i with
  | zero => rfl
  | succ i ih => rw [leadFrom, leadFrom, isContinuation_lower, ih]

theorem any_map_lowerCode (letters : ∀ i < 26, f (97 + i) = f (65 + i)) (o : Option Nat) :
    (o.map lowerCode).any f = o.any f := by
  cases o with
  | none => rfl
  | some n => exact apply_lowerCode letters n

theorem any_charFrom?_lower (letters : ∀ i < 26, f (97 + i) = f (65 + i)) (i : Nat) :
    (h.lower.charFrom? i).any f = (h.charFrom? i).any f := by
  rw [charFrom?, charFrom?, join_chars_lower]
  cases h.chars[i]?.join with
  | none => rfl
  | some found => exact apply_lowerChar letters found

theorem any_charBefore?_lower (letters : ∀ i < 26, f (97 + i) = f (65 + i)) (i : Nat) :
    (h.lower.charBefore? i).any f = (h.charBefore? i).any f := by
  simp only [charBefore?, leadFrom_lower, join_chars_lower]
  cases h.chars[h.leadFrom (i - 4) i]?.join with
  | none => rfl
  | some found =>
    dsimp only [Option.map_some, lowerChar]
    split
    · exact apply_lowerChar letters found
    · rfl

theorem isSome_eq_any {α : Type} (o : Option α) : o.isSome = o.any fun _ => true := by
  cases o <;> rfl

theorem wordBefore_lower (unicode : Bool) (i : Nat) :
    h.lower.wordBefore unicode i = h.wordBefore unicode i := by
  simp only [wordBefore, byteBefore?_lower, any_charBefore?_lower (f := isWordChar) (by decide),
    any_map_lowerCode (f := isWordByte) (by decide)]

theorem wordAfter_lower (unicode : Bool) (i : Nat) :
    h.lower.wordAfter unicode i = h.wordAfter unicode i := by
  simp only [wordAfter, byteAt?_lower, any_charFrom?_lower (f := isWordChar) (by decide),
    any_map_lowerCode (f := isWordByte) (by decide)]

theorem soundBefore_lower (unicode : Bool) (i : Nat) :
    h.lower.soundBefore unicode i = h.soundBefore unicode i := by
  simp only [soundBefore, isSome_eq_any, any_charBefore?_lower (f := fun _ => true) fun _ _ => rfl]

theorem soundAfter_lower (unicode : Bool) (i : Nat) :
    h.lower.soundAfter unicode i = h.soundAfter unicode i := by
  simp only [soundAfter, isSome_eq_any, size_lower,
    any_charFrom?_lower (f := fun _ => true) fun _ _ => rfl]

theorem map_lowerCode_eq_some_iff {m : Nat} (below : m < 65) (o : Option Nat) :
    o.map lowerCode = some m ↔ o = some m := by
  cases o with
  | none => simp
  | some n => simpa using lowerCode_eq_iff below

theorem satisfies_lower (i : Nat) (condition : Look) :
    h.lower.satisfies i condition = h.satisfies i condition := by
  have newlines := map_lowerCode_eq_some_iff (m := newline) (by decide)
  have returns := map_lowerCode_eq_some_iff (m := carriageReturn) (by decide)
  cases condition <;>
    simp only [satisfies, size_lower, byteAt?_lower, byteBefore?_lower, newlines, returns, bne,
      beq_eq_decide, wordBefore_lower, wordAfter_lower, soundBefore_lower, soundAfter_lower]

theorem starts_lower (anyBytes : Bool) : h.lower.starts anyBytes = h.starts anyBytes := by
  simp only [starts, isContinuation_lower, size_lower]

end Lower

end Haystack

end Pattern

/-- Whether a set holds both forms of each letter from A to Z or none of them. -/
def Unicode.RangeSet.ignoresCase (s : RangeSet) : Bool :=
  (List.range 26).all fun i => s.contains (97 + i) == s.contains (65 + i)

theorem Unicode.RangeSet.ignoresCase_iff {s : RangeSet} :
    s.ignoresCase = true ↔ ∀ i < 26, s.contains (97 + i) = s.contains (65 + i) := by
  simp only [ignoresCase, List.all_eq_true, List.mem_range, beq_iff_eq]

namespace Pattern

/-- Whether the atom takes the two forms of each letter alike. Conditions always do. -/
def Atom.ignoresCase : Atom → Bool
  | char set => set.ignoresCase
  | byte set => set.ignoresCase
  | look _ => true

namespace Haystack

variable {h : Haystack}

theorem charMoves_lower {set : RangeSet} (ignores : set.ignoresCase = true) (length : Nat) :
    h.lower.charMoves set length = h.charMoves set length := by
  rw [charMoves, charMoves, size_lower]
  congr 2
  funext i
  rw [join_chars_lower]
  cases h.chars[i]?.join with
  | none => rfl
  | some found =>
    exact congrArg (found.2 == length && ·)
      (apply_lowerChar (RangeSet.ignoresCase_iff.1 ignores) found)

theorem moves_lower {a : Atom} (ignores : a.ignoresCase = true) : h.lower.moves a = h.moves a := by
  cases a with
  | char set => simp only [moves, charMoves_lower ignores]
  | byte set =>
    simp only [moves, size_lower, byteAt?_lower,
      any_map_lowerCode (RangeSet.ignoresCase_iff.1 ignores)]
  | look condition => simp only [moves, size_lower, satisfies_lower]

end Haystack

namespace Regex

/-- Whether all leaves are such. -/
def all {α : Type} (p : α → Bool) : Regex α → Bool
  | empty => true
  | atom a => p a
  | concat first second => first.all p && second.all p
  | alternate left right => left.all p && right.all p
  | repeated _ _ body => body.all p
  | group _ body => body.all p

theorem map_congr {α β : Type} {p : α → Bool} {f g : α → β} (same : ∀ a, p a = true → f a = g a)
    {r : Regex α} (h : r.all p = true) : r.map f = r.map g := by
  induction r with
  | empty => rfl
  | atom a => rw [map, map, same a h]
  | concat first second ih₁ ih₂ =>
    obtain ⟨h₁, h₂⟩ := Bool.and_eq_true_iff.1 h
    rw [map, map, ih₁ h₁, ih₂ h₂]
  | alternate left right ih₁ ih₂ =>
    obtain ⟨h₁, h₂⟩ := Bool.and_eq_true_iff.1 h
    rw [map, map, ih₁ h₁, ih₂ h₂]
  | repeated low high body ih => rw [map, map, ih h]
  | group captured body ih => rw [map, map, ih h]

theorem foundIn_map_lowerByte {r : Regex Atom} (ignores : r.all Atom.ignoresCase = true)
    (anyBytes : Bool) (bytes : List UInt8) :
    r.foundIn anyBytes (bytes.map lowerByte) = r.foundIn anyBytes bytes := by
  have moves : r.map (Haystack.ofBytes bytes).lower.moves = r.map (Haystack.ofBytes bytes).moves :=
    map_congr (fun _ => Haystack.moves_lower) ignores
  simp only [foundIn, Haystack.ofBytes_map_lowerByte, Haystack.size_lower, Haystack.starts_lower,
    moves]

end Regex

/-- Texts that differ in the case of ASCII letters only are matched alike. -/
def IgnoresCase (p : Pattern) : Prop :=
  ∀ a b, sameIgnoringCase a b = true → p.matchesText a = p.matchesText b

/-- A pattern ignores case if each of its sets holds both forms of each letter or none of them. -/
theorem ignoresCase_of_all {p : Pattern} (ignores : p.regex.all Atom.ignoresCase = true) :
    p.IgnoresCase := by
  intro a b same
  have bytes : (encode a).map lowerByte = (encode b).map lowerByte := by
    rw [map_lowerByte_encode, map_lowerByte_encode, sameIgnoringCase_iff.1 same]
  rw [matchesText, matchesText, matchesBytes, matchesBytes,
    ← Regex.foundIn_map_lowerByte ignores, bytes, Regex.foundIn_map_lowerByte ignores]

/-- The two forms of a letter. -/
def Atom.letter (i : Nat) : Atom := .char ⟨#[(65 + i, 65 + i), (97 + i, 97 + i)]⟩

theorem Context.literal?_letter {c : Context} (ignoring : c.ignoreCase = true)
    (unicode : c.unicode = true) (i : Nat) (letter : i < 26 ∧ i ≠ 10 ∧ i ≠ 18) :
    c.literal? ⟨Char.ofNat (97 + i), false⟩ = some (.atom (.letter i)) := by
  have ascii : (Char.ofNat (97 + i)).toNat = 97 + i := toNat_ofNat_ascii (by omega)
  rw [literal?, if_pos unicode, fold, ignoring, unicode, ascii, CaseFolding.closure_letter letter]
  rfl

end Pattern

end CapturedTraffic
