import CapturedTraffic.Proofs.Text.CharacterBoundary
import CapturedTraffic.Scope.Config

/-!
# What bodies contain

A body test that seeks bytes holds exactly of the bodies in which they stand. Looking through all
windows of their length gives the same answer, if the length is not zero. Where both are the bytes
of texts, bytes are found exactly where characters are.
-/
namespace CapturedTraffic

open Text

namespace Text

variable {α : Type}

/-- The stretches of a given length, from the first to the last; length zero is not allowed. -/
def windows? (size : Nat) (text : List α) : Option (List (List α)) :=
  if size = 0 then none
  else some ((List.range (text.length + 1 - size)).map fun i => (text.drop i).take size)

/-- Seeks window by window; what is empty is found without looking. -/
def foundInWindows? [BEq α] (needle text : List α) : Option Bool :=
  if needle.isEmpty then some true
  else (windows? needle.length text).map fun w => w.any (· == needle)

/-- What stands in a text is one of its windows. -/
theorem infix_iff_window {needle text : List α} :
    needle <:+: text ↔
      ∃ i < text.length + 1 - needle.length, (text.drop i).take needle.length = needle := by
  constructor
  · rintro ⟨p, q, rfl⟩
    refine ⟨p.length, ?_, ?_⟩
    · simp only [List.length_append]
      omega
    · rw [List.append_assoc, List.drop_left, List.take_left]
  · rintro ⟨i, _, window⟩
    refine ⟨text.take i, (text.drop i).drop needle.length, ?_⟩
    calc text.take i ++ needle ++ (text.drop i).drop needle.length
      _ = text.take i ++ ((text.drop i).take needle.length ++ (text.drop i).drop needle.length) := by
        rw [window, List.append_assoc]
      _ = text := by rw [List.take_append_drop, List.take_append_drop]

theorem foundInWindows?_eq [BEq α] [LawfulBEq α] (needle text : List α) :
    foundInWindows? needle text = some (occursIn needle text) := by
  unfold foundInWindows?
  split
  next empty =>
    obtain rfl := List.isEmpty_iff.1 empty
    exact congrArg some (occursIn_iff.2 (List.nil_infix)).symm
  next filled =>
    have positive : needle.length ≠ 0 := fun h => filled (List.isEmpty_iff_length_eq_zero.2 h)
    rw [windows?, if_neg positive, Option.map_some, Option.some_inj, Bool.eq_iff_iff, occursIn_iff,
      infix_iff_window]
    simp only [List.any_map, List.any_eq_true, List.mem_range, Function.comp_apply, beq_iff_eq]

end Text

namespace BodyMatcher

variable {needle body : List UInt8}

theorem contains_accepts_iff :
    (contains needle).accepts body = true ↔ ∃ p q, body = p ++ needle ++ q := by
  rw [accepts, occursIn_iff]
  exact exists_congr fun p => exists_congr fun q => eq_comm

theorem contains_accepts_encode_iff {s t : String} :
    (contains (Utf8.encode s)).accepts (Utf8.encode t) = true ↔
      ∃ before after, t = before ++ s ++ after := by
  rw [accepts, occursIn_iff, Utf8.encode_infix_encode_iff]

theorem contains_accepts_eq_false (longer : body.length < needle.length) :
    (contains needle).accepts body = false := by
  rw [Bool.eq_false_iff, ne_eq, contains_accepts_iff]
  rintro ⟨p, q, rfl⟩
  simp only [List.length_append] at longer
  omega

/--
A body contains exactly what stands in it somewhere, from its first byte to its last; the search by
windows always ends, with that answer. The test that a configuration makes of a text, done on the
bytes of another text, holds exactly if the characters of the one stand in the other: the bytes on
both sides of where they are found are characters again.
-/
theorem contains_characterised (needle body : List UInt8) (s t : String) :
    ((contains needle).accepts body = true ↔ ∃ p q, body = p ++ needle ++ q) ∧
      foundInWindows? needle body = some ((contains needle).accepts body) ∧
      (contains []).accepts body = true ∧
      (body.length < needle.length → (contains needle).accepts body = false) ∧
      ((contains (Utf8.encode s)).accepts (Utf8.encode t) = true ↔
        ∃ before after, t = before ++ s ++ after) ∧
      (∀ rule, ∃ m, (Scope.BodyConfig.contains s).compile rule = .ok m ∧
        (m.accepts (Utf8.encode t) = true ↔ ∃ before after, t = before ++ s ++ after)) ∧
      (s ≠ "" → ∀ p q, Utf8.encode t = p ++ Utf8.encode s ++ q →
        ∃ before after, p = Utf8.encode before ∧ q = Utf8.encode after ∧
          t = before ++ s ++ after) := by
  refine ⟨contains_accepts_iff, foundInWindows?_eq needle body,
    contains_accepts_iff.2 ⟨[], body, rfl⟩, contains_accepts_eq_false, contains_accepts_encode_iff,
    fun rule => ⟨_, rfl, contains_accepts_encode_iff⟩, ?_⟩
  exact fun visible p q => Utf8.exists_of_encode_eq_append visible

/-- The last byte of one character and the first of the next are no text, and are found as bytes. -/
theorem contains_characterised_inside :
    let body := Utf8.encode "aéè"
    "é" ≠ "" ∧ (contains [0xA9, 0xC3]).accepts body = true ∧
      (contains (Utf8.encode "é")).accepts body = true ∧
      foundInWindows? [0xA9, 0xC3] body = some true ∧ [0xC3].length < (Utf8.encode "é").length ∧
      (contains (Utf8.encode "é")).accepts [0xC3] = false ∧
      ∃ before after, [97] = Utf8.encode before ∧ [0xC3, 0xA8] = Utf8.encode after ∧
        "aéè" = before ++ "é" ++ after := by
  intro body
  have visible : "é" ≠ "" := by decide
  have longer : [0xC3].length < (Utf8.encode "é").length := by decide +kernel
  obtain ⟨bytes, windows, _, _, characters, _, around⟩ :=
    contains_characterised [0xA9, 0xC3] body "é" "aéè"
  obtain ⟨_, _, _, short, _⟩ := contains_characterised (Utf8.encode "é") [0xC3] "" ""
  have found : (contains [0xA9, 0xC3]).accepts body = true :=
    bytes.2 ⟨[97, 0xC3], [0xA8], by decide +kernel⟩
  refine ⟨visible, found, characters.2 ⟨"a", "è", by decide⟩, ?_, longer, short longer,
    around visible [97] [0xC3, 0xA8] (by decide +kernel)⟩
  rw [windows, found]

end BodyMatcher

end CapturedTraffic
