import CapturedTraffic.Unicode.Lowercase
import Mathlib.Data.List.Basic

/-!
# Lower case in pieces

The lower-case form of a text is made up of the forms of its pieces. A piece has the same form in
the text and on its own exactly if each of its capital sigmas ends a word in both or in neither:
no other character looks at its neighbours.
-/
namespace CapturedTraffic.Unicode

namespace Lowercase

/-- Whether a capital sigma ends a word; the characters before it come with the nearest first. -/
def endsWord (before after : List Char) : Bool := meetsCased before && !meetsCased after

/-- The lower-case form of a character between others. -/
def form (before : List Char) (c : Char) (after : List Char) : List Char :=
  if c = 'Σ' then [if endsWord before after then 'ς' else 'σ'] else ofChar c

/-- The lower-case form of a piece of a text that goes on after it. -/
def piece (before : List Char) : List Char → List Char → List Char
  | [], _ => []
  | c :: rest, after => form before c (rest ++ after) ++ piece (c :: before) rest after

theorem chars_cons (before : List Char) (c : Char) (rest : List Char) :
    chars before (c :: rest) = form before c rest ++ chars (c :: before) rest := rfl

theorem chars_append (before s rest : List Char) :
    chars before (s ++ rest) = piece before s rest ++ chars (s.reverse ++ before) rest := by
  induction s generalizing before with
  | nil => rfl
  | cons c s ih => simp [chars_cons, piece, ih]

theorem chars_eq_piece (before s : List Char) : chars before s = piece before s [] := by
  have whole := chars_append before s []
  rwa [List.append_nil, chars, List.append_nil] at whole

theorem length_form (b : List Char) (c : Char) (a before after : List Char) :
    (form b c a).length = (form before c after).length := by
  rw [form, form]
  split <;> rfl

theorem form_eq_form_iff {b a before after : List Char} {c : Char} :
    form b c a = form before c after ↔ (c = 'Σ' → endsWord b a = endsWord before after) := by
  by_cases sigma : c = 'Σ'
  · rw [form, form, if_pos sigma, if_pos sigma]
    cases endsWord b a <;> cases endsWord before after <;> simp [sigma]
  · rw [form, form, if_neg sigma, if_neg sigma]
    simp [sigma]

/-- A piece has the same form in two places exactly if its sigmas end the same words there. -/
theorem piece_eq_piece_iff {b s a before after : List Char} :
    piece b s a = piece before s after ↔
      ∀ head tail, s = head ++ 'Σ' :: tail →
        endsWord (head.reverse ++ b) (tail ++ a) =
          endsWord (head.reverse ++ before) (tail ++ after) := by
  induction s generalizing b before with
  | nil => simp [piece]
  | cons c s ih =>
    rw [piece, piece, List.append_eq_append_iff_of_size_eq_left (length_form ..),
      form_eq_form_iff, ih]
    constructor
    · rintro ⟨first, rest⟩ head tail split
      cases head with
      | nil =>
        obtain ⟨sigma, rfl⟩ := List.cons.inj split
        exact first sigma
      | cons d head =>
        obtain ⟨rfl, others⟩ := List.cons.inj split
        simpa using rest head tail others
    · intro all
      constructor
      · rintro rfl
        exact all [] s rfl
      · intro head tail split
        simpa using all (c :: head) tail (congrArg (c :: ·) split)

/-- Each capital sigma of a piece ends a word in the text exactly if it does in the piece. -/
def KeepsSigmas (before s after : List Char) : Prop :=
  ∀ head tail, s = head ++ 'Σ' :: tail →
    endsWord (before ++ head).reverse (tail ++ after) = endsWord head.reverse tail

theorem piece_eq_chars_iff {before s after : List Char} :
    piece before.reverse s after = chars [] s ↔ KeepsSigmas before s after := by
  rw [chars_eq_piece, piece_eq_piece_iff]
  simp [KeepsSigmas]

theorem length_piece (b s a before after : List Char) :
    (piece b s a).length = (piece before s after).length := by
  induction s generalizing b before with
  | nil => rfl
  | cons c s ih =>
    simp only [piece, List.length_append]
    rw [length_form b c _ before (s ++ after), ih (c :: b) (c :: before)]

end Lowercase

open Lowercase

theorem toList_lowercase (s : String) : (lowercase s).toList = chars [] s.toList :=
  String.toList_ofList

/--
The lower-case form of a piece stands in that of the text, in the place of the piece, exactly if
the piece keeps its sigmas.
-/
theorem lowercase_stands_iff {before s after : String} :
    (∃ left right,
        (lowercase (before ++ s ++ after)).toList = left ++ (lowercase s).toList ++ right ∧
          left.length = (lowercase before).toList.length) ↔
      KeepsSigmas before.toList s.toList after.toList := by
  have whole : (lowercase (before ++ s ++ after)).toList =
      piece [] before.toList (s.toList ++ after.toList) ++
        piece before.toList.reverse s.toList after.toList ++
        chars (s.toList.reverse ++ before.toList.reverse) after.toList := by
    simp [toList_lowercase, chars_append]
  have place : (piece [] before.toList (s.toList ++ after.toList)).length =
      (lowercase before).toList.length := by
    rw [toList_lowercase, chars_eq_piece]
    exact length_piece ..
  rw [whole, ← piece_eq_chars_iff, ← toList_lowercase]
  constructor
  · rintro ⟨left, right, same, length⟩
    rw [List.append_assoc, List.append_assoc] at same
    have rest := (List.append_inj same (place.trans length.symm)).2
    have width : (piece before.toList.reverse s.toList after.toList).length =
        (lowercase s).toList.length := by
      rw [toList_lowercase, chars_eq_piece]
      exact length_piece ..
    exact (List.append_inj rest width).1
  · intro same
    exact ⟨_, _, by rw [same], place⟩

end CapturedTraffic.Unicode
