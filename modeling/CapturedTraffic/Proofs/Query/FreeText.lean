import CapturedTraffic.Proofs.Query.Meaning
import CapturedTraffic.Proofs.Text.Lowercase

/-!
# Literals that stand alone

A literal is sought in lower case, and so are the fields that it is sought in. A literal that is
part of a field is found there unless one of its capital sigmas is the final sigma of a word in the
literal and not in the field, or the other way round.
-/
namespace CapturedTraffic.Query

open Unicode Lowercase

/-- The values that a literal is sought in. -/
def Searched (e : Exchange) (value : String) : Prop :=
  value ∈ Field.requestValues e ∨ ∃ r ∈ e.response, value ∈ Field.responseValues r

theorem mentions_of_keepsSigmas {before s after : String}
    (keeps : KeepsSigmas before.toList s.toList after.toList) :
    Mentions (before ++ s ++ after) s := by
  obtain ⟨left, right, whole, _⟩ := lowercase_stands_iff.2 keeps
  exact ⟨left, right, whole.symm⟩

namespace Expression

theorem evaluate_literal_of_mentions {e : Exchange} {value s : String} (searched : Searched e value)
    (mentioned : Mentions value s) : (literal s).evaluate e = .ok true := by
  have found : foundInFields e s = true := by
    rw [foundInFields, Bool.or_eq_true, Option.any_eq_true]
    rcases searched with request | ⟨r, given, response⟩
    · exact .inl (List.any_eq_true.2 ⟨value, request, foundIn_iff.2 mentioned⟩)
    · exact .inr ⟨r, given, List.any_eq_true.2 ⟨value, response, foundIn_iff.2 mentioned⟩⟩
  rw [evaluate, found]

/-- A literal is found where it stands if its capital sigmas end a word in both or in neither. -/
theorem evaluate_literal_of_keepsSigmas {e : Exchange} {value before s after : String}
    (searched : Searched e value) (stands : value = before ++ s ++ after)
    (keeps : KeepsSigmas before.toList s.toList after.toList) :
    (literal s).evaluate e = .ok true := by
  apply evaluate_literal_of_mentions searched
  rw [stands]
  exact mentions_of_keepsSigmas keeps

/-- The sigma is inside a word in the method and in the literal. -/
theorem evaluate_literal_of_keepsSigmas_inside :
    let e := Exchange.new ⟨0, by decide⟩ "aΣbc" none
    Searched e "aΣbc" ∧ "aΣbc" = "a" ++ "Σb" ++ "c" ∧
      KeepsSigmas "a".toList "Σb".toList "c".toList ∧ (literal "Σb").evaluate e = .ok true := by
  intro e
  have searched : Searched e "aΣbc" := .inl (by decide +kernel)
  have keeps : KeepsSigmas "a".toList "Σb".toList "c".toList := by
    rintro (_ | ⟨c, _ | ⟨d, head⟩⟩) tail split
    · obtain rfl : ['b'] = tail := List.tail_eq_of_cons_eq split
      decide +kernel
    · simp at split
    · simp at split
  exact ⟨searched, by decide, keeps, evaluate_literal_of_keepsSigmas searched (by decide) keeps⟩

/-- A sigma at the end of a word is not found by a sigma alone. -/
theorem final_sigma_missed :
    let e := Exchange.new ⟨0, by decide⟩ "aΣ" none
    "aΣ" ∈ Field.requestValues e ∧ "Σ".toList <:+: "aΣ".toList ∧
      (literal "Σ").evaluate e = .ok false := by
  intro e
  refine ⟨by decide +kernel, by decide, by decide +kernel⟩

end Expression

end CapturedTraffic.Query
