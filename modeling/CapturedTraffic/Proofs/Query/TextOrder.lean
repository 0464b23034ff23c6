import CapturedTraffic.Proofs.Query.Comparison
import CapturedTraffic.Proofs.Query.Complement
import CapturedTraffic.Proofs.Text.ByteOrder
import Mathlib.Logic.ExistsUnique

/-!
# The order of operands

Comparisons are one total order on the texts that their operands stand for. It is the order of a
dictionary, on code points and on bytes alike; no text is taken for a number.
-/
namespace CapturedTraffic

namespace Text

def codePoints (s : String) : List Nat := s.toList.map Char.toNat

theorem codePoints_lt_of_lt {s t : String} (h : s < t) : codePoints s < codePoints t :=
  List.map_lt (fun _ _ less => less) (String.lt_iff.1 h)

theorem sameOrder_codePoints (s t : String) : SameOrder s t (codePoints s) (codePoints t) :=
  .of_increasing (Std.lt_trichotomy s t) codePoints_lt_of_lt (congrArg codePoints)
    codePoints_lt_of_lt

end Text

namespace Query.Expression

open Text

/-- A test of what one literal stands for against what another does. -/
def comparison (op : Operator) (a b : String) : Expression := infixOp op (literal a) (literal b)

variable {e : Exchange} {a b c : String}

/-- A comparison has a value, and says yes exactly if the texts are related so. -/
theorem evaluate_comparison_eq_true_iff {op : Operator} (hop : op ∈ Operator.comparisons) :
    (comparison op a b).evaluate e = .ok true ↔
      op.Relates (Field.resolve e a) (Field.resolve e b) := by
  obtain ⟨r, evaluated, relates⟩ := evaluate_comparison hop e a b
  rw [comparison, evaluated, Except.ok.injEq, relates]

theorem evaluate_less_iff :
    (comparison .less a b).evaluate e = .ok true ↔ Field.resolve e a < Field.resolve e b :=
  evaluate_comparison_eq_true_iff (by decide)

theorem evaluate_equal_iff :
    (comparison .equal a b).evaluate e = .ok true ↔ Field.resolve e a = Field.resolve e b :=
  evaluate_comparison_eq_true_iff (by decide)

theorem evaluate_greater_iff :
    (comparison .greater a b).evaluate e = .ok true ↔ Field.resolve e b < Field.resolve e a :=
  evaluate_comparison_eq_true_iff (by decide)

/-- Of two texts either one comes first, or they are the same. -/
theorem existsUnique_comparison (e : Exchange) (a b : String) :
    ∃! op, op ∈ [Operator.less, .equal, .greater] ∧ (comparison op a b).evaluate e = .ok true := by
  have others {op : Operator} (h : op ∈ [Operator.less, .equal, .greater]) :
      op = .less ∨ op = .equal ∨ op = .greater := by simpa using h
  rcases Std.lt_trichotomy (Field.resolve e a) (Field.resolve e b) with less | same | greater
  · refine ⟨.less, ⟨by decide, evaluate_less_iff.2 less⟩, ?_⟩
    rintro op ⟨hop, yes⟩
    rcases others hop with rfl | rfl | rfl
    · rfl
    · exact absurd (evaluate_equal_iff.1 yes) (String.ne_of_lt less)
    · exact absurd (evaluate_greater_iff.1 yes) (String.lt_asymm less)
  · refine ⟨.equal, ⟨by decide, evaluate_equal_iff.2 same⟩, ?_⟩
    rintro op ⟨hop, yes⟩
    rcases others hop with rfl | rfl | rfl
    · exact absurd same (String.ne_of_lt (evaluate_less_iff.1 yes))
    · rfl
    · exact absurd same.symm (String.ne_of_lt (evaluate_greater_iff.1 yes))
  · refine ⟨.greater, ⟨by decide, evaluate_greater_iff.2 greater⟩, ?_⟩
    rintro op ⟨hop, yes⟩
    rcases others hop with rfl | rfl | rfl
    · exact absurd (evaluate_less_iff.1 yes) (String.lt_asymm greater)
    · exact absurd (evaluate_equal_iff.1 yes).symm (String.ne_of_lt greater)
    · rfl

/--
Any two operands compare in exactly one of three ways, and every comparison has the value of one of
these or the contrary of it. The order goes on from one operand to the next. It is that of a
dictionary, whether texts are taken as bytes or as code points: the first place where they differ
decides, whatever number of digits follows.
-/
theorem evaluate_comparison_ordered (e : Exchange) (a b c : String) :
    (∃! op, op ∈ [Operator.less, .equal, .greater] ∧
        (comparison op a b).evaluate e = .ok true) ∧
      (comparison .notEqual a b).evaluate e = ((comparison .equal a b).evaluate e).map (!·) ∧
      (comparison .greaterOrEqual a b).evaluate e = ((comparison .less a b).evaluate e).map (!·) ∧
      (comparison .lessOrEqual a b).evaluate e = ((comparison .greater a b).evaluate e).map (!·) ∧
      (∀ op ∈ Operator.comparisons, ∃ r, (comparison op a b).evaluate e = .ok r) ∧
      ((comparison .less a b).evaluate e = .ok true → (comparison .less b c).evaluate e = .ok true →
        (comparison .less a c).evaluate e = .ok true) ∧
      ((comparison .less a b).evaluate e = .ok true ↔
        Precedes (Utf8.encode (Field.resolve e a)) (Utf8.encode (Field.resolve e b))) ∧
      ((comparison .less a b).evaluate e = .ok true ↔
        Precedes (codePoints (Field.resolve e a)) (codePoints (Field.resolve e b))) := by
  refine ⟨existsUnique_comparison e a b, evaluate_opposite rfl e _ _, evaluate_opposite rfl e _ _,
    evaluate_opposite rfl e _ _, fun op hop => ?_, fun first second => ?_, ?_, ?_⟩
  · obtain ⟨r, evaluated, _⟩ := evaluate_comparison hop e a b
    exact ⟨r, evaluated⟩
  · exact evaluate_less_iff.2
      (String.lt_trans (evaluate_less_iff.1 first) (evaluate_less_iff.1 second))
  · rw [evaluate_less_iff, ← lt_iff_precedes, (Utf8.sameOrder_encode _ _).lt]
  · rw [evaluate_less_iff, ← lt_iff_precedes, (sameOrder_codePoints _ _).lt]

/-- A field that is the greater number, a literal, and a field that is a character of four bytes. -/
theorem evaluate_comparison_ordered_digits :
    let e : Exchange := (Exchange.new ⟨0, by decide⟩ "😀" none).withProto "10"
    let yes (a b : String) := (comparison .less a b).evaluate e = .ok true
    yes "req.proto" "9" ∧ yes "9" "req.method" ∧ yes "req.proto" "req.method" ∧
      codePoints (Field.resolve e "req.proto") = [49, 48] ∧ codePoints (Field.resolve e "9") = [57] ∧
      Precedes (codePoints (Field.resolve e "req.proto")) (codePoints (Field.resolve e "9")) ∧
      Utf8.encode (Field.resolve e "req.method") = [0xF0, 0x9F, 0x98, 0x80] ∧
      Precedes (Utf8.encode (Field.resolve e "9")) (Utf8.encode (Field.resolve e "req.method")) := by
  intro e yes
  have first : yes "req.proto" "9" := by decide +kernel
  have second : yes "9" "req.method" := by decide +kernel
  obtain ⟨_, _, _, _, _, third, _, points⟩ :=
    evaluate_comparison_ordered e "req.proto" "9" "req.method"
  obtain ⟨_, _, _, _, _, _, bytes, _⟩ := evaluate_comparison_ordered e "9" "req.method" "9"
  exact ⟨first, second, third first second, by decide +kernel, by decide +kernel, points.1 first,
    by decide +kernel, bytes.1 second⟩

end Query.Expression

end CapturedTraffic
