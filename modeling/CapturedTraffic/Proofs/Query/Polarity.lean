import CapturedTraffic.Proofs.Noninterference
import CapturedTraffic.Proofs.Query.Meaning
import Mathlib.Algebra.Ring.Parity

/-!
# Responses and polarity

When the response arrives, the fields of the request stay as they are and further texts are there to
be searched. Tests that name no field of the response say the same as before, and a literal that is
a term of its own can only become true. So the response can only make an expression true whose terms
stand under an even number of negations, and can only make one false whose terms stand under an odd
number.
-/
namespace CapturedTraffic.Query

variable {e : Exchange}

namespace Expression

/-- For each literal that is a term of its own, the number of negations that it stands under. -/
def negationsOver : Expression → List Nat
  | prefixOp _ x => x.negationsOver.map (· + 1)
  | infixOp op x y =>
    if op ∈ Operator.connectives then x.negationsOver ++ y.negationsOver else []
  | literal _ => [0]
  | regex _ => []

def literal? : Expression → Option String
  | literal text => some text
  | _ => none

/-- The literals that are operands of a comparison or a pattern test. -/
def operands : Expression → List String
  | prefixOp _ x => x.operands
  | infixOp op x y =>
    if op ∈ Operator.connectives then x.operands ++ y.operands
    else x.literal?.toList ++ y.literal?.toList
  | literal _ => []
  | regex _ => []

end Expression

namespace Field

theorem request_withResponse (e : Exchange) (r : Response) :
    ∀ field ∈ request, field.2 (e.withResponse r) = field.2 e := by
  simp only [request, List.forall_mem_cons]
  exact ⟨rfl, rfl, rfl, rfl, rfl, rfl, by simp⟩

theorem resolve_withResponse (e : Exchange) (r : Response) {operand : String}
    (other : operand ∉ responseNames) :
    resolve (e.withResponse r) operand = resolve e operand := by
  have value : requestValue? (e.withResponse r) operand = requestValue? e operand :=
    find?_map_congr (request_withResponse e r) operand
  rw [resolve, resolve, value, if_neg other, if_neg other]

end Field

namespace Expression

variable {x y : Expression} {op : Operator}

/-- Without a response only the fields of the request are searched, and these stay. -/
theorem holds_literal_withResponse (awaits : e.response = none) (r : Response) {text : String}
    (holds : (literal text).Holds e) : (literal text).Holds (e.withResponse r) := by
  rcases holds with ⟨field, mem, mentions⟩ | ⟨_, given, _⟩
  · refine .inl ⟨field, mem, ?_⟩
    rwa [Field.request_withResponse e r field mem]
  · rw [awaits] at given
    cases given

theorem tests_withResponse (r : Response) {op : Operator}
    (plain : ∀ a ∈ x.literal?.toList ++ y.literal?.toList, a ∉ Field.responseNames) :
    Tests (e.withResponse r) op x y ↔ Tests e op x y := by
  rw [List.forall_mem_append] at plain
  obtain ⟨hx, hy⟩ := plain
  cases x with
  | prefixOp | infixOp | regex => rfl
  | literal a =>
    have left := Field.resolve_withResponse e r (hx a (by simp [literal?]))
    cases y with
    | prefixOp | infixOp => rfl
    | literal b =>
      have right := Field.resolve_withResponse e r (hy b (by simp [literal?]))
      rw [Tests, Tests, left, right]
    | regex p => rw [Tests, Tests, left]

theorem holds_test_withResponse (r : Response) (hop : op ∉ Operator.connectives)
    (plain : ∀ a ∈ (infixOp op x y).operands, a ∉ Field.responseNames) :
    (infixOp op x y).Holds (e.withResponse r) ↔ (infixOp op x y).Holds e := by
  rw [operands, if_neg hop] at plain
  rw [holds_infixOp hop, holds_infixOp hop, tests_withResponse r plain]

/-- What the response can do to an expression of each polarity. -/
structure Shifts (e d : Exchange) (x : Expression) : Prop where
  upwards : (∀ n ∈ x.negationsOver, Even n) → x.Holds e → x.Holds d
  downwards : (∀ n ∈ x.negationsOver, Odd n) → x.Holds d → x.Holds e

theorem Shifts.negation {d : Exchange} (hx : x.Shifts e d) : x.negation.Shifts e d := by
  have under : x.negation.negationsOver = x.negationsOver.map (· + 1) := rfl
  constructor
  · intro even holds later
    rw [under, List.forall_mem_map] at even
    have odd : ∀ n ∈ x.negationsOver, Odd n := fun n hn =>
      Nat.not_even_iff_odd.1 (Nat.even_add_one.1 (even n hn))
    exact holds (hx.downwards odd later)
  · intro odd later holds
    rw [under, List.forall_mem_map] at odd
    have even : ∀ n ∈ x.negationsOver, Even n := fun n hn =>
      Nat.not_odd_iff_even.1 (Nat.odd_add_one.1 (odd n hn))
    exact later (hx.upwards even holds)

theorem Shifts.connective {d : Exchange} (hop : op ∈ Operator.connectives) (hx : x.Shifts e d)
    (hy : y.Shifts e d) : (infixOp op x y).Shifts e d := by
  have under : (infixOp op x y).negationsOver = x.negationsOver ++ y.negationsOver := if_pos hop
  constructor
  · intro even
    rw [under, List.forall_mem_append] at even
    rcases Operator.mem_connectives.1 hop with rfl | rfl
    · exact And.imp (hx.upwards even.1) (hy.upwards even.2)
    · exact Or.imp (hx.upwards even.1) (hy.upwards even.2)
  · intro odd
    rw [under, List.forall_mem_append] at odd
    rcases Operator.mem_connectives.1 hop with rfl | rfl
    · exact And.imp (hx.downwards odd.1) (hy.downwards odd.2)
    · exact Or.imp (hx.downwards odd.1) (hy.downwards odd.2)

theorem Shifts.of_iff {d : Exchange} (same : x.Holds d ↔ x.Holds e) : x.Shifts e d :=
  ⟨fun _ => same.2, fun _ => same.1⟩

theorem WellFormed.shifts (hx : x.WellFormed) (awaits : e.response = none) (r : Response)
    (plain : ∀ a ∈ x.operands, a ∉ Field.responseNames) : x.Shifts e (e.withResponse r) := by
  induction hx with
  | literal text =>
    refine ⟨fun _ => holds_literal_withResponse awaits r, fun odd => ?_⟩
    exact absurd (odd 0 (List.mem_singleton_self 0)) (by decide)
  | negation _ ih => exact (ih plain).negation
  | connective hop _ _ ihx ihy =>
    rw [operands, if_pos hop, List.forall_mem_append] at plain
    exact .connective hop (ihx plain.1) (ihy plain.2)
  | patternTest hop a p =>
    exact .of_iff (holds_test_withResponse r (Operator.not_connective_of_patternTest hop) plain)
  | comparison hop a b =>
    exact .of_iff (holds_test_withResponse r (Operator.not_connective_of_comparison hop) plain)

/--
The response does not take an exchange out of what an expression finds, if no operand is the name of
a field of the response and each literal that is a term of its own stands under an even number of
negations.
-/
theorem evaluate_withResponse (awaits : e.response = none)
    (plain : ∀ a ∈ x.operands, a ∉ Field.responseNames) (even : ∀ n ∈ x.negationsOver, Even n)
    (found : x.evaluate e = .ok true) (r : Response) :
    x.evaluate (e.withResponse r) = .ok true := by
  obtain ⟨wellFormed, value⟩ := evaluate_eq_ok_iff.1 found
  have holds := (wellFormed.shifts awaits r plain).upwards even (value.1 rfl)
  exact evaluate_eq_ok_iff.2 ⟨wellFormed, iff_of_true rfl holds⟩

/--
One literal stands under two negations and one, which only the response mentions, under none. A name
that is no field of the response is a plain operand, whatever it begins with.
-/
theorem evaluate_withResponse_nested :
    let e := Exchange.new ⟨0, by decide⟩ "GET" none
    let r := Response.new 404 "Not Found"
    let other : Expression := .infixOp .equal (.literal "req.method") (.literal "res.none")
    let x := conjunction (disjunction (literal "404") (literal "get").negation.negation)
      other.negation
    e.response = none ∧ x.operands = ["req.method", "res.none"] ∧
      (∀ a ∈ x.operands, a ∉ Field.responseNames) ∧ x.negationsOver = [0, 2] ∧
      (∀ n ∈ x.negationsOver, Even n) ∧ x.evaluate e = .ok true ∧
      x.evaluate (e.withResponse r) = .ok true := by
  intro e r other x
  have plain : ∀ a ∈ x.operands, a ∉ Field.responseNames := by decide
  have even : ∀ n ∈ x.negationsOver, Even n := by decide
  have found : x.evaluate e = .ok true := by decide +kernel
  exact ⟨rfl, by decide, plain, by decide, even, found, evaluate_withResponse rfl plain even found r⟩

/-- Under one negation, a literal that the response mentions turns the answer. -/
example :
    let e := Exchange.new ⟨0, by decide⟩ "GET" none
    let x := (literal "404").negation
    x.evaluate e = .ok true ∧ x.evaluate (e.withResponse (.new 404 "Not Found")) = .ok false := by
  decide +kernel

end Expression

end CapturedTraffic.Query
