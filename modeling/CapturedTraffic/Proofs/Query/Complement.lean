import CapturedTraffic.Proofs.Query.Meaning

/-!
# Complements

A negation can be moved inwards: the connectives change places, and at the leaves each test has an
opposite. What comes out has the value of the negation, and its fault where there is one: the parts
keep their places, and opposite tests ask for the same operands.
-/
namespace CapturedTraffic.Query

namespace Operator

/-- The test that holds exactly where this one does not. -/
def opposite? : Operator → Option Operator
  | equal => some notEqual
  | notEqual => some equal
  | greater => some lessOrEqual
  | lessOrEqual => some greater
  | less => some greaterOrEqual
  | greaterOrEqual => some less
  | matching => some notMatching
  | notMatching => some matching
  | not | and | or => none

variable {op other : Operator}

/-- Opposite tests are of one sort and hold of the contrary. -/
theorem opposite?_cases (h : op.opposite? = some other) :
    (op ∈ comparisons ∧ other ∈ comparisons ∧ ∀ a b, other.Relates a b ↔ ¬ op.Relates a b) ∨
      (op ∈ patternTests ∧ other ∈ patternTests ∧ ∀ found, other.Asks found ↔ ¬ op.Asks found) := by
  cases op with
  | not | and | or => cases h
  | equal =>
    cases h
    exact .inl ⟨by decide, by decide, fun _ _ => Iff.rfl⟩
  | notEqual =>
    cases h
    exact .inl ⟨by decide, by decide, fun _ _ => Classical.not_not.symm⟩
  | greater | less =>
    cases h
    exact .inl ⟨by decide, by decide, fun _ _ => String.not_lt.symm⟩
  | greaterOrEqual | lessOrEqual =>
    cases h
    exact .inl ⟨by decide, by decide, fun _ _ => String.not_le.symm⟩
  | matching =>
    cases h
    exact .inr ⟨by decide, by decide, fun found => .of_eq (Bool.not_eq_true found).symm⟩
  | notMatching =>
    cases h
    exact .inr ⟨by decide, by decide, fun found => .of_eq (Bool.not_eq_false found).symm⟩

theorem not_patternTest_of_comparison (hop : op ∈ comparisons) : op ∉ patternTests :=
  (mem_not_comparisons.1 (List.mem_cons_of_mem not hop)).2

theorem opposite?_not_connectives (h : op.opposite? = some other) :
    op ∉ connectives ∧ other ∉ connectives := by
  rcases opposite?_cases h with ⟨hop, hother, _⟩ | ⟨hop, hother, _⟩
  · exact ⟨not_connective_of_comparison hop, not_connective_of_comparison hother⟩
  · exact ⟨not_connective_of_patternTest hop, not_connective_of_patternTest hother⟩

end Operator

namespace Expression

variable {op other : Operator} {e : Exchange}

/-- The negation of an expression, moved inwards as far as it goes. -/
def complement : Expression → Expression
  | prefixOp .not x => x
  | infixOp .and x y => infixOp .or x.complement y.complement
  | infixOp .or x y => infixOp .and x.complement y.complement
  | infixOp op x y =>
    match op.opposite? with
    | some other => infixOp other x y
    | none => negation (infixOp op x y)
  | x => negation x

theorem complement_prefixOp {op : Operator} (hop : op ≠ .not) (x : Expression) :
    (prefixOp op x).complement = negation (prefixOp op x) := by
  cases op with
  | not => exact absurd rfl hop
  | and | or | equal | notEqual | greater | less | greaterOrEqual | lessOrEqual | matching
  | notMatching => rfl

theorem complement_infixOp (hop : op ∉ Operator.connectives) (x y : Expression) :
    (infixOp op x y).complement =
      (op.opposite?.map fun other => infixOp other x y).getD (negation (infixOp op x y)) := by
  rw [Operator.mem_connectives, not_or] at hop
  rw [complement]
  · cases op.opposite? <;> rfl
  · exact hop.1
  · exact hop.2

theorem eq_not_of_iff {p q : Prop} {r s : Bool} (hr : r = true ↔ p) (hs : s = true ↔ q)
    (contrary : q ↔ ¬ p) : s = !r := by
  rw [Bool.eq_iff_iff, hs, contrary, ← hr, Bool.not_eq_true', Bool.not_eq_true]

theorem relate_opposite_comparison (hop : op ∈ Operator.comparisons)
    (hother : other ∈ Operator.comparisons)
    (contrary : ∀ a b, other.Relates a b ↔ ¬ op.Relates a b) (e : Exchange) (a : String)
    (y : Expression) : relate e other (literal a) y = (relate e op (literal a) y).map (!·) := by
  cases y with
  | prefixOp | infixOp | regex =>
    rw [relate_rightOperand (Operator.not_patternTest_of_comparison hop) (by simp [kind]),
      relate_rightOperand (Operator.not_patternTest_of_comparison hother) (by simp [kind])]
    rfl
  | literal b =>
    obtain ⟨r, hr, holds⟩ := compare_relates hop (Field.resolve e a) (Field.resolve e b)
    obtain ⟨s, hs, opposite⟩ := compare_relates hother (Field.resolve e a) (Field.resolve e b)
    rw [relate_comparison hop, relate_comparison hother, hr, hs,
      eq_not_of_iff holds opposite (contrary _ _)]
    rfl

theorem relate_opposite_patternTest (hop : op ∈ Operator.patternTests)
    (hother : other ∈ Operator.patternTests) (contrary : ∀ found, other.Asks found ↔ ¬ op.Asks found)
    (e : Exchange) (a : String) (y : Expression) :
    relate e other (literal a) y = (relate e op (literal a) y).map (!·) := by
  cases y with
  | prefixOp | infixOp | literal =>
    rw [relate_patternOperand hop (by simp [kind]), relate_patternOperand hother (by simp [kind])]
    rfl
  | regex p =>
    obtain ⟨r, hr, asks⟩ := relate_patternTest hop e a p
    obtain ⟨s, hs, opposite⟩ := relate_patternTest hother e a p
    rw [hr, hs, eq_not_of_iff asks opposite (contrary _)]
    rfl

/-- Opposite tests find the same fault in their operands. -/
theorem relate_opposite (h : op.opposite? = some other) (e : Exchange) (x y : Expression) :
    relate e other x y = (relate e op x y).map (!·) := by
  cases x with
  | prefixOp | infixOp | regex =>
    rw [relate_leftOperand (by simp [kind]), relate_leftOperand (by simp [kind])]
    rfl
  | literal a =>
    rcases Operator.opposite?_cases h with ⟨hop, hother, contrary⟩ | ⟨hop, hother, contrary⟩
    · exact relate_opposite_comparison hop hother contrary e a y
    · exact relate_opposite_patternTest hop hother contrary e a y

theorem evaluate_opposite (h : op.opposite? = some other) (e : Exchange) (x y : Expression) :
    (infixOp other x y).evaluate e = ((infixOp op x y).evaluate e).map (!·) := by
  obtain ⟨hop, hother⟩ := Operator.opposite?_not_connectives h
  rw [evaluate_infixOp hop, evaluate_infixOp hother, relate_opposite h]

/-- Under a negation the connectives take each other's place. -/
theorem evaluate_dual {x y x' y' : Expression} (hop : op ∈ Operator.connectives)
    (hother : other ∈ Operator.connectives) (changed : op ≠ other)
    (hx : x'.evaluate e = (x.evaluate e).map (!·)) (hy : y'.evaluate e = (y.evaluate e).map (!·)) :
    (infixOp other x' y').evaluate e = ((infixOp op x y).evaluate e).map (!·) := by
  cases left : x.evaluate e with
  | error fault =>
    rw [left] at hx
    rw [evaluate_left_fault hop left, evaluate_left_fault hother hx]
    rfl
  | ok a =>
    rw [left] at hx
    cases right : y.evaluate e with
    | error fault =>
      rw [right] at hy
      rw [evaluate_right_fault hop left right, evaluate_right_fault hother hx hy]
      rfl
    | ok b =>
      rw [right] at hy
      have value : (if other = .and then !a && !b else !a || !b) =
          !(if op = .and then a && b else a || b) := by
        rcases Operator.mem_connectives.1 hop with rfl | rfl
        · obtain rfl := (Operator.mem_connectives.1 hother).resolve_left changed.symm
          exact (Bool.not_and a b).symm
        · obtain rfl := (Operator.mem_connectives.1 hother).resolve_right changed.symm
          exact (Bool.not_or a b).symm
      rw [evaluate_connective hop left right, evaluate_connective hother hx hy, value]
      rfl

theorem evaluate_negation (x : Expression) (e : Exchange) :
    x.negation.evaluate e = (x.evaluate e).map (!·) := rfl

theorem evaluate_negation_negation (x : Expression) (e : Exchange) :
    x.negation.negation.evaluate e = x.evaluate e := by
  rw [evaluate_negation, evaluate_negation]
  cases x.evaluate e with
  | error fault => rfl
  | ok a => exact congrArg Except.ok (Bool.not_not a)

/-- The complement has the value of the negation, or its fault. -/
theorem evaluate_complement (x : Expression) (e : Exchange) :
    x.complement.evaluate e = x.negation.evaluate e := by
  induction x with
  | literal text => rfl
  | regex p => rfl
  | prefixOp op x =>
    by_cases hop : op = .not
    · subst hop
      exact (evaluate_negation_negation x e).symm
    · rw [complement_prefixOp hop]
  | infixOp op x y ihx ihy =>
    by_cases hop : op ∈ Operator.connectives
    · rcases Operator.mem_connectives.1 hop with rfl | rfl
      · exact evaluate_dual hop (by decide) (by decide) ihx ihy
      · exact evaluate_dual hop (by decide) (by decide) ihx ihy
    · rw [complement_infixOp hop]
      cases opposite : op.opposite? with
      | none => rfl
      | some other =>
        have single := (Operator.opposite?_not_connectives opposite).2
        rw [evaluate_negation, evaluate_infixOp hop, ← relate_opposite opposite]
        exact evaluate_infixOp single e x y

end Expression

end CapturedTraffic.Query
