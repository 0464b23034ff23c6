import CapturedTraffic.Proofs.Query.Meaning

/-!
# Chains

A chain of expressions under one connective, in whatever parentheses, is decided by its members from
left to right: the first fault among them is that of the chain, and without a fault the connective
is applied to all their values together. So parentheses never matter, and neither do the order and
the number of the members where none of them is at fault.
-/
namespace CapturedTraffic.Query

namespace Operator

/-- What a connective makes of any number of values. -/
def joins (op : Operator) (values : List Bool) : Bool :=
  if op = and then values.all id else values.any id

theorem joins_singleton (op : Operator) (b : Bool) : op.joins [b] = b := by
  rw [joins]
  split
  · exact Bool.and_true b
  · exact Bool.or_false b

theorem joins_append (op : Operator) (u v : List Bool) :
    op.joins (u ++ v) = if op = and then op.joins u && op.joins v else op.joins u || op.joins v := by
  simp only [joins]
  split
  · exact List.all_append
  · exact List.any_append

theorem joins_congr {u v : List Bool} (h : ∀ b, b ∈ u ↔ b ∈ v) (op : Operator) :
    op.joins u = op.joins v := by
  rw [joins, joins, Bool.eq_iff_iff]
  split
  · rw [List.all_eq_true, List.all_eq_true]
    exact forall_congr' fun b => by rw [h b]
  · rw [List.any_eq_true, List.any_eq_true]
    exact exists_congr fun b => by rw [h b]

end Operator

namespace Expression

/-- Whether an expression has a value and is true of an exchange. -/
def isTrue (e : Exchange) (x : Expression) : Bool := (x.evaluate e).toOption = some true

theorem evaluate_of_wellFormed {x : Expression} (hx : x.WellFormed) (e : Exchange) :
    x.evaluate e = .ok (x.isTrue e) := by
  obtain ⟨b, value, _⟩ := hx.evaluate e
  rw [isTrue, value]
  cases b <;> rfl

theorem mapM_evaluate_of_wellFormed {chain : List Expression} (h : ∀ x ∈ chain, x.WellFormed)
    (e : Exchange) : chain.mapM (evaluate e) = .ok (chain.map (isTrue e)) := by
  induction chain with
  | nil => rfl
  | cons x rest ih =>
    obtain ⟨hx, hrest⟩ := List.forall_mem_cons.1 h
    rw [List.mapM_cons, ih hrest, evaluate_of_wellFormed hx]
    rfl

end Expression

/-- A way to put a chain of expressions in parentheses. -/
inductive Bracketing
  | single (x : Expression)
  | pair (left right : Bracketing)

namespace Bracketing

/-- The expressions of the chain, from left to right. -/
def members : Bracketing → List Expression
  | single x => [x]
  | pair left right => left.members ++ right.members

/-- The chain under one operator, in these parentheses. -/
def joined (op : Operator) : Bracketing → Expression
  | single x => x
  | pair left right => .infixOp op (left.joined op) (right.joined op)

variable {op : Operator}

/-- The members are evaluated one after another, up to the first fault. -/
theorem evaluate_joined (hop : op ∈ Operator.connectives) (s : Bracketing) (e : Exchange) :
    (s.joined op).evaluate e = (s.members.mapM (Expression.evaluate e)).map op.joins := by
  induction s with
  | single x =>
    rw [joined, members, List.mapM_cons, List.mapM_nil]
    cases x.evaluate e with
    | error fault => rfl
    | ok b => exact congrArg Except.ok (op.joins_singleton b).symm
  | pair left right ihl ihr =>
    -- A fault of the left part comes first, and one of the right part only where the left has none.
    rw [joined, members, List.mapM_append]
    cases first : left.members.mapM (Expression.evaluate e) with
    | error fault =>
      rw [first] at ihl
      exact Expression.evaluate_left_fault hop ihl _
    | ok u =>
      rw [first] at ihl
      cases second : right.members.mapM (Expression.evaluate e) with
      | error fault =>
        rw [second] at ihr
        exact Expression.evaluate_right_fault hop ihl ihr
      | ok v =>
        rw [second] at ihr
        rw [Expression.evaluate_connective hop ihl ihr, ← Operator.joins_append]
        rfl

/--
Parentheses do not matter: chains of the same members have the same value or the same fault. Chains
of well-formed members have the same value whenever each member of either is one of the other,
whatever their order and however often they stand there.
-/
theorem evaluate_joined_congr (hop : op ∈ Operator.connectives) (s t : Bracketing) (e : Exchange) :
    (s.members = t.members → (s.joined op).evaluate e = (t.joined op).evaluate e) ∧
      ((∀ x ∈ s.members, x.WellFormed) → (∀ x, x ∈ s.members ↔ x ∈ t.members) →
        (s.joined op).evaluate e = (t.joined op).evaluate e) := by
  constructor
  · intro same
    rw [evaluate_joined hop, evaluate_joined hop, same]
  · intro sound same
    have soundOther : ∀ x ∈ t.members, x.WellFormed := fun x hx => sound x ((same x).2 hx)
    rw [evaluate_joined hop, evaluate_joined hop, Expression.mapM_evaluate_of_wellFormed sound,
      Expression.mapM_evaluate_of_wellFormed soundOther]
    refine congrArg Except.ok (Operator.joins_congr (fun b => ?_) op)
    rw [List.mem_map, List.mem_map]
    exact exists_congr fun x => by rw [same x]

/-- The first of two faults in both parentheses, and one false member in another order. -/
theorem evaluate_joined_congr_faults :
    let e : Exchange := .new ⟨0, by decide⟩ "GET" none
    let equal : Expression := .infixOp .equal (.literal "a") (.literal "a")
    let unequal : Expression := .infixOp .notEqual (.literal "a") (.literal "a")
    let faulty : Expression := .prefixOp .and equal
    let other : Expression := .prefixOp .or equal
    let s : Bracketing := .pair (.pair (.single equal) (.single faulty)) (.single other)
    let t : Bracketing := .pair (.single equal) (.pair (.single faulty) (.single other))
    let u : Bracketing := .pair (.single equal) (.single unequal)
    let v : Bracketing := .pair (.single unequal) (.pair (.single equal) (.single unequal))
    Operator.and ∈ Operator.connectives ∧ s.members = t.members ∧
      (s.joined .and).evaluate e = .error (.unsupportedOperator .and) ∧
      (t.joined .and).evaluate e = .error (.unsupportedOperator .and) ∧
      (∀ x ∈ u.members, x.WellFormed) ∧ (∀ x, x ∈ u.members ↔ x ∈ v.members) ∧
      (u.joined .and).evaluate e = .ok false ∧ (v.joined .and).evaluate e = .ok false := by
  intro e equal unequal faulty other s t u v
  have hop : Operator.and ∈ Operator.connectives := by decide
  have wellFormed : ∀ x ∈ u.members, x.WellFormed := by
    have left : equal.WellFormed := .comparison (by decide) "a" "a"
    have right : unequal.WellFormed := .comparison (by decide) "a" "a"
    exact List.forall_mem_cons.2 ⟨left, List.forall_mem_cons.2 ⟨right, by simp⟩⟩
  have sameMembers (x : Expression) : x ∈ u.members ↔ x ∈ v.members := by
    simp only [u, v, members, List.cons_append, List.nil_append, List.mem_cons, List.not_mem_nil]
    grind
  obtain ⟨brackets, _⟩ := evaluate_joined_congr hop s t e
  obtain ⟨_, order⟩ := evaluate_joined_congr hop u v e
  have fault : (s.joined .and).evaluate e = .error (.unsupportedOperator .and) := rfl
  have value : (u.joined .and).evaluate e = .ok false := rfl
  exact ⟨hop, rfl, fault, (brackets rfl).symm.trans fault, wellFormed, sameMembers, value,
    (order wellFormed sameMembers).symm.trans value⟩

end Bracketing

end CapturedTraffic.Query
