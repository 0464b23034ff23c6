import CapturedTraffic.Query.Evaluation

/-!
# The meaning of expressions

Which expressions are well formed, when a well-formed expression holds of an exchange, and which
fault is the first one of an expression that is not well formed. None of this mentions evaluation,
and the faults do not mention exchanges. Evaluation is then shown to answer with the meaning where
there is one, and with the first fault otherwise.
-/
namespace CapturedTraffic.Query

open Text Unicode

namespace Operator

def connectives : List Operator := [and, or]

def patternTests : List Operator := [matching, notMatching]

def comparisons : List Operator := [equal, notEqual, greater, less, greaterOrEqual, lessOrEqual]

theorem mem_connectives {op : Operator} : op ∈ connectives ↔ op = and ∨ op = or := by
  simp [connectives]

theorem mem_patternTests {op : Operator} :
    op ∈ patternTests ↔ op = matching ∨ op = notMatching := by
  simp [patternTests]

theorem not_connective_of_patternTest {op : Operator} (hop : op ∈ patternTests) :
    op ∉ connectives := by
  revert hop; cases op <;> decide

theorem not_connective_of_comparison {op : Operator} (hop : op ∈ comparisons) :
    op ∉ connectives := by
  revert hop; cases op <;> decide

/-- The operators that ask for a literal on their right, those that are refused after it included. -/
theorem mem_not_comparisons {op : Operator} :
    op ∈ not :: comparisons ↔ op ∉ connectives ∧ op ∉ patternTests := by
  cases op <;> decide

/-- The relation of texts that a comparison stands for. -/
def Relates : Operator → String → String → Prop
  | equal, a, b => a = b
  | notEqual, a, b => a ≠ b
  | greater, a, b => b < a
  | less, a, b => a < b
  | greaterOrEqual, a, b => b ≤ a
  | lessOrEqual, a, b => a ≤ b
  | _, _, _ => False

/-- What a pattern test asks of the answer of its pattern. -/
def Asks : Operator → Bool → Prop
  | matching, found => found = true
  | notMatching, found => found = false
  | _, _ => False

end Operator

/-- A text stands in a value, both in lower case. -/
def Mentions (value text : String) : Prop := (lowercase text).toList <:+: (lowercase value).toList

namespace Expression

inductive WellFormed : Expression → Prop
  | literal (text : String) : WellFormed (.literal text)
  | negation {x : Expression} (hx : WellFormed x) : WellFormed (.prefixOp .not x)
  | connective {op : Operator} {x y : Expression} (hop : op ∈ Operator.connectives)
      (hx : WellFormed x) (hy : WellFormed y) : WellFormed (.infixOp op x y)
  | patternTest {op : Operator} (hop : op ∈ Operator.patternTests) (a : String)
      (p : SearchPattern) : WellFormed (.infixOp op (.literal a) (.regex p))
  | comparison {op : Operator} (hop : op ∈ Operator.comparisons) (a b : String) :
      WellFormed (.infixOp op (.literal a) (.literal b))

/-- What a test of one operand against another says of an exchange. Texts are resolved. -/
def Tests (e : Exchange) (op : Operator) : Expression → Expression → Prop
  | .literal a, .literal b => op.Relates (Field.resolve e a) (Field.resolve e b)
  | .literal a, .regex p => op.Asks (p.pattern.matchesText (Field.resolve e a))
  | _, _ => False

/-- What a well-formed expression says of an exchange. -/
def Holds (e : Exchange) : Expression → Prop
  | .prefixOp _ x => ¬ x.Holds e
  | .infixOp .and x y => x.Holds e ∧ y.Holds e
  | .infixOp .or x y => x.Holds e ∨ y.Holds e
  | .infixOp op x y => Tests e op x y
  | .literal text =>
    (∃ field ∈ Field.request, Mentions (field.2 e) text) ∨
      ∃ r, e.response = some r ∧ ∃ field ∈ Field.response, Mentions (field.2 r) text
  | .regex _ => False

theorem holds_infixOp {op : Operator} (hop : op ∉ Operator.connectives) (e : Exchange)
    (x y : Expression) : (infixOp op x y).Holds e ↔ Tests e op x y := by
  rw [Operator.mem_connectives, not_or] at hop
  rw [Holds]
  · exact hop.1
  · exact hop.2

/--
The first fault from left to right. An operator in front other than the negation is a fault
whatever it stands before; at a test the left operand comes before the right one, and both before
the operator.
-/
inductive FirstFault : Expression → Fault → Prop
  | regex (p : SearchPattern) : FirstFault (.regex p) (.unsupportedKind .regex)
  | negation {x : Expression} {fault : Fault} (hx : FirstFault x fault) :
      FirstFault (.prefixOp .not x) fault
  | prefixOp {op : Operator} (hop : op ≠ .not) (x : Expression) :
      FirstFault (.prefixOp op x) (.unsupportedOperator op)
  | left {op : Operator} {x : Expression} {fault : Fault} (hop : op ∈ Operator.connectives)
      (hx : FirstFault x fault) (y : Expression) : FirstFault (.infixOp op x y) fault
  | right {op : Operator} {x y : Expression} {fault : Fault} (hop : op ∈ Operator.connectives)
      (hx : WellFormed x) (hy : FirstFault y fault) : FirstFault (.infixOp op x y) fault
  | leftOperand {op : Operator} {x : Expression} (hop : op ∉ Operator.connectives)
      (hx : x.kind ≠ .literal) (y : Expression) :
      FirstFault (.infixOp op x y) (.wrongOperand .leftLiteral x.kind)
  | patternOperand {op : Operator} {y : Expression} (hop : op ∈ Operator.patternTests)
      (a : String) (hy : y.kind ≠ .regex) :
      FirstFault (.infixOp op (.literal a) y) (.wrongOperand .rightRegex y.kind)
  | rightOperand {op : Operator} {y : Expression} (hop : op ∈ .not :: Operator.comparisons)
      (a : String) (hy : y.kind ≠ .literal) :
      FirstFault (.infixOp op (.literal a) y) (.wrongOperand .rightLiteral y.kind)
  | infixNot (a b : String) :
      FirstFault (.infixOp .not (.literal a) (.literal b)) (.unsupportedOperator .not)

theorem foundIn_iff {needle text : String} :
    foundIn needle text = true ↔ Mentions text needle := occursIn_iff

theorem any_map_foundIn {α : Type} (fields : List (String × (α → String))) (x : α) (text : String) :
    ((fields.map fun field => field.2 x).any (foundIn text)) = true ↔
      ∃ field ∈ fields, Mentions (field.2 x) text := by
  simp only [List.any_map, List.any_eq_true, Function.comp_apply, foundIn_iff]

theorem foundInFields_iff {e : Exchange} {text : String} :
    foundInFields e text = true ↔ Holds e (.literal text) := by
  rw [foundInFields, Bool.or_eq_true, Option.any_eq_true]
  simp only [Field.requestValues, Field.responseValues, any_map_foundIn, Holds]

theorem compare_relates {op : Operator} (hop : op ∈ Operator.comparisons) (a b : String) :
    ∃ r, compare op a b = .ok r ∧ (r = true ↔ op.Relates a b) := by
  cases op with
  | not | and | or | matching | notMatching => simp [Operator.comparisons] at hop
  | equal | notEqual | greater | less | greaterOrEqual | lessOrEqual =>
    exact ⟨_, rfl, decide_eq_true_iff⟩

theorem relate_comparison {op : Operator} (hop : op ∈ Operator.comparisons) (e : Exchange)
    (a b : String) :
    relate e op (.literal a) (.literal b) = compare op (Field.resolve e a) (Field.resolve e b) := by
  cases op with
  | not | and | or | matching | notMatching => simp [Operator.comparisons] at hop
  | equal | notEqual | greater | less | greaterOrEqual | lessOrEqual => rfl

theorem relate_patternTest {op : Operator} (hop : op ∈ Operator.patternTests) (e : Exchange)
    (a : String) (p : SearchPattern) :
    ∃ r, relate e op (.literal a) (.regex p) = .ok r ∧
      (r = true ↔ op.Asks (p.pattern.matchesText (Field.resolve e a))) := by
  rcases Operator.mem_patternTests.1 hop with rfl | rfl
  all_goals exact ⟨_, rfl, beq_iff_eq⟩

/-- An infix operator that is no connective is decided by its operands alone. -/
theorem evaluate_infixOp {op : Operator} (hop : op ∉ Operator.connectives) (e : Exchange)
    (x y : Expression) : (infixOp op x y).evaluate e = relate e op x y := by
  rw [Operator.mem_connectives, not_or] at hop
  simp only [evaluate, if_neg hop.1, if_neg hop.2]

theorem evaluate_comparison {op : Operator} (hop : op ∈ Operator.comparisons) (e : Exchange)
    (a b : String) : ∃ r, (infixOp op (literal a) (literal b)).evaluate e = .ok r ∧
      (r = true ↔ op.Relates (Field.resolve e a) (Field.resolve e b)) := by
  obtain ⟨r, hr, relates⟩ := compare_relates hop (Field.resolve e a) (Field.resolve e b)
  refine ⟨r, ?_, relates⟩
  rw [evaluate_infixOp (Operator.not_connective_of_comparison hop), relate_comparison hop, hr]

theorem evaluate_connective {op : Operator} (hop : op ∈ Operator.connectives) {e : Exchange}
    {x y : Expression} {a b : Bool} (hx : x.evaluate e = .ok a) (hy : y.evaluate e = .ok b) :
    (infixOp op x y).evaluate e = .ok (if op = .and then a && b else a || b) := by
  rcases Operator.mem_connectives.1 hop with rfl | rfl
  all_goals simp only [evaluate, hx, hy]; rfl

theorem evaluate_left_fault {op : Operator} (hop : op ∈ Operator.connectives) {e : Exchange}
    {x : Expression} {fault : Fault} (hx : x.evaluate e = .error fault) (y : Expression) :
    (infixOp op x y).evaluate e = .error fault := by
  rcases Operator.mem_connectives.1 hop with rfl | rfl
  all_goals simp only [evaluate, hx]; rfl

theorem evaluate_right_fault {op : Operator} (hop : op ∈ Operator.connectives) {e : Exchange}
    {x y : Expression} {a : Bool} {fault : Fault} (hx : x.evaluate e = .ok a)
    (hy : y.evaluate e = .error fault) : (infixOp op x y).evaluate e = .error fault := by
  rcases Operator.mem_connectives.1 hop with rfl | rfl
  all_goals simp only [evaluate, hx, hy]; rfl

/-- A well-formed expression has a value for every exchange, and the value is what it says. -/
theorem WellFormed.evaluate {x : Expression} (hx : x.WellFormed) (e : Exchange) :
    ∃ b, x.evaluate e = .ok b ∧ (b = true ↔ x.Holds e) := by
  induction hx with
  | literal text => exact ⟨_, rfl, foundInFields_iff⟩
  | negation _ ih =>
    obtain ⟨b, hb, holds⟩ := ih
    refine ⟨!b, by simp [Expression.evaluate, hb, Except.map], ?_⟩
    rw [Holds, ← holds, Bool.not_eq_true, Bool.not_eq_true']
  | connective hop _ _ ihx ihy =>
    obtain ⟨a, ha, holdsx⟩ := ihx
    obtain ⟨b, hb, holdsy⟩ := ihy
    refine ⟨_, evaluate_connective hop ha hb, ?_⟩
    rcases Operator.mem_connectives.1 hop with rfl | rfl
    · rw [if_pos rfl, Holds, ← holdsx, ← holdsy, Bool.and_eq_true]
    · rw [if_neg (by decide), Holds, ← holdsx, ← holdsy, Bool.or_eq_true]
  | patternTest hop a p =>
    obtain ⟨b, hb, asks⟩ := relate_patternTest hop e a p
    have single := Operator.not_connective_of_patternTest hop
    exact ⟨b, by rw [evaluate_infixOp single, hb], by rw [holds_infixOp single]; exact asks⟩
  | comparison hop a b =>
    obtain ⟨r, hr, relates⟩ := compare_relates hop (Field.resolve e a) (Field.resolve e b)
    have single := Operator.not_connective_of_comparison hop
    exact ⟨r, by rw [evaluate_infixOp single, relate_comparison hop, hr],
      by rw [holds_infixOp single]; exact relates⟩

/-- What is not a literal is no left operand of a test. -/
theorem relate_leftOperand {x : Expression} (hx : x.kind ≠ .literal) (e : Exchange)
    (op : Operator) (y : Expression) :
    relate e op x y = .error (.wrongOperand .leftLiteral x.kind) := by
  cases x with
  | literal a => exact absurd rfl hx
  | prefixOp | infixOp | regex => rfl

theorem relate_patternOperand {op : Operator} (hop : op ∈ Operator.patternTests) {y : Expression}
    (hy : y.kind ≠ .regex) (e : Exchange) (a : String) :
    relate e op (.literal a) y = .error (.wrongOperand .rightRegex y.kind) := by
  cases y with
  | regex p => exact absurd rfl hy
  | prefixOp | infixOp | literal => exact if_pos (Operator.mem_patternTests.1 hop)

theorem relate_rightOperand {op : Operator} (hop : op ∉ Operator.patternTests) {y : Expression}
    (hy : y.kind ≠ .literal) (e : Exchange) (a : String) :
    relate e op (.literal a) y = .error (.wrongOperand .rightLiteral y.kind) := by
  cases y with
  | literal b => exact absurd rfl hy
  | prefixOp | infixOp | regex => exact if_neg fun h => hop (Operator.mem_patternTests.2 h)

/-- The first fault is the answer for every exchange. -/
theorem FirstFault.evaluate {x : Expression} {fault : Fault} (hx : x.FirstFault fault)
    (e : Exchange) : x.evaluate e = .error fault := by
  induction hx with
  | regex p => rfl
  | negation _ ih => simp [Expression.evaluate, ih, Except.map]
  | prefixOp hop x => rw [Expression.evaluate, if_neg hop]
  | left hop _ y ih => exact evaluate_left_fault hop ih y
  | right hop hx _ ih =>
    obtain ⟨a, ha, _⟩ := hx.evaluate e
    exact evaluate_right_fault hop ha ih
  | leftOperand hop hx y => rw [evaluate_infixOp hop, relate_leftOperand hx]
  | patternOperand hop a hy =>
    rw [evaluate_infixOp (Operator.not_connective_of_patternTest hop), relate_patternOperand hop hy]
  | rightOperand hop a hy =>
    obtain ⟨single, literal⟩ := Operator.mem_not_comparisons.1 hop
    rw [evaluate_infixOp single, relate_rightOperand literal hy]
  | infixNot a b => rfl

/-- A test that is not well formed has a first fault of its own. -/
theorem test_wellFormed_or_firstFault {op : Operator} (hop : op ∉ Operator.connectives)
    (x y : Expression) :
    (infixOp op x y).WellFormed ∨ ∃ fault, (infixOp op x y).FirstFault fault := by
  cases x with
  | prefixOp | infixOp | regex => exact .inr ⟨_, .leftOperand hop (by simp [kind]) y⟩
  | literal a =>
    by_cases pattern : op ∈ Operator.patternTests
    · cases y with
      | regex p => exact .inl (.patternTest pattern a p)
      | prefixOp | infixOp | literal => exact .inr ⟨_, .patternOperand pattern a (by simp [kind])⟩
    · have second := Operator.mem_not_comparisons.2 ⟨hop, pattern⟩
      cases y with
      | prefixOp | infixOp | regex => exact .inr ⟨_, .rightOperand second a (by simp [kind])⟩
      | literal b =>
        rcases List.mem_cons.1 second with rfl | comparison
        · exact .inr ⟨_, .infixNot a b⟩
        · exact .inl (.comparison comparison a b)

/-- Every expression is well formed or has a first fault. -/
theorem wellFormed_or_firstFault (x : Expression) :
    x.WellFormed ∨ ∃ fault, x.FirstFault fault := by
  induction x with
  | literal text => exact .inl (.literal text)
  | regex p => exact .inr ⟨_, .regex p⟩
  | prefixOp op x ih =>
    by_cases hop : op = .not
    · subst hop
      exact ih.imp .negation fun ⟨fault, hx⟩ => ⟨fault, .negation hx⟩
    · exact .inr ⟨_, .prefixOp hop x⟩
  | infixOp op x y ihx ihy =>
    by_cases hop : op ∈ Operator.connectives
    · rcases ihx with hx | ⟨fault, hx⟩
      · exact ihy.imp (.connective hop hx) fun ⟨fault, hy⟩ => ⟨fault, .right hop hx hy⟩
      · exact .inr ⟨fault, .left hop hx y⟩
    · exact test_wellFormed_or_firstFault hop x y

theorem FirstFault.unique {x : Expression} {fault other : Fault} (hx : x.FirstFault fault)
    (hother : x.FirstFault other) : other = fault := by
  have e : Exchange := .new ⟨0, by decide⟩ "" none
  have same := (hother.evaluate e).symm.trans (hx.evaluate e)
  exact Except.error.inj same

theorem WellFormed.not_firstFault {x : Expression} (hx : x.WellFormed) (fault : Fault) :
    ¬ x.FirstFault fault := by
  intro h
  have e : Exchange := .new ⟨0, by decide⟩ "" none
  obtain ⟨b, hb, _⟩ := hx.evaluate e
  have := h.evaluate e
  rw [hb] at this
  cases this

theorem evaluate_eq_ok_iff {x : Expression} {e : Exchange} {b : Bool} :
    x.evaluate e = .ok b ↔ x.WellFormed ∧ (b = true ↔ x.Holds e) := by
  constructor
  · intro h
    rcases wellFormed_or_firstFault x with hx | ⟨fault, hx⟩
    · obtain ⟨c, hc, holds⟩ := hx.evaluate e
      rw [h] at hc
      cases hc
      exact ⟨hx, holds⟩
    · rw [hx.evaluate e] at h
      cases h
  · rintro ⟨hx, holds⟩
    obtain ⟨c, hc, value⟩ := hx.evaluate e
    rw [hc, Bool.eq_iff_iff.2 (value.trans holds.symm)]

theorem evaluate_eq_error_iff {x : Expression} {e : Exchange} {fault : Fault} :
    x.evaluate e = .error fault ↔ x.FirstFault fault := by
  constructor
  · intro h
    rcases wellFormed_or_firstFault x with hx | ⟨other, hx⟩
    · obtain ⟨b, hb, _⟩ := hx.evaluate e
      rw [hb] at h
      cases h
    · have same := (hx.evaluate e).symm.trans h
      rwa [Except.error.inj same] at hx
  · intro hx
    exact hx.evaluate e

/--
Evaluation has a value exactly for well-formed expressions, and then the one that the expression
says; all others are answered with their first fault, of which there is one, whatever the exchange.
-/
theorem evaluate_characterised (x : Expression) :
    (∀ e b, x.evaluate e = .ok b ↔ x.WellFormed ∧ (b = true ↔ x.Holds e)) ∧
      (∀ e fault, x.evaluate e = .error fault ↔ x.FirstFault fault) ∧
      (¬ x.WellFormed ↔
        ∃ fault, x.FirstFault fault ∧ ∀ other, x.FirstFault other → other = fault) := by
  refine ⟨fun _ _ => evaluate_eq_ok_iff, fun _ _ => evaluate_eq_error_iff, ?_, ?_⟩
  · intro hx
    obtain ⟨fault, first⟩ := (wellFormed_or_firstFault x).resolve_left hx
    exact ⟨fault, first, fun _ => first.unique⟩
  · rintro ⟨fault, first, _⟩ hx
    exact hx.not_firstFault fault first

end Expression

end CapturedTraffic.Query
