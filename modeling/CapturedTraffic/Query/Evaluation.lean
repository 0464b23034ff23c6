import CapturedTraffic.Query.Expression
import CapturedTraffic.Query.Field
import CapturedTraffic.Text.Occurrence
import CapturedTraffic.Unicode.Lowercase

/-!
# Evaluation

Deciding a search expression for an exchange. Both operands of a conjunction or a disjunction are
evaluated, so that a fault in either is reported; comparisons are made on texts, in the order of
their characters; a literal that stands alone is sought in all fields, whatever its case.
-/
namespace CapturedTraffic.Query

open Text Unicode

/-- What an operator asks of an operand. -/
inductive Requirement
  | leftLiteral
  | rightLiteral
  | rightRegex
  deriving DecidableEq, Repr

def Requirement.text : Requirement → String
  | leftLiteral => "left operand must be a string literal"
  | rightLiteral => "right operand must be a string literal"
  | rightRegex => "right operand must be a regular expression"

/-- Why an expression has no value. -/
inductive Fault
  | unsupportedKind (kind : Kind)
  | unsupportedOperator (op : Operator)
  | wrongOperand (requirement : Requirement) (found : Kind)
  deriving DecidableEq, Repr

def Fault.message : Fault → String
  | unsupportedKind kind => "expression type (" ++ kind.text ++ ") not supported"
  | unsupportedOperator op => "operator " ++ op.sign ++ " is not supported"
  | wrongOperand requirement found => requirement.text ++ ", found " ++ found.text

/-- Whether a text occurs in another, both in lower case. -/
def foundIn (needle text : String) : Bool :=
  occursIn (lowercase needle).toList (lowercase text).toList

/-- Whether some field holds the text. -/
def foundInFields (e : Exchange) (needle : String) : Bool :=
  (Field.requestValues e).any (foundIn needle) ||
    e.response.any fun r => (Field.responseValues r).any (foundIn needle)

def compare (op : Operator) (a b : String) : Except Fault Bool :=
  match op with
  | .equal => .ok (a = b)
  | .notEqual => .ok (a ≠ b)
  | .greater => .ok (b < a)
  | .less => .ok (a < b)
  | .greaterOrEqual => .ok (b ≤ a)
  | .lessOrEqual => .ok (a ≤ b)
  | op => .error (.unsupportedOperator op)

/-- Decides a comparison or a pattern test between two operands. -/
def relate (e : Exchange) (op : Operator) (left right : Expression) : Except Fault Bool :=
  match left with
  | .literal a =>
    if op = .matching ∨ op = .notMatching then
      match right with
      | .regex p => .ok ((p.pattern.matchesText (Field.resolve e a)) == (op == .matching))
      | _ => .error (.wrongOperand .rightRegex right.kind)
    else
      match right with
      | .literal b => compare op (Field.resolve e a) (Field.resolve e b)
      | _ => .error (.wrongOperand .rightLiteral right.kind)
  | _ => .error (.wrongOperand .leftLiteral left.kind)

def Expression.evaluate (e : Exchange) : Expression → Except Fault Bool
  | .prefixOp op right =>
    if op = .not then (right.evaluate e).map (!·) else .error (.unsupportedOperator op)
  | .infixOp op left right =>
    if op = .and then do
      let a ← left.evaluate e
      let b ← right.evaluate e
      .ok (a && b)
    else if op = .or then do
      let a ← left.evaluate e
      let b ← right.evaluate e
      .ok (a || b)
    else relate e op left right
  | .literal text => .ok (foundInFields e text)
  | .regex _ => .error (.unsupportedKind .regex)

end CapturedTraffic.Query
