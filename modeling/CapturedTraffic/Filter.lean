import CapturedTraffic.Query.Evaluation
import CapturedTraffic.Scope.Basic

/-!
# Filters

A filter keeps the exchanges that are in scope, where that is asked for, and of which its expression
holds, where it has one. Exchanges out of scope are dropped before the expression is evaluated.
-/
namespace CapturedTraffic

structure Filter where
  onlyInScope : Bool
  expression : Option Query.Expression
  deriving DecidableEq

namespace Filter

/-- The filter that keeps everything. -/
def empty : Filter := ⟨false, none⟩

def accepts (f : Filter) (scope : Scope) (e : Exchange) : Except Query.Fault Bool :=
  if f.onlyInScope && !scope.contains e then .ok false
  else
    match f.expression with
    | none => .ok true
    | some expression => expression.evaluate e

/-- The exchanges kept, in their order; the first fault ends the run. -/
def select (f : Filter) (scope : Scope) : List Exchange → Except Query.Fault (List Exchange)
  | [] => .ok []
  | e :: rest => do
    let keep ← f.accepts scope e
    let kept ← f.select scope rest
    .ok (if keep then e :: kept else kept)

end Filter

end CapturedTraffic
