import CapturedTraffic.Scope.Rule

/-!
# Scopes

A scope is a list of rules. An exchange is in scope if some rule holds of it, and the first such
rule is the one reported.
-/
namespace CapturedTraffic

structure Scope where
  rules : List Scope.Rule

namespace Scope

/-- Which rule put an exchange in scope, and by which of its tests. -/
structure Hit where
  rule : Nat
  reason : Reason
  deriving DecidableEq, Repr

/-- The first hit among rules that are numbered from `first` on. -/
def hitFrom (e : Exchange) (first : Nat) : List Rule → Option Hit
  | [] => none
  | r :: rest =>
    match r.reason? e with
    | some reason => some ⟨first, reason⟩
    | none => hitFrom e (first + 1) rest

def empty : Scope := ⟨[]⟩

def size (s : Scope) : Nat := s.rules.length

def isEmpty (s : Scope) : Bool := s.rules.isEmpty

def hit? (s : Scope) (e : Exchange) : Option Hit := hitFrom e 0 s.rules

def contains (s : Scope) (e : Exchange) : Bool := (s.hit? e).isSome

end Scope

/-- Whether some rule of the scope holds of the exchange. -/
def Exchange.inScope (e : Exchange) (s : Scope) : Bool := s.contains e

end CapturedTraffic
