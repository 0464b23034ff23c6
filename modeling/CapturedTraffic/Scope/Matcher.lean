import CapturedTraffic.Pattern.Basic
import CapturedTraffic.Text.Occurrence

/-!
# Matchers

The tests that a scope rule is made of: patterns on header names and values, and for bodies a
pattern, a sought sequence of bytes or whatever other test a caller brings along.
-/
namespace CapturedTraffic

structure HeaderMatcher where
  key : Option Pattern
  value : Option Pattern
  deriving DecidableEq, Repr

namespace HeaderMatcher

def empty : HeaderMatcher := ⟨none, none⟩

/-- Tests one header entry; where both patterns are set, both must hold of the same entry. -/
def accepts (m : HeaderMatcher) (name : String) (values : List String) : Bool :=
  match m.key, m.value with
  | some key, none => key.matchesText name
  | none, some value => values.any value.matchesText
  | some key, some value => key.matchesText name && values.any value.matchesText
  | none, none => false

def isEmpty (m : HeaderMatcher) : Bool := m.key.isNone && m.value.isNone

end HeaderMatcher

inductive BodyMatcher
  | regex (pattern : Pattern)
  | contains (needle : List UInt8)
  | custom (test : List UInt8 → Bool)

def BodyMatcher.accepts : BodyMatcher → List UInt8 → Bool
  | regex pattern, body => pattern.matchesBytes body
  | contains needle, body => Text.occursIn needle body
  | custom test, body => test body

end CapturedTraffic
