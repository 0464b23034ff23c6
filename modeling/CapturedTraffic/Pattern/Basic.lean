import CapturedTraffic.Pattern.Meaning
import CapturedTraffic.Pattern.Search
import CapturedTraffic.Pattern.Weight

/-!
# Patterns

A pattern is compiled from its text in one of three modes: for texts, for names (texts whose case
does not matter) and for bytes. A compiled pattern answers whether it matches somewhere.
-/
namespace CapturedTraffic

namespace Pattern

structure Mode where
  ignoreCase : Bool
  anyBytes : Bool
  deriving DecidableEq, Repr

namespace Mode

def text : Mode := ⟨false, false⟩

def name : Mode := ⟨true, false⟩

def bytes : Mode := ⟨false, true⟩

/-- The flags in force at the start of a pattern. -/
def context (m : Mode) : Context := ⟨m.ignoreCase, false, false, true, false, m.anyBytes⟩

end Mode

inductive Fault
  | malformed
  | tooBig
  deriving DecidableEq, Repr

end Pattern

structure Pattern where
  regex : Pattern.Regex Pattern.Atom
  anyBytes : Bool
  deriving DecidableEq, Repr

namespace Pattern

def compile (mode : Mode) (source : String) : Except Fault Pattern :=
  match (Node.read? source).bind (·.meaning? mode.context) with
  | none => .error .malformed
  | some (regex, _) =>
    if regex.form.fits then .ok ⟨regex, mode.anyBytes⟩ else .error .tooBig

def matchesBytes (p : Pattern) (bytes : List UInt8) : Bool := p.regex.foundIn p.anyBytes bytes

def matchesText (p : Pattern) (s : String) : Bool := p.matchesBytes (Text.Utf8.encode s)

end Pattern

end CapturedTraffic
