import CapturedTraffic.Scope.Config

/-!
# Shared scopes

A scope that can be replaced while it is in use. A snapshot is the scope that was current when it
was taken, and a replacement puts a whole scope in the place of the current one.
-/
namespace CapturedTraffic.Scope

structure Shared where
  current : Scope

namespace Shared

def snapshot (s : Shared) : Scope := s.current

/-- Installs a scope; the answer is the one that it displaces. -/
def replace (s : Shared) (next : Scope) : Scope × Shared := (s.current, ⟨next⟩)

/-- Installs the scope of a configuration text, if the text gives one. -/
def reload (s : Shared) (text : String) : Except ConfigFault (Scope × Shared) :=
  (Scope.ofText text).map s.replace

end Shared

end CapturedTraffic.Scope
