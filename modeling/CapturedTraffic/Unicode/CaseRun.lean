/-!
# Runs of case pairs

Letters with a partner of the other case come in runs in which the distance to the partner is the
same throughout, either side by side or at every second place.
-/
namespace CapturedTraffic.Unicode

structure CaseRun where
  first : Nat
  last : Nat
  stride : Nat
  offset : Int
  deriving DecidableEq, Repr

namespace CaseRun

def holds (run : CaseRun) (c : Nat) : Bool :=
  run.first ≤ c && c ≤ run.last && (c - run.first) % run.stride == 0

/-- The partner of a member. -/
def partner (run : CaseRun) (c : Nat) : Nat := (c + run.offset).toNat

def partner? (runs : List CaseRun) (c : Nat) : Option Nat :=
  (runs.find? (·.holds c)).map (·.partner c)

/-- Every member of the run with its partner. -/
def pairs (run : CaseRun) : List (Nat × Nat) :=
  (List.range ((run.last - run.first) / run.stride + 1)).map fun i =>
    (run.first + run.stride * i, run.partner (run.first + run.stride * i))

end CaseRun

end CapturedTraffic.Unicode
