import CapturedTraffic.Proofs.Query.Written

/-!
# How deep expressions nest

The containers that stand inside one another in the written form of an expression are two for each
operator on the longest way to a leaf, and one for the leaf. Readers enter a limited number of
them, so there is a height up to which every expression is read back; higher ones are not read
from their own written form, nor from any other text.
-/
namespace CapturedTraffic

namespace Json.Value

mutual

/-- The most containers that stand inside one another. -/
def nesting : Value → Nat
  | .null => 0
  | .boolean _ => 0
  | .natural _ => 0
  | .otherNumber => 0
  | .text _ => 0
  | .array items => itemsNesting items + 1
  | .object entries => entriesNesting entries + 1

def itemsNesting : List Value → Nat
  | [] => 0
  | v :: rest => max (nesting v) (itemsNesting rest)

def entriesNesting : List (Option String × Value) → Nat
  | [] => 0
  | (_, v) :: rest => max (nesting v) (entriesNesting rest)

end

end Json.Value

namespace Query

open Json

theorem Operator.nesting_toJson (op : Operator) : op.toJson.nesting = 0 := rfl

namespace Expression

theorem nesting_toJson (x : Expression) : x.toJson.nesting = 2 * x.height + 1 := by
  induction x with
  | literal text => rfl
  | regex pattern => rfl
  | prefixOp op right ih =>
    simp only [toJson, Value.nesting, Value.entriesNesting, Operator.nesting_toJson, ih, height]
    omega
  | infixOp op left right ihLeft ihRight =>
    simp only [toJson, Value.nesting, Value.entriesNesting, Operator.nesting_toJson, ihLeft,
      ihRight, height]
    omega

/-- What must have been read, and at which depth, for an expression to be read. -/
def ReadFrom (depth : Nat) : Expression → Prop
  | prefixOp _ right => ∃ inner v, depth = inner + 2 ∧ reader inner v = some right
  | infixOp _ left right =>
    ∃ inner v w, depth = inner + 2 ∧ reader inner v = some left ∧ reader inner w = some right
  | literal _ => 0 < depth
  | regex _ => 0 < depth

theorem readFrom_of_reader {depth : Nat} {v : Value} {x : Expression}
    (h : reader depth v = some x) : x.ReadFrom depth := by
  unfold reader at h
  split at h
  case h_2 => cases h
  case h_1 depth tag v =>
    split at h
    next literal =>
      obtain ⟨text, _, rfl⟩ := Option.map_eq_some_iff.1 h
      exact Nat.succ_pos depth
    next operatorOrRegex =>
      split at h
      next regex =>
        obtain ⟨source, _, compiled⟩ := Option.bind_eq_some_iff.1 h
        obtain ⟨pattern, _, rfl⟩ := Option.map_eq_some_iff.1 compiled
        exact Nat.succ_pos depth
      next operator =>
        -- Operators are refused at the last level, so their operands start two levels further in.
        cases depth with
        | zero => cases h
        | succ inner =>
          simp only at h
          split at h
          · split at h
            · simp only [Option.bind_eq_bind, Option.bind_eq_some_iff] at h
              obtain ⟨op, _, right, read, ⟨⟩⟩ := h
              exact ⟨inner, _, rfl, read⟩
            · cases h
          · split at h
            · split at h
              · simp only [Option.bind_eq_bind, Option.bind_eq_some_iff] at h
                obtain ⟨op, _, left, readLeft, right, readRight, ⟨⟩⟩ := h
                exact ⟨inner, _, _, rfl, readLeft, readRight⟩
              · cases h
            · cases h

/-- However an expression was written, each operator on the way to a leaf has taken two levels. -/
theorem height_of_reader {depth : Nat} {v : Value} {x : Expression}
    (h : reader depth v = some x) : 2 * x.height < depth := by
  have read := readFrom_of_reader h
  induction x generalizing depth v with
  | literal text => exact read
  | regex pattern => exact read
  | prefixOp op right ih =>
    obtain ⟨inner, w, rfl, readRight⟩ := read
    have low := ih readRight (readFrom_of_reader readRight)
    rw [height]
    omega
  | infixOp op left right ihLeft ihRight =>
    obtain ⟨inner, u, w, rfl, readLeft, readRight⟩ := read
    have lowLeft := ihLeft readLeft (readFrom_of_reader readLeft)
    have lowRight := ihRight readRight (readFrom_of_reader readRight)
    rw [height]
    omega

theorem height_of_read? {text : String} {x : Expression} (h : read? text = some x) :
    x.height ≤ 63 := by
  obtain ⟨v, _, read⟩ := Option.bind_eq_some_iff.1 h
  have low : 2 * x.height < maxDepth := height_of_reader read
  rw [maxDepth] at low
  omega

/--
An expression is read back from its written form exactly if that nests as deep as readers go, at
most, which is to say that no way to a leaf has more than 63 operators. Higher expressions cannot be
read from any text.
-/
theorem readable_iff_height_le (x : Expression) :
    (x.toJson.nesting ≤ maxDepth ↔ x.height ≤ 63) ∧
      (read? x.toJson.render = if x.height ≤ 63 then some x else none) ∧
      ((∃ text, read? text = some x) ↔ x.height ≤ 63) := by
  refine ⟨?_, read?_toJson x, ?_, ?_⟩
  · rw [nesting_toJson, maxDepth]
    omega
  · rintro ⟨text, read⟩
    exact height_of_read? read
  · intro low
    exact ⟨x.toJson.render, by rw [read?_toJson, if_pos low]⟩

end Expression

end Query

end CapturedTraffic
