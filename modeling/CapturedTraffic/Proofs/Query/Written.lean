import CapturedTraffic.Proofs.Json.Records
import CapturedTraffic.Query.Expression

/-!
# Reading expressions back

An expression written in JSON is read back exactly if it is not too high for the nesting that is
allowed: each operator on the way to a leaf takes two levels, and the leaf one more.
-/
namespace CapturedTraffic.Query

open Json

theorem Operator.reader_toJson (op : Operator) (depth : Nat) :
    reader depth op.toJson = some op := by
  rw [toJson, reader, ofName?_name]

theorem SearchPattern.compile_source (p : SearchPattern) : compile p.source = .ok p := by
  have compiled := p.compiled
  rw [compile]
  split
  next pattern found =>
    rw [compiled] at found
    cases found
    rfl
  next fault refused =>
    rw [compiled] at refused
    cases refused

namespace Expression

theorem record?_prefixFields (op right : Value) :
    Reader.record? prefixFields (.object [(some "operator", op), (some "right", right)]) =
      some [some op, some right] :=
  Reader.record?_written prefixFields [some op, some right] rfl (by decide) (by simp [prefixFields])

theorem record?_infixFields (op left right : Value) :
    Reader.record? infixFields
        (.object [(some "operator", op), (some "left", left), (some "right", right)]) =
      some [some op, some left, some right] :=
  Reader.record?_written infixFields [some op, some left, some right] rfl (by decide)
    (by simp [infixFields])

theorem reader_prefixOp (op : Operator) (right : Expression) (depth : Nat) :
    reader (depth + 2) (prefixOp op right).toJson =
      (reader depth right.toJson).map (prefixOp op) := by
  rw [toJson, reader, if_neg (by decide), if_neg (by decide), if_pos rfl, record?_prefixFields]
  simp only [Operator.reader_toJson]
  cases reader depth right.toJson <;> rfl

theorem reader_infixOp (op : Operator) (left right : Expression) (depth : Nat) :
    reader (depth + 2) (infixOp op left right).toJson =
      (reader depth left.toJson).bind fun l => (reader depth right.toJson).map (infixOp op l) := by
  rw [toJson, reader, if_neg (by decide), if_neg (by decide), if_neg (by decide), if_pos rfl,
    record?_infixFields]
  simp only [Operator.reader_toJson]
  cases reader depth left.toJson with
  | none => rfl
  | some l => cases reader depth right.toJson <;> rfl

theorem reader_literal (text : String) (depth : Nat) :
    reader (depth + 1) (literal text).toJson = some (literal text) := by
  unfold reader
  simp [toJson, Reader.text]

theorem reader_regex (pattern : SearchPattern) (depth : Nat) :
    reader (depth + 1) (regex pattern).toJson = some (regex pattern) := by
  unfold reader
  simp [toJson, Reader.text, pattern.compile_source, Except.toOption]

theorem reader_toJson (x : Expression) (depth : Nat) :
    reader depth x.toJson = if 2 * x.height < depth then some x else none := by
  induction x generalizing depth with
  | literal text =>
    cases depth with
    | zero => rfl
    | succ depth => rw [reader_literal, height, if_pos (by omega)]
  | regex pattern =>
    cases depth with
    | zero => rfl
    | succ depth => rw [reader_regex, height, if_pos (by omega)]
  | prefixOp op right ih =>
    match depth with
    | 0 => rfl
    | 1 => rfl
    | depth + 2 =>
      rw [reader_prefixOp, ih depth, height]
      by_cases fits : 2 * right.height < depth
      · rw [if_pos fits, if_pos (by omega), Option.map_some]
      · rw [if_neg fits, if_neg (by omega), Option.map_none]
  | infixOp op left right ihLeft ihRight =>
    match depth with
    | 0 => rfl
    | 1 => rfl
    | depth + 2 =>
      rw [reader_infixOp, ihLeft depth, ihRight depth, height]
      by_cases low : 2 * left.height < depth
      · rw [if_pos low, Option.bind_some]
        by_cases fits : 2 * right.height < depth
        · rw [if_pos fits, if_pos (by omega), Option.map_some]
        · rw [if_neg fits, if_neg (by omega), Option.map_none]
      · rw [if_neg low, Option.bind_none, if_neg (by omega)]

theorem plain_toJson (x : Expression) : x.toJson.Plain := by
  induction x with
  | literal text => exact Value.plain_entry _ (.text text)
  | regex pattern => exact Value.plain_entry _ (.text pattern.source)
  | prefixOp op right ih =>
    apply Value.plain_entry
    apply Value.plain_keyed [("operator", op.toJson), ("right", right.toJson)]
    simp only [List.forall_mem_cons]
    exact ⟨.text op.name, ih, by simp⟩
  | infixOp op left right ihLeft ihRight =>
    apply Value.plain_entry
    apply Value.plain_keyed
      [("operator", op.toJson), ("left", left.toJson), ("right", right.toJson)]
    simp only [List.forall_mem_cons]
    exact ⟨.text op.name, ihLeft, ihRight, by simp⟩

/-- The height is what decides whether a written expression can be read at all. -/
theorem read?_toJson (x : Expression) :
    read? x.toJson.render = if x.height ≤ 63 then some x else none := by
  rw [read?, Json.read?, Value.parse?_render x.plain_toJson, Option.bind_some, reader_toJson,
    maxDepth]
  congr 1
  rw [eq_iff_iff]
  omega

end Expression

end CapturedTraffic.Query
