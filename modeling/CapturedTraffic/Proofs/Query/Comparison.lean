import CapturedTraffic.Proofs.Exchange.CarriedTime
import CapturedTraffic.Proofs.Exchange.IdentifierOrder
import CapturedTraffic.Proofs.Query.FieldNames
import CapturedTraffic.Proofs.Time.Chronology

/-!
# Comparing values by their texts

Comparisons are made on texts. Where the texts of values are in the order of the values, comparing
a field with the text of a value compares the values themselves. Identifiers are such values, and
so are the times that they carry, in the years that are written in four digits.
-/
namespace CapturedTraffic

open Text Time

namespace Query

namespace Operator

/-- The relation of values in an order that a comparison stands for. -/
def Orders {α : Type} [LT α] [LE α] : Operator → α → α → Prop
  | equal, a, b => a = b
  | notEqual, a, b => a ≠ b
  | greater, a, b => b < a
  | less, a, b => a < b
  | greaterOrEqual, a, b => b ≤ a
  | lessOrEqual, a, b => a ≤ b
  | _, _, _ => False

/-- Texts in the order of their values stand in the same relations. -/
theorem relates_iff_orders {α : Type} [LT α] [LE α] {a b : α} {s t : String}
    (less : s < t ↔ a < b) (greater : t < s ↔ b < a) (same : s = t ↔ a = b)
    (le : a ≤ b ↔ ¬ b < a) (ge : b ≤ a ↔ ¬ a < b) (op : Operator) :
    op.Relates s t ↔ op.Orders a b := by
  cases op with
  | not | and | or | matching | notMatching => exact Iff.rfl
  | equal => exact same
  | notEqual => exact not_congr same
  | greater => exact greater
  | less => exact less
  | greaterOrEqual => rw [Relates, Orders, ge, ← less, String.not_lt]
  | lessOrEqual => rw [Relates, Orders, le, ← greater, String.not_lt]

end Operator

namespace Field

/-- The name of a field begins with the letter that requests and responses begin with. -/
theorem not_mem_names_of_head?_ne {operand : String} (h : operand.toList.head? ≠ some 'r') :
    operand ∉ requestNames ++ responseNames := by
  have heads : ∀ name ∈ requestNames ++ responseNames, name.toList.head? = some 'r' := by decide
  exact fun named => h (heads operand named)

/-- The text of an identifier begins with a hexadecimal digit. -/
theorem idText_not_mem_names (id : ExchangeId) : id.text ∉ requestNames ++ responseNames := by
  apply not_mem_names_of_head?_ne
  obtain ⟨n, small, rest, first⟩ := id.chars_eq_cons
  have digits : ∀ n < 16, Hex.digit n ≠ 'r' := by decide
  rw [ExchangeId.text, String.toList_ofList, first, List.head?_cons, ne_eq, Option.some_inj]
  exact digits n small

theorem resolve_timestamp {e : Exchange} {t : Instant} (h : e.id.timestamp = some t) :
    resolve e "req.timestamp" = t.text := by
  have value : resolve e "req.timestamp" = timestampText e := rfl
  rw [value, timestampText, h]
  rfl

/-- The text of an ordinary instant begins with a digit. -/
theorem instantText_not_mem_names {t : Instant} (h : t.Ordinary) :
    t.text ∉ requestNames ++ responseNames := by
  apply not_mem_names_of_head?_ne
  obtain ⟨c, rest, written, numeric⟩ := Decimal.fixed_eq_cons 3 t.date.year.toNat
  rw [Instant.text, String.toList_ofList, Date.text, Date.yearText, if_pos h.year, written]
  simp only [List.cons_append, List.head?_cons, ne_eq, Option.some_inj]
  rintro rfl
  revert numeric
  decide

theorem resolve_instantText (e : Exchange) {t : Instant} (h : t.Ordinary) :
    resolve e t.text = t.text := resolve_of_not_mem e (instantText_not_mem_names h)

end Field

namespace Expression

/--
Comparing the time of a request with the text of an instant compares the two in time, if both are in
the years 0 to 9999 and the instant is in no leap second.
-/
theorem evaluate_timestamp_iff_orders {op : Operator} (hop : op ∈ Operator.comparisons)
    {e : Exchange} {own t : Instant} (carried : e.id.timestamp = some own)
    (ownYear : 0 ≤ own.date.year ∧ own.date.year ≤ 9999) (nanos : t.nanos < Instant.billion)
    (year : 0 ≤ t.date.year ∧ t.date.year ≤ 9999) :
    ∃ r, (infixOp op (literal "req.timestamp") (literal t.text)).evaluate e = .ok r ∧
      (r = true ↔ op.Orders own t) := by
  have ownOrdinary : own.Ordinary := ⟨ExchangeId.nanos_lt_of_timestamp carried, ownYear⟩
  have ordinary : t.Ordinary := ⟨nanos, year⟩
  have orders : op.Relates own.text t.text ↔ op.Orders own t :=
    Operator.relates_iff_orders (Instant.text_lt_text_iff ownOrdinary ordinary)
      (Instant.text_lt_text_iff ordinary ownOrdinary) (Instant.text_inj ownOrdinary ordinary)
      Instant.le_iff_not_lt Instant.le_iff_not_lt op
  obtain ⟨r, evaluated, relates⟩ := evaluate_comparison hop e "req.timestamp" t.text
  rw [Field.resolve_timestamp carried, Field.resolve_instantText e ordinary] at relates
  exact ⟨r, evaluated, relates.trans orders⟩

/-- A nanosecond more takes six digits more. -/
theorem evaluate_timestamp_iff_orders_nanosecond :
    let own : Instant := ⟨1704067200, 232000000⟩
    let t : Instant := ⟨1704067200, 232000001⟩
    let e : Exchange := .new (.ofMilliseconds 1704067200232 0 0) "GET" none
    Operator.less ∈ Operator.comparisons ∧ e.id.timestamp = some own ∧
      own.text = "2024-01-01 00:00:00.232 UTC" ∧ t.text = "2024-01-01 00:00:00.232000001 UTC" ∧
      (infixOp .less (literal "req.timestamp") (literal t.text)).evaluate e = .ok true := by
  intro own t e
  have hop : Operator.less ∈ Operator.comparisons := by decide
  have carried : e.id.timestamp = some own := by decide
  obtain ⟨r, evaluated, orders⟩ := evaluate_timestamp_iff_orders hop carried (by decide)
    (by decide : t.nanos < Instant.billion) (by decide)
  have later : r = true := orders.2 (.inr ⟨rfl, by decide⟩)
  rw [later] at evaluated
  exact ⟨hop, carried, by decide, by decide, evaluated⟩

/--
Comparing the identifier of a request with the text of an identifier compares the two in their
order, which is that of their bytes. Texts of identifiers are in that order and name no field.
-/
theorem evaluate_id_iff_orders {op : Operator} (hop : op ∈ Operator.comparisons) (e : Exchange)
    (id : ExchangeId) :
    (∃ r, (infixOp op (literal "req.id") (literal id.text)).evaluate e = .ok r ∧
        (r = true ↔ op.Orders e.id id)) ∧
      (e.id < id ↔ e.id.bytes < id.bytes) ∧ (e.id.text < id.text ↔ e.id < id) ∧
      (e.id.text = id.text ↔ e.id = id) ∧ id.text ∉ Field.requestNames ++ Field.responseNames := by
  have order : SameOrder e.id id e.id.text id.text := ExchangeId.sameOrder_text e.id id
  have unnamed : id.text ∉ Field.requestNames ++ Field.responseNames :=
    Field.idText_not_mem_names id
  refine ⟨?_, (ExchangeId.sameOrder_bytes e.id id).lt.symm, order.lt, order.eq, unnamed⟩
  obtain ⟨r, evaluated, relates⟩ := evaluate_comparison hop e "req.id" id.text
  have own : Field.resolve e "req.id" = e.id.text := rfl
  rw [own, Field.resolve_of_not_mem e unnamed] at relates
  have orders : op.Relates e.id.text id.text ↔ op.Orders e.id id :=
    Operator.relates_iff_orders order.lt order.gt order.eq ExchangeId.le_iff_not_lt
      ExchangeId.le_iff_not_lt op
  exact ⟨r, evaluated, relates.trans orders⟩

/-- The last digit before the second hyphen goes from nine to ten. -/
theorem evaluate_id_iff_orders_letter :
    let id : ExchangeId := ⟨10 * 2 ^ 80, by decide⟩
    let e : Exchange := .new ⟨10 * 2 ^ 80 - 1, by decide⟩ "GET" none
    Operator.less ∈ Operator.comparisons ∧ e.id.text = "00000000-0009-ffff-ffff-ffffffffffff" ∧
      id.text = "00000000-000a-0000-0000-000000000000" ∧
      (infixOp .less (literal "req.id") (literal id.text)).evaluate e = .ok true := by
  intro id e
  have hop : Operator.less ∈ Operator.comparisons := by decide
  obtain ⟨⟨r, evaluated, orders⟩, _⟩ := evaluate_id_iff_orders hop e id
  have less : r = true := orders.2 (by decide : 10 * 2 ^ 80 - 1 < 10 * 2 ^ 80)
  rw [less] at evaluated
  exact ⟨hop, by decide, by decide, evaluated⟩

end Expression

end Query

end CapturedTraffic
