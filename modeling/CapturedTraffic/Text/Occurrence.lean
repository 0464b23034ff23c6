/-!
# Occurrences

Whether one list stands somewhere inside another, without gaps.
-/
namespace CapturedTraffic.Text

def occursIn [BEq α] (needle : List α) : List α → Bool
  | [] => needle.isEmpty
  | x :: rest => needle.isPrefixOf (x :: rest) || occursIn needle rest

theorem occursIn_iff [BEq α] [LawfulBEq α] {needle text : List α} :
    occursIn needle text = true ↔ needle <:+: text := by
  induction text with
  | nil => simp [occursIn]
  | cons x rest ih =>
    rw [occursIn, Bool.or_eq_true, List.isPrefixOf_iff_prefix, ih, List.infix_cons_iff]

end CapturedTraffic.Text
