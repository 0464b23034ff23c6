import CapturedTraffic.Exchange.Id
import CapturedTraffic.Proofs.Text.Numerals

/-!
# Reading identifiers back

The text of an identifier has 36 characters and starts with a digit, so it is read as groups of
digits, and the digits denote the identifier.
-/
namespace CapturedTraffic.ExchangeId

open Text

theorem ungroup?_groups {a b c d e : List Char} (ha : a.length = 8) (hb : b.length = 4)
    (hc : c.length = 4) (hd : d.length = 4) (he : e.length = 12) :
    ungroup? (a ++ '-' :: b ++ '-' :: c ++ '-' :: d ++ '-' :: e) = some (a ++ b ++ c ++ d ++ e) := by
  have cut (n : Nat) (s : List Char) (h : s.length ≤ n) : s.drop n = [] := List.drop_eq_nil_of_le h
  rw [ungroup?, if_pos]
  · simp [List.drop_append, ha, hb, hc, hd, cut]
  · simp [ha, hb, hc, hd, he]

theorem length_chars (id : ExchangeId) : id.chars.length = 36 := by
  simp [chars, Hex.length_fixed]

theorem ofDigits?_fixed (id : ExchangeId) :
    ofDigits? (Hex.fixed 8 (id.value / 2 ^ 96) ++ Hex.fixed 4 (id.value / 2 ^ 80) ++
      Hex.fixed 4 (id.value / 2 ^ 64) ++ Hex.fixed 4 (id.value / 2 ^ 48) ++
      Hex.fixed 12 id.value) = some id := by
  have bound := id.value_lt
  rw [ofDigits?, if_pos (by simp [Hex.length_fixed])]
  simp only [Hex.number?_append, Hex.number?_fixed, Option.bind_some]
  have whole : 16 ^ 12 * (16 ^ 4 * (16 ^ 4 * (16 ^ 4 * (16 ^ 8 * 0 + id.value / 2 ^ 96 % 16 ^ 8) +
      id.value / 2 ^ 80 % 16 ^ 4) + id.value / 2 ^ 64 % 16 ^ 4) + id.value / 2 ^ 48 % 16 ^ 4) +
      id.value % 16 ^ 12 = id.value := by
    omega
  rw [whole, ofNumber?, dif_pos bound]

theorem ofGroups?_chars (id : ExchangeId) : ofGroups? id.chars = some id := by
  rw [ofGroups?, chars, ungroup?_groups, Option.bind_some, ofDigits?_fixed]
  all_goals exact Hex.length_fixed ..

/-- The hyphenated form in lower case: groups of hexadecimal digits with hyphens between them. -/
def Hyphenated (s : String) : Prop :=
  ∃ groups : List (List Char), groups.map List.length = [8, 4, 4, 4, 12] ∧
    (∀ group ∈ groups, ∀ c ∈ group, c ∈ "0123456789abcdef".toList) ∧
    s.toList = ['-'].intercalate groups

theorem hyphenated_text (id : ExchangeId) : Hyphenated id.text := by
  refine ⟨[Hex.fixed 8 (id.value / 2 ^ 96), Hex.fixed 4 (id.value / 2 ^ 80),
    Hex.fixed 4 (id.value / 2 ^ 64), Hex.fixed 4 (id.value / 2 ^ 48), Hex.fixed 12 id.value],
    ?_, ?_, ?_⟩
  · simp only [List.map_cons, List.map_nil, Hex.length_fixed]
  · simp only [List.forall_mem_cons]
    refine ⟨?_, ?_, ?_, ?_, ?_, nofun⟩
    all_goals exact fun c => Hex.mem_lowerDigits_of_mem_fixed
  · simp [text, chars, List.intercalate]

theorem chars_eq_cons (id : ExchangeId) : ∃ n < 16, ∃ rest, id.chars = Hex.digit n :: rest := by
  obtain ⟨n, rest, small, written⟩ := Hex.fixed_succ 7 (id.value / 2 ^ 96)
  rw [chars, written]
  exact ⟨n, small, _, rfl⟩

theorem parse?_text (id : ExchangeId) : parse? id.text = some id := by
  obtain ⟨n, small, rest, first⟩ := id.chars_eq_cons
  have unnamed : ∀ m < 16, (Hex.digit m).toLower ≠ 'u' := by decide
  rw [parse?, text, String.toList_ofList, if_neg, if_neg, if_neg, ofGroups?_chars]
  · rw [first]
    intro named
    exact unnamed n small (List.cons.inj named).1
  · simp [length_chars]
  · simp [length_chars]

end CapturedTraffic.ExchangeId
