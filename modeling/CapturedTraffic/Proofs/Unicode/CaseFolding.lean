import CapturedTraffic.Unicode.CaseFolding

/-!
# Folding a letter

The set of a single letter from A to Z, closed under case, holds the two forms of that letter. For k
and s it holds a third form from outside ASCII too; these two letters are left out.
-/
namespace CapturedTraffic.Unicode

namespace RangeSet

theorem contains_single (a c : Nat) : (single a).contains c = decide (a = c) := by
  rw [contains, single]
  change search #[(a, a)] c 0 1 _ = _
  rw [search, dif_pos Nat.zero_lt_one]
  dsimp only
  split
  · rw [search, dif_neg (by decide)]
    grind
  · split
    · rw [search, dif_neg (by decide)]
      grind
    · grind

theorem ofList_singleton (a : Nat) : ofList [(a, a)] = single a := by
  rw [ofList, List.mergeSort_singleton, coalesce, single]

end RangeSet

namespace CaseFolding

/-- The pairs that have a character of ASCII: one for each letter, and two with long s and kelvin. -/
def asciiPairs : List (Nat × Nat) :=
  (List.range 26).map (fun i => (65 + i, 97 + i)) ++ [(0x17F, 115), (0x212A, 107)]

theorem filter_pairs : pairs.filter (fun p => p.1 < 0x80 || p.2 < 0x80) = asciiPairs := by
  decide +kernel

theorem filterMap_pairs {β : Type} {f : Nat × Nat → Option β}
    (other : ∀ p, 0x80 ≤ p.1 → 0x80 ≤ p.2 → f p = none) :
    pairs.filterMap f = asciiPairs.filterMap f := by
  rw [← filter_pairs, List.filterMap_filter]
  congr 1
  funext p
  split
  · rfl
  · exact other p (by grind) (by grind)

theorem closure_letter {i : Nat} (letter : i < 26 ∧ i ≠ 10 ∧ i ≠ 18) :
    closure (.single (97 + i)) = ⟨#[(65 + i, 65 + i), (97 + i, 97 + i)]⟩ := by
  have chosen : ∀ i < 26, i ≠ 10 ∧ i ≠ 18 → (asciiPairs.filterMap fun p =>
      if decide (97 + i = p.1) || decide (97 + i = p.2) then some p.2 else none) = [97 + i] := by
    decide +kernel
  have sources : ∀ i < 26, i ≠ 10 ∧ i ≠ 18 → (asciiPairs.filterMap fun p =>
      if decide (97 + i = p.2) then some (p.1, p.1) else none) = [(65 + i, 65 + i)] := by
    decide +kernel
  -- `mergeSort` does not reduce, so what it gives is found through its equation.
  have sorted : [(97 + i, 97 + i), (97 + i, 97 + i), (65 + i, 65 + i)].mergeSort
      (fun x y => x.1 ≤ y.1) = [(65 + i, 65 + i), (97 + i, 97 + i), (97 + i, 97 + i)] := by
    simp [List.mergeSort]
  have apart : ¬ 97 + i ≤ 65 + i + 1 := by omega
  rw [closure]
  simp only [RangeSet.contains_single]
  rw [filterMap_pairs (by grind), chosen i letter.1 letter.2]
  simp only [List.map_singleton, RangeSet.ofList_singleton, RangeSet.contains_single]
  rw [filterMap_pairs (by grind), sources i letter.1 letter.2, RangeSet.ofList_singleton,
    RangeSet.unions]
  simp only [List.flatMap_cons, List.flatMap_nil, RangeSet.single, RangeSet.ofList,
    List.cons_append, List.nil_append, sorted]
  simp [RangeSet.coalesce, apart]

end CaseFolding

end CapturedTraffic.Unicode
