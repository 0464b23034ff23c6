/-!
# Orders

The part of a number above a place decides before the part below it, and the first of two texts of
one length before what follows it. Lists are ordered as in a dictionary. Values that go up with
others are in the same order as these.
-/
namespace CapturedTraffic

theorem div_lt_or_mod_lt {a b : Nat} (h : a < b) (place : Nat) :
    a / place < b / place ∨ a / place = b / place ∧ a % place < b % place := by
  rcases Nat.lt_or_eq_of_le (Nat.div_le_div_right (c := place) (Nat.le_of_lt h)) with less | same
  · exact .inl less
  · refine .inr ⟨same, ?_⟩
    have left := Nat.div_add_mod a place
    have right := Nat.div_add_mod b place
    rw [same] at left
    omega

variable {α β : Type} [LT α] [LT β]

/-- Texts of one length decide, whatever follows them. -/
theorem append_lt_append {a b : List α} (h : a < b) (length : a.length = b.length) (r s : List α) :
    a ++ r < b ++ s := by
  induction a generalizing b with
  | nil =>
    rw [List.eq_nil_of_length_eq_zero length.symm] at h
    exact absurd h (List.not_lt_nil [])
  | cons c a ih =>
    cases b with
    | nil => exact absurd h (List.not_lt_nil _)
    | cons d b =>
      simp only [List.cons_append]
      apply List.cons_lt_cons_iff.2
      rcases List.cons_lt_cons_iff.1 h with less | ⟨rfl, less⟩
      · exact .inl less
      · exact .inr ⟨rfl, ih less (Nat.succ.inj length)⟩

/--
The order of a dictionary: a list comes before those that go on after it, and before those that are
greater at the first place where the two differ, whatever follows there.
-/
def Precedes (a b : List α) : Prop :=
  (∃ x rest, b = a ++ x :: rest) ∨
    ∃ common x y r s, a = common ++ x :: r ∧ b = common ++ y :: s ∧ x < y

theorem precedes_cons_iff {x y : α} {a b : List α} :
    Precedes (x :: a) (y :: b) ↔ x < y ∨ x = y ∧ Precedes a b := by
  constructor
  · rintro (⟨z, rest, longer⟩ | ⟨common, u, v, r, s, left, right, less⟩)
    · obtain ⟨rfl, tail⟩ := List.cons.inj longer
      exact .inr ⟨rfl, .inl ⟨z, rest, tail⟩⟩
    · cases common with
      | nil =>
        obtain ⟨rfl, _⟩ := List.cons.inj left
        obtain ⟨rfl, _⟩ := List.cons.inj right
        exact .inl less
      | cons c common =>
        obtain ⟨rfl, leftTail⟩ := List.cons.inj left
        obtain ⟨rfl, rightTail⟩ := List.cons.inj right
        exact .inr ⟨rfl, .inr ⟨common, u, v, r, s, leftTail, rightTail, less⟩⟩
  · rintro (less | ⟨rfl, ⟨z, rest, rfl⟩ | ⟨common, u, v, r, s, rfl, rfl, less⟩⟩)
    · exact .inr ⟨[], x, y, a, b, rfl, rfl, less⟩
    · exact .inl ⟨z, rest, rfl⟩
    · exact .inr ⟨x :: common, u, v, r, s, rfl, rfl, less⟩

theorem lt_iff_precedes {a b : List α} : a < b ↔ Precedes a b := by
  induction a generalizing b with
  | nil =>
    cases b with
    | nil => simp [Precedes]
    | cons y b => exact ⟨fun _ => .inl ⟨y, b, rfl⟩, fun _ => List.nil_lt_cons y b⟩
  | cons x a ih =>
    cases b with
    | nil => simp [Precedes]
    | cons y b => rw [List.cons_lt_cons_iff, precedes_cons_iff, ih]

/-- Two values stand to each other as two others do. -/
structure SameOrder (a b : α) (s t : β) : Prop where
  lt : s < t ↔ a < b
  gt : t < s ↔ b < a
  eq : s = t ↔ a = b

/-- What goes up with values that can all be compared is in their order. -/
theorem SameOrder.of_increasing [Std.Asymm fun s t : β => s < t] {a b : α} {s t : β}
    (total : a < b ∨ a = b ∨ b < a) (less : a < b → s < t) (same : a = b → s = t)
    (greater : b < a → t < s) : SameOrder a b s t := by
  have asymm {s t : β} (h : s < t) : ¬ t < s := Std.Asymm.asymm s t h
  have unequal {s t : β} (h : s < t) : s ≠ t := fun same => asymm h (same ▸ h)
  refine ⟨⟨fun h => ?_, less⟩, ⟨fun h => ?_, greater⟩, ⟨fun h => ?_, same⟩⟩
  · rcases total with lt | eq | gt
    · exact lt
    · exact absurd (same eq) (unequal h)
    · exact absurd (greater gt) (asymm h)
  · rcases total with lt | eq | gt
    · exact absurd (less lt) (asymm h)
    · exact absurd (same eq).symm (unequal h)
    · exact gt
  · rcases total with lt | eq | gt
    · exact absurd h (unequal (less lt))
    · exact eq
    · exact absurd h.symm (unequal (greater gt))

end CapturedTraffic
