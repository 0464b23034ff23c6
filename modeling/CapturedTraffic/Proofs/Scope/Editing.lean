import CapturedTraffic.Proofs.Scope.FirstHit

/-!
# Editing the rules of a scope

In rules that are put together, the first part decides unless none of its rules holds, and then the
second part does, with its rules counted on. So rules that do not hold can be put in anywhere: the
same test of the same rule is reported, under a number that has grown by what was put in before it.
Whether an exchange is in scope is a matter of which rules there are, and not of their order.
-/
namespace CapturedTraffic.Scope

variable {e : Exchange} {rules more a b : List Rule} {gaps : Nat → List Rule}

/-- The hit where `n` further rules come before all others. -/
def Hit.later (n : Nat) (hit : Hit) : Hit := ⟨hit.rule + n, hit.reason⟩

/-- Rules with others put in: `gaps i` before rule `i`, and the gap after the last one behind it. -/
def interleave (gaps : Nat → List Rule) : List Rule → List Rule
  | [] => gaps 0
  | r :: rest => gaps 0 ++ r :: interleave (fun i => gaps (i + 1)) rest

/-- How many rules are put in before rule `i`. -/
def insertedBefore (gaps : Nat → List Rule) : Nat → Nat
  | 0 => (gaps 0).length
  | i + 1 => insertedBefore gaps i + (gaps (i + 1)).length

/-- The gaps that start with `front` and go on as before. -/
def gapsFrom (front : List Rule) (gaps : Nat → List Rule) : Nat → List Rule
  | 0 => front
  | i + 1 => gaps i

theorem insertedBefore_succ (gaps : Nat → List Rule) (i : Nat) :
    insertedBefore gaps (i + 1) =
      (gaps 0).length + insertedBefore (fun j => gaps (j + 1)) i := by
  induction i with
  | zero => rfl
  | succ i ih => rw [insertedBefore, ih, insertedBefore, Nat.add_assoc]

theorem hitFrom_add (e : Exchange) (first n : Nat) (rules : List Rule) :
    hitFrom e (first + n) rules = (hitFrom e first rules).map (Hit.later n) := by
  induction rules generalizing first with
  | nil => rfl
  | cons r rest ih =>
    simp only [hitFrom]
    cases r.reason? e with
    | some reason => rfl
    | none => rw [Nat.add_right_comm, ih]

theorem hitFrom_append (e : Exchange) (first : Nat) (a b : List Rule) :
    hitFrom e first (a ++ b) = (hitFrom e first a).or (hitFrom e (first + a.length) b) := by
  induction a generalizing first with
  | nil => rfl
  | cons r rest ih =>
    simp only [List.cons_append, hitFrom]
    cases r.reason? e with
    | some reason => rfl
    | none =>
      simp only [ih, List.length_cons]
      rw [Nat.add_right_comm, Nat.add_assoc]

theorem hit?_append (e : Exchange) (a b : List Rule) :
    hit? ⟨a ++ b⟩ e = (hit? ⟨a⟩ e).or ((hit? ⟨b⟩ e).map (Hit.later a.length)) := by
  simp only [hit?, hitFrom_append, hitFrom_add]

theorem hit?_cons (e : Exchange) (r : Rule) (rest : List Rule) :
    hit? ⟨r :: rest⟩ e =
      ((r.reason? e).map (Hit.mk 0)).or ((hit? ⟨rest⟩ e).map (Hit.later 1)) := by
  simp only [hit?, hitFrom, hitFrom_add]
  cases r.reason? e <;> rfl

theorem hit?_append_of_none (nothing : hit? ⟨a⟩ e = none) (b : List Rule) :
    hit? ⟨a ++ b⟩ e = (hit? ⟨b⟩ e).map (Hit.later a.length) := by
  rw [hit?_append, nothing, Option.none_or]

theorem hit?_eq_none_of_idle (idle : ∀ r ∈ rules, r.isEmpty = true ∨ r.holds e = false) :
    hit? ⟨rules⟩ e = none := by
  rw [hit?_eq_none_iff]
  intro r hr
  rcases idle r hr with empty | missed
  · rw [← Bool.not_eq_true, Rule.holds_iff]
    rintro ⟨reason, passes⟩
    exact Rule.not_passes_of_isEmpty empty reason passes
  · exact missed

/-- The number of the rule grows by what is put in before it. -/
theorem hit?_interleave
    (idle : ∀ i ≤ rules.length, ∀ r ∈ gaps i, r.isEmpty = true ∨ r.holds e = false) :
    hit? ⟨interleave gaps rules⟩ e =
      (hit? ⟨rules⟩ e).map fun hit => hit.later (insertedBefore gaps hit.rule) := by
  induction rules generalizing gaps with
  | nil => exact hit?_eq_none_of_idle (idle 0 (Nat.le_refl 0))
  | cons r rest ih =>
    have front : hit? ⟨gaps 0⟩ e = none := hit?_eq_none_of_idle (idle 0 (Nat.zero_le _))
    have tail : hit? ⟨interleave (fun i => gaps (i + 1)) rest⟩ e =
        (hit? ⟨rest⟩ e).map fun hit =>
          hit.later (insertedBefore (fun i => gaps (i + 1)) hit.rule) :=
      ih fun i hi => idle (i + 1) (Nat.succ_le_succ hi)
    rw [interleave, hit?_append_of_none front, hit?_cons, hit?_cons, tail]
    cases r.reason? e with
    | some reason => simp [Hit.later, insertedBefore]
    | none =>
      cases hit? ⟨rest⟩ e with
      | none => rfl
      | some hit =>
        simp only [Option.map_none, Option.none_or, Option.map_some, Hit.later,
          insertedBefore_succ]
        congr 2
        omega

theorem sublist_interleave (gaps : Nat → List Rule) (rules : List Rule) :
    rules.Sublist (interleave gaps rules) := by
  induction rules generalizing gaps with
  | nil => exact List.nil_sublist _
  | cons r rest ih => exact List.sublist_append_of_sublist_right ((ih _).cons_cons r)

/-- Rules that keep their order among others are those others put in between them. -/
theorem exists_interleave_of_sublist (h : rules.Sublist more) :
    ∃ gaps, interleave gaps rules = more := by
  induction h with
  | slnil => exact ⟨fun _ => [], rfl⟩
  | @cons rules more r _ ih =>
    obtain ⟨gaps, rfl⟩ := ih
    refine ⟨gapsFrom (r :: gaps 0) fun i => gaps (i + 1), ?_⟩
    cases rules <;> rfl
  | @cons_cons rules more r _ ih =>
    obtain ⟨gaps, rfl⟩ := ih
    exact ⟨gapsFrom [] gaps, rfl⟩

theorem contains_mono (h : a ⊆ b) (inside : contains ⟨a⟩ e = true) : contains ⟨b⟩ e = true := by
  rw [contains_iff, exists_hit?_iff] at inside ⊢
  obtain ⟨r, hr, holds⟩ := inside
  exact ⟨r, h hr, holds⟩

theorem contains_congr (h : ∀ r, r ∈ a ↔ r ∈ b) : contains ⟨a⟩ e = contains ⟨b⟩ e := by
  rw [Bool.eq_iff_iff]
  exact ⟨contains_mono fun r => (h r).1, contains_mono fun r => (h r).2⟩

/--
The hit among rules put together is that of the first part, or else that of the second with its
rules counted on. Rules that do not hold, empty ones among them, can be put in between the rules in
any number and place: the reason stays, and the number grows by what is put in before the rule. In
this way the rules become any others that they stand among in their order. In scope is what was in
scope, if rules are added, and nothing else, if they are reordered or repeated.
-/
theorem hit?_edited (e : Exchange) :
    (∀ a b, hit? ⟨a ++ b⟩ e = match hit? ⟨a⟩ e with
      | some hit => some hit
      | none => (hit? ⟨b⟩ e).map fun hit => ⟨hit.rule + a.length, hit.reason⟩) ∧
    (∀ gaps rules, (∀ i ≤ rules.length, ∀ r ∈ gaps i, r.isEmpty = true ∨ r.holds e = false) →
      hit? ⟨interleave gaps rules⟩ e =
          (hit? ⟨rules⟩ e).map (fun hit => ⟨hit.rule + insertedBefore gaps hit.rule, hit.reason⟩) ∧
        contains ⟨interleave gaps rules⟩ e = contains ⟨rules⟩ e) ∧
    (∀ rules more, (∃ gaps, interleave gaps rules = more) ↔ rules.Sublist more) ∧
    (∀ a b, (∀ r, r ∈ a ↔ r ∈ b) → contains ⟨a⟩ e = contains ⟨b⟩ e) ∧
    (∀ a b, a ⊆ b → contains ⟨a⟩ e = true → contains ⟨b⟩ e = true) := by
  refine ⟨fun a b => ?_, fun gaps rules idle => ?_, fun rules more => ⟨?_, ?_⟩,
    fun a b => contains_congr, fun a b => contains_mono⟩
  · rw [hit?_append]
    cases hit? ⟨a⟩ e <;> rfl
  · have moved := hit?_interleave idle
    exact ⟨moved, by rw [contains, contains, moved, Option.isSome_map]⟩
  · rintro ⟨gaps, rfl⟩
    exact sublist_interleave gaps rules
  · exact exists_interleave_of_sublist

/-- Of two rules that hold the first is reported, behind three that are put in before it. -/
theorem hit?_edited_counted :
    let has (byte : UInt8) : Rule := Rule.empty.withBody (.contains [byte])
    let e := (Exchange.new ⟨0, by decide⟩ "GET" none).withBody [97, 98]
    let rules := [has 1, has 97, has 98]
    let gaps : Nat → List Rule := fun i => if i = 1 then [has 2, .empty] else [.empty]
    (∀ i ≤ rules.length, ∀ r ∈ gaps i, r.isEmpty = true ∨ r.holds e = false) ∧
      hit? ⟨rules⟩ e = some ⟨1, .body⟩ ∧ hit? ⟨interleave gaps rules⟩ e = some ⟨4, .body⟩ ∧
      (∀ r, r ∈ rules ↔ r ∈ rules.reverse ++ rules) ∧
      contains ⟨rules⟩ e = contains ⟨rules.reverse ++ rules⟩ e ∧
      [has 98] ⊆ rules ∧ contains ⟨[has 98]⟩ e = true ∧ contains ⟨rules⟩ e = true := by
  intro has e rules gaps
  have idle : ∀ i ≤ rules.length, ∀ r ∈ gaps i, r.isEmpty = true ∨ r.holds e = false := by
    intro i _ r hr
    by_cases first : i = 1
    · simp only [gaps, if_pos first, List.mem_cons, List.not_mem_nil, or_false] at hr
      rcases hr with rfl | rfl
      · exact .inr rfl
      · exact .inl rfl
    · simp only [gaps, if_neg first, List.mem_singleton] at hr
      rw [hr]
      exact .inl rfl
  have same : ∀ r, r ∈ rules ↔ r ∈ rules.reverse ++ rules := by simp
  have part : [has 98] ⊆ rules := by simp [rules]
  obtain ⟨_, inserted, _, repeated, added⟩ := hit?_edited e
  have found : hit? ⟨rules⟩ e = some ⟨1, .body⟩ := rfl
  have moved : hit? ⟨interleave gaps rules⟩ e = some ⟨4, .body⟩ := by
    rw [(inserted gaps rules idle).1, found]
    rfl
  exact ⟨idle, found, moved, same, repeated _ _ same, part, rfl, added _ _ part rfl⟩

end CapturedTraffic.Scope
