import CapturedTraffic.Filter
import CapturedTraffic.Proofs.Query.Meaning

/-!
# Selection

What a filter keeps. The scope comes first, so the expression is only asked about exchanges that
reach it; whether it is then at fault, and how, is the same for all of these, since faults do not
depend on the exchange.
-/
namespace CapturedTraffic.Filter

open Query

variable {f : Filter} {scope : Scope} {e : Exchange} {x : Expression}

/-- Whether an exchange gets as far as the expression. -/
def reaches (f : Filter) (scope : Scope) (e : Exchange) : Bool :=
  !f.onlyInScope || scope.contains e

/-- Whether an exchange gets past the scope, and the expression, if there is one, is true of it. -/
def keeps (f : Filter) (scope : Scope) (e : Exchange) : Bool :=
  f.reaches scope e && f.expression.all fun x => (x.evaluate e).toOption = some true

theorem accepts_of_not_reaches (h : f.reaches scope e = false) :
    f.accepts scope e = .ok false := by
  rw [reaches, Bool.or_eq_false_iff, Bool.not_eq_false'] at h
  simp [accepts, h.1, h.2]

theorem accepts_of_reaches (h : f.reaches scope e = true) :
    f.accepts scope e = (f.expression.map fun x => x.evaluate e).getD (.ok true) := by
  have inside : (f.onlyInScope && !scope.contains e) = false := by
    rw [← Bool.not_eq_true', Bool.not_and, Bool.not_not]
    exact h
  rw [accepts, if_neg (by simp [inside])]
  cases f.expression <;> rfl

theorem accepts_eq_ok {b : Bool} (h : f.accepts scope e = .ok b) : b = f.keeps scope e := by
  by_cases reached : f.reaches scope e = true
  · rw [accepts_of_reaches reached] at h
    cases given : f.expression with
    | none =>
      rw [given] at h
      cases h
      simp [keeps, reached, given]
    | some x =>
      rw [given] at h
      have value : x.evaluate e = .ok b := h
      cases b <;> simp [keeps, reached, given, value, Except.toOption]
  · rw [Bool.not_eq_true] at reached
    rw [accepts_of_not_reaches reached] at h
    cases h
    simp [keeps, reached]

theorem accepts_total (h : ∀ x ∈ f.expression, ∃ b, x.evaluate e = .ok b) :
    ∃ b, f.accepts scope e = .ok b := by
  by_cases reached : f.reaches scope e = true
  · rw [accepts_of_reaches reached]
    cases given : f.expression with
    | none => exact ⟨true, rfl⟩
    | some x => exact h x given
  · rw [Bool.not_eq_true] at reached
    exact ⟨false, accepts_of_not_reaches reached⟩

theorem accepts_of_wellFormed (h : ∀ x ∈ f.expression, x.WellFormed) :
    f.accepts scope e = .ok (f.keeps scope e) := by
  have total : ∀ x ∈ f.expression, ∃ b, x.evaluate e = .ok b := by
    intro x hx
    obtain ⟨b, hb, _⟩ := (h x hx).evaluate e
    exact ⟨b, hb⟩
  obtain ⟨b, hb⟩ : ∃ b, f.accepts scope e = .ok b := accepts_total total
  rw [hb, accepts_eq_ok hb]

theorem accepts_of_firstFault {fault : Fault} (hf : f.expression = some x)
    (hx : x.FirstFault fault) :
    f.accepts scope e = if f.reaches scope e then .error fault else .ok false := by
  split
  next reached => rw [accepts_of_reaches reached, hf]; exact hx.evaluate e
  next missed => exact accepts_of_not_reaches (by simpa using missed)

theorem select_cons_of_ok {b : Bool} (h : f.accepts scope e = .ok b) (rest : List Exchange) :
    f.select scope (e :: rest) =
      (f.select scope rest).map fun kept => if b then e :: kept else kept := by
  rw [select, h]
  cases f.select scope rest <;> rfl

theorem select_cons_of_error {fault : Fault} (h : f.accepts scope e = .error fault)
    (rest : List Exchange) : f.select scope (e :: rest) = .error fault := by
  rw [select, h]
  rfl

/-- Where nothing is at fault, the selection is an ordinary filter. -/
theorem select_of_accepts {keep : Exchange → Bool} {all : List Exchange}
    (h : ∀ e ∈ all, f.accepts scope e = .ok (keep e)) :
    f.select scope all = .ok (all.filter keep) := by
  induction all with
  | nil => rfl
  | cons e rest ih =>
    have tail := ih fun d hd => h d (List.mem_cons_of_mem e hd)
    rw [select_cons_of_ok (h e List.mem_cons_self), tail, List.filter_cons]
    rfl

/-- A selection succeeds if no exchange listed is at fault, and is an ordinary filter then. -/
theorem select_eq_ok_iff {all kept : List Exchange} :
    f.select scope all = .ok kept ↔
      (∀ e ∈ all, ∃ b, f.accepts scope e = .ok b) ∧ kept = all.filter (f.keeps scope) := by
  constructor
  · intro h
    have each : ∀ e ∈ all, ∃ b, f.accepts scope e = .ok b := by
      induction all generalizing kept with
      | nil => simp
      | cons e rest ih =>
        cases first : f.accepts scope e with
        | error fault =>
          rw [select_cons_of_error first] at h
          cases h
        | ok b =>
          rw [select_cons_of_ok first] at h
          cases tail : f.select scope rest with
          | error fault =>
            rw [tail] at h
            cases h
          | ok others =>
            exact List.forall_mem_cons.2 ⟨⟨b, first⟩, ih tail⟩
    refine ⟨each, ?_⟩
    have selected : f.select scope all = .ok (all.filter (f.keeps scope)) := by
      apply select_of_accepts
      intro e he
      obtain ⟨b, hb⟩ := each e he
      rw [hb, accepts_eq_ok hb]
    exact Except.ok.inj (h.symm.trans selected)
  · rintro ⟨each, rfl⟩
    apply select_of_accepts
    intro e he
    obtain ⟨b, hb⟩ := each e he
    rw [hb, accepts_eq_ok hb]

theorem select_of_firstFault {fault : Fault} (hf : f.expression = some x)
    (hx : x.FirstFault fault) (all : List Exchange) :
    f.select scope all = if all.any (f.reaches scope) then .error fault else .ok [] := by
  induction all with
  | nil => rfl
  | cons e rest ih =>
    have first : f.accepts scope e = if f.reaches scope e then .error fault else .ok false :=
      accepts_of_firstFault hf hx
    by_cases reached : f.reaches scope e = true
    · rw [if_pos reached] at first
      rw [select_cons_of_error first, List.any_cons, reached, Bool.true_or, if_pos rfl]
    · rw [if_neg reached] at first
      rw [Bool.not_eq_true] at reached
      rw [select_cons_of_ok first, ih, List.any_cons, reached, Bool.false_or]
      cases rest.any (f.reaches scope) <;> rfl

/-- A selection fails where an exchange listed gets as far as an expression with a fault. -/
theorem select_eq_error_iff {fault : Fault} {all : List Exchange} :
    f.select scope all = .error fault ↔
      ∃ x ∈ f.expression, x.FirstFault fault ∧ ∃ e ∈ all, f.reaches scope e = true := by
  constructor
  · intro h
    have faulty : ¬ ∀ x ∈ f.expression, x.WellFormed := by
      intro sound
      rw [select_of_accepts fun e _ => accepts_of_wellFormed sound] at h
      cases h
    cases given : f.expression with
    | none => exact absurd (by simp [given]) faulty
    | some x =>
      have malformed : ¬ x.WellFormed := by
        intro sound
        apply faulty
        rw [given]
        rintro _ ⟨rfl⟩
        exact sound
      obtain ⟨other, first⟩ := (Expression.wellFormed_or_firstFault x).resolve_left malformed
      rw [select_of_firstFault given first] at h
      split at h
      next reached =>
        cases h
        exact ⟨x, rfl, first, List.any_eq_true.1 reached⟩
      next => cases h
  · rintro ⟨x, given, first, reached⟩
    rw [select_of_firstFault given first, if_pos (List.any_eq_true.2 reached)]

/--
An expression that has a value for some exchange makes the selection a sublist; one that is at
fault for some exchange makes the selection fail with that fault as soon as any exchange listed
gets as far as the expression.
-/
theorem select_characterised (f : Filter) (scope : Scope) (all : List Exchange) :
    ((∀ x ∈ f.expression, ∃ e b, x.evaluate e = .ok b) →
      f.select scope all = .ok (all.filter (f.keeps scope))) ∧
    (∀ x ∈ f.expression, ∀ e fault, x.evaluate e = .error fault →
      f.select scope all = if all.any (f.reaches scope) then .error fault else .ok []) := by
  constructor
  · intro h
    have wellFormed : ∀ x ∈ f.expression, x.WellFormed := by
      intro x hx
      obtain ⟨e, b, value⟩ := h x hx
      exact (Expression.evaluate_eq_ok_iff.1 value).1
    exact select_of_accepts fun e _ => accepts_of_wellFormed wellFormed
  · intro x hx e fault h
    exact select_of_firstFault hx (Expression.evaluate_eq_error_iff.1 h) all

/-- A fault is met inside the scope, and not outside. -/
theorem select_characterised_mixed :
    let outside := Exchange.new ⟨0, by decide⟩ "GET" none
    let inside := outside.withBody [97]
    let scope : Scope := ⟨[Scope.Rule.empty.withBody (.contains [97])]⟩
    let sound : Expression := .infixOp .equal (.literal "a") (.literal "a")
    let faulty : Expression := .prefixOp .and sound
    (∃ e b, sound.evaluate e = .ok b) ∧
      select ⟨true, some sound⟩ scope [outside, inside, outside, inside] = .ok [inside, inside] ∧
      faulty.evaluate outside = .error (.unsupportedOperator .and) ∧
      select ⟨true, some faulty⟩ scope [outside, outside] = .ok [] ∧
      select ⟨true, some faulty⟩ scope [outside, inside] = .error (.unsupportedOperator .and) := by
  intro outside inside scope sound faulty
  have value : ∃ e b, sound.evaluate e = .ok b := ⟨outside, _, rfl⟩
  have fault : faulty.evaluate outside = .error (.unsupportedOperator .and) := rfl
  have selects (all : List Exchange) := (select_characterised ⟨true, some sound⟩ scope all).1
    (by rintro x ⟨rfl⟩; exact value)
  have fails (all : List Exchange) := (select_characterised ⟨true, some faulty⟩ scope all).2
    faulty rfl outside _ fault
  exact ⟨value, (selects _).trans (congrArg Except.ok (by decide)), fault, fails _, fails _⟩

end CapturedTraffic.Filter
