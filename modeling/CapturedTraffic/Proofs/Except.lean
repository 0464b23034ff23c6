/-!
# Outcomes that may be faults

What a value says about the steps that it was reached through. Where the steps are stages that pass
or fail each for itself, the outcome is a value if all of them pass, and else the first failure.
-/
namespace CapturedTraffic

variable {ε δ α β : Type}

theorem bind_eq_ok_iff {r : Except ε α} {next : α → Except ε β} {b : β} :
    (r >>= next) = .ok b ↔ ∃ a, r = .ok a ∧ next a = .ok b := by
  cases r with
  | error fault => simp [Bind.bind, Except.bind]
  | ok a => simp [Bind.bind, Except.bind]

theorem map_eq_ok_iff {r : Except ε α} {f : α → β} {b : β} :
    r.map f = .ok b ↔ ∃ a, r = .ok a ∧ f a = b := by
  cases r with
  | error fault => simp [Except.map]
  | ok a => simp [Except.map]

theorem mapError_ok (f : ε → δ) (a : α) : (Except.ok a : Except ε α).mapError f = .ok a := rfl

theorem mapError_error (f : ε → δ) (fault : ε) :
    (Except.error fault : Except ε α).mapError f = .error (f fault) := rfl

theorem mapError_eq_ok_iff {r : Except ε α} {f : ε → δ} {a : α} :
    r.mapError f = .ok a ↔ r = .ok a := by
  cases r <;> simp [mapError_ok, mapError_error]

theorem toOption_eq_some_iff {r : Except ε α} {a : α} : r.toOption = some a ↔ r = .ok a := by
  cases r <;> simp [Except.toOption]

section FirstFailure

variable {σ φ : Type} {Passes : σ → Prop} {Fails : σ → φ → Prop} {stages more : List σ} {f g : φ}

/-- The failure of the first of some stages that does not pass. -/
inductive FirstFailure (Passes : σ → Prop) (Fails : σ → φ → Prop) : List σ → φ → Prop
  | here {stage : σ} {f : φ} (fails : Fails stage f) (rest : List σ) :
      FirstFailure Passes Fails (stage :: rest) f
  | later {stage : σ} {rest : List σ} {f : φ} (passes : Passes stage)
      (first : FirstFailure Passes Fails rest f) : FirstFailure Passes Fails (stage :: rest) f

/-- No stage both passes and fails, and none fails in two ways. -/
structure Exclusive (Passes : σ → Prop) (Fails : σ → φ → Prop) : Prop where
  not_fails : ∀ {stage f}, Passes stage → ¬ Fails stage f
  unique : ∀ {stage f g}, Fails stage f → Fails stage g → f = g

/-- An outcome that stages decide: a value if all of them pass, and else the first failure. -/
structure Settles (Passes : σ → Prop) (Fails : σ → φ → Prop) (stages : List σ) (x : Except φ α) :
    Prop where
  passed : ∀ a, x = .ok a → ∀ stage ∈ stages, Passes stage
  failed : ∀ f, x = .error f → FirstFailure Passes Fails stages f

theorem FirstFailure.not_passed (exclusive : Exclusive Passes Fails)
    (h : FirstFailure Passes Fails stages f) : ¬ ∀ stage ∈ stages, Passes stage := by
  intro passed
  induction h with
  | here fails => exact exclusive.not_fails (passed _ List.mem_cons_self) fails
  | later _ _ ih => exact ih fun stage mem => passed stage (List.mem_cons_of_mem _ mem)

theorem FirstFailure.unique (exclusive : Exclusive Passes Fails)
    (hf : FirstFailure Passes Fails stages f) (hg : FirstFailure Passes Fails stages g) :
    f = g := by
  induction hf with
  | here fails =>
    cases hg with
    | here other => exact exclusive.unique fails other
    | later passes => exact absurd fails (exclusive.not_fails passes)
  | later passes _ ih =>
    cases hg with
    | here other => exact absurd other (exclusive.not_fails passes)
    | later _ first => exact ih first

theorem FirstFailure.append (h : FirstFailure Passes Fails stages f) (more : List σ) :
    FirstFailure Passes Fails (stages ++ more) f := by
  induction h with
  | here fails rest => exact .here fails (rest ++ more)
  | later passes _ ih => exact .later passes ih

theorem FirstFailure.append_left (passed : ∀ stage ∈ stages, Passes stage)
    (h : FirstFailure Passes Fails more f) : FirstFailure Passes Fails (stages ++ more) f := by
  induction stages with
  | nil => exact h
  | cons stage rest ih =>
    obtain ⟨head, tail⟩ := List.forall_mem_cons.1 passed
    exact .later head (ih tail)

namespace Settles

variable {x : Except φ α}

theorem of_passed (passed : ∀ stage ∈ stages, Passes stage) (a : α) :
    Settles Passes Fails stages (.ok a) :=
  ⟨fun _ _ => passed, nofun⟩

theorem ok (a : α) : Settles Passes Fails [] (.ok a) := of_passed (List.forall_mem_nil _) a

theorem single {stage : σ} (passed : ∀ a, x = .ok a → Passes stage)
    (failed : ∀ f, x = .error f → Fails stage f) : Settles Passes Fails [stage] x :=
  ⟨fun a h => List.forall_mem_cons.2 ⟨passed a h, List.forall_mem_nil _⟩,
    fun f h => .here (failed f h) []⟩

theorem bind {next : α → Except φ β} (hx : Settles Passes Fails stages x)
    (hnext : ∀ a, x = .ok a → Settles Passes Fails more (next a)) :
    Settles Passes Fails (stages ++ more) (x >>= next) := by
  cases outcome : x with
  | error f =>
    refine ⟨nofun, fun g h => ?_⟩
    cases h
    exact (hx.failed f outcome).append more
  | ok a =>
    have before := hx.passed a outcome
    have after := hnext a outcome
    refine ⟨fun b h => ?_, fun g h => ?_⟩
    · exact List.forall_mem_append.2 ⟨before, after.passed b h⟩
    · exact .append_left before (after.failed g h)

theorem map (hx : Settles Passes Fails stages x) (next : α → β) :
    Settles Passes Fails stages (x.map next) := by
  cases outcome : x with
  | error f =>
    refine ⟨nofun, fun g h => ?_⟩
    cases h
    exact hx.failed f outcome
  | ok a => exact .of_passed (hx.passed a outcome) (next a)

theorem ok_iff (hx : Settles Passes Fails stages x) (exclusive : Exclusive Passes Fails) :
    (∃ a, x = .ok a) ↔ ∀ stage ∈ stages, Passes stage := by
  constructor
  · rintro ⟨a, h⟩
    exact hx.passed a h
  · intro passed
    cases outcome : x with
    | ok a => exact ⟨a, rfl⟩
    | error f => exact absurd passed ((hx.failed f outcome).not_passed exclusive)

theorem error_iff (hx : Settles Passes Fails stages x) (exclusive : Exclusive Passes Fails) :
    x = .error f ↔ FirstFailure Passes Fails stages f := by
  constructor
  · exact hx.failed f
  · intro first
    cases outcome : x with
    | ok a => exact absurd (hx.passed a outcome) (first.not_passed exclusive)
    | error g => rw [(hx.failed g outcome).unique exclusive first]

end Settles

end FirstFailure

end CapturedTraffic
