import CapturedTraffic.Proofs.Query.Chain
import CapturedTraffic.Proofs.Selection

/-!
# Filtering in stages

What two filters keep one after the other is what one filter keeps that asks for both, provided
that no expression is at fault for an exchange listed. So the order of the stages is free, and a
stage that is repeated drops nothing. Lists can be cut up before they are filtered, whatever the
filter: the parts are filtered one after another, up to the first fault.
-/
namespace CapturedTraffic

open Query

namespace Query.Expression

variable {all : List Exchange} {x y : Expression}

/-- Whether an expression is at fault for no exchange listed. -/
def SoundFor (all : List Exchange) (x : Expression) : Prop := ∀ e ∈ all, ∃ b, x.evaluate e = .ok b

theorem SoundFor.of_wellFormed (hx : x.WellFormed) (all : List Exchange) : x.SoundFor all :=
  fun e _ => ⟨_, evaluate_of_wellFormed hx e⟩

theorem SoundFor.conjunction (hx : x.SoundFor all) (hy : y.SoundFor all) :
    (x.conjunction y).SoundFor all := by
  intro e he
  obtain ⟨a, left⟩ := hx e he
  obtain ⟨b, right⟩ := hy e he
  exact ⟨_, evaluate_connective (by decide) left right⟩

/-- A conjunction is true if both parts are, and so not if one of them is at fault. -/
theorem isTrue_conjunction (x y : Expression) (e : Exchange) :
    (x.conjunction y).isTrue e = (x.isTrue e && y.isTrue e) := by
  have hop : Operator.and ∈ Operator.connectives := by decide
  cases left : x.evaluate e with
  | error fault =>
    have whole : (x.conjunction y).evaluate e = .error fault := evaluate_left_fault hop left y
    simp [isTrue, left, whole, Except.toOption]
  | ok a =>
    cases right : y.evaluate e with
    | error fault =>
      have whole : (x.conjunction y).evaluate e = .error fault :=
        evaluate_right_fault hop left right
      simp [isTrue, right, whole, Except.toOption]
    | ok b =>
      have whole : (x.conjunction y).evaluate e = .ok (a && b) :=
        evaluate_connective hop left right
      simp [isTrue, left, right, whole, Except.toOption]

end Query.Expression

namespace Filter

variable {f g : Filter} {scope : Scope} {all kept : List Exchange}

/-- The filter that asks for all that two filters ask for. -/
def both (f g : Filter) : Filter :=
  ⟨f.onlyInScope || g.onlyInScope, f.expression.merge .conjunction g.expression⟩

theorem keeps_eq (f : Filter) (scope : Scope) (e : Exchange) :
    f.keeps scope e = (f.reaches scope e && f.expression.all fun x => x.isTrue e) := rfl

theorem reaches_both (f g : Filter) (scope : Scope) (e : Exchange) :
    (f.both g).reaches scope e = (f.reaches scope e && g.reaches scope e) := by
  rw [reaches, both, Bool.not_or, Bool.or_and_distrib_right]
  rfl

theorem all_isTrue_merge (o other : Option Expression) (e : Exchange) :
    ((o.merge .conjunction other).all fun x => x.isTrue e) =
      ((o.all fun x => x.isTrue e) && other.all fun x => x.isTrue e) := by
  cases o <;> cases other <;> simp [Expression.isTrue_conjunction]

theorem keeps_both (f g : Filter) (scope : Scope) (e : Exchange) :
    (f.both g).keeps scope e = (f.keeps scope e && g.keeps scope e) := by
  rw [keeps_eq, keeps_eq, keeps_eq, reaches_both, both, all_isTrue_merge]
  simp only [Bool.and_assoc, Bool.and_left_comm]

/-- Whether the expression of a filter, if it has one, is at fault for no exchange listed. -/
def SoundFor (f : Filter) (all : List Exchange) : Prop := ∀ x ∈ f.expression, x.SoundFor all

theorem SoundFor.both (hf : f.SoundFor all) (hg : g.SoundFor all) : (f.both g).SoundFor all := by
  obtain ⟨_, expression⟩ := f
  obtain ⟨_, other⟩ := g
  cases expression with
  | none => cases other <;> exact hg
  | some x =>
    cases other with
    | none => exact hf
    | some y =>
      rintro _ ⟨rfl⟩
      exact (hf x rfl).conjunction (hg y rfl)

theorem SoundFor.filter (h : f.SoundFor all) (keep : Exchange → Bool) :
    f.SoundFor (all.filter keep) :=
  fun x hx e he => h x hx e (List.mem_filter.1 he).1

theorem SoundFor.select {keep : Exchange → Bool} (h : f.SoundFor all)
    (same : ∀ e, f.keeps scope e = keep e) : f.select scope all = .ok (all.filter keep) := by
  rw [← funext same]
  exact select_eq_ok_iff.2 ⟨fun e he => accepts_total fun x hx => h x hx e he, rfl⟩

/-- Two stages keep what the filter that asks for both keeps. -/
theorem SoundFor.select_bind_select (hf : f.SoundFor all) (hg : g.SoundFor all) (scope : Scope) :
    (f.select scope all >>= g.select scope) = (f.both g).select scope all := by
  have first : f.select scope all = .ok (all.filter (f.keeps scope)) := hf.select fun _ => rfl
  have second : g.select scope (all.filter (f.keeps scope)) =
      .ok ((all.filter (f.keeps scope)).filter (g.keeps scope)) :=
    (hg.filter (f.keeps scope)).select fun _ => rfl
  rw [first, (hf.both hg).select (keeps_both f g scope)]
  refine second.trans (congrArg Except.ok ?_)
  rw [List.filter_filter]
  exact List.filter_congr fun e _ => Bool.and_comm _ _

theorem SoundFor.staged {keep : Exchange → Bool} (hf : f.SoundFor all) (hg : g.SoundFor all)
    (same : ∀ e, (f.keeps scope e && g.keeps scope e) = keep e) :
    (f.select scope all >>= g.select scope) = .ok (all.filter keep) := by
  rw [hf.select_bind_select hg]
  exact (hf.both hg).select fun e => (keeps_both f g scope e).trans (same e)

/-- What a filter has kept it keeps. -/
theorem select_of_select (h : f.select scope all = .ok kept) : f.select scope kept = .ok kept := by
  obtain ⟨each, rfl⟩ := select_eq_ok_iff.1 h
  refine select_eq_ok_iff.2 ⟨fun e he => each e (List.mem_filter.1 he).1, ?_⟩
  rw [List.filter_filter]
  simp only [Bool.and_self]

theorem select_append (f : Filter) (scope : Scope) (all others : List Exchange) :
    f.select scope (all ++ others) =
      match f.select scope all, f.select scope others with
      | .error fault, _ => .error fault
      | .ok _, .error fault => .error fault
      | .ok kept, .ok more => .ok (kept ++ more) := by
  induction all with
  | nil =>
    rw [List.nil_append, select]
    cases f.select scope others <;> rfl
  | cons e rest ih =>
    rw [List.cons_append]
    cases first : f.accepts scope e with
    | error fault => rw [select_cons_of_error first, select_cons_of_error first]
    | ok keep =>
      rw [select_cons_of_ok first, select_cons_of_ok first, ih]
      cases f.select scope rest with
      | error fault => rfl
      | ok kept =>
        cases f.select scope others with
        | error fault => rfl
        | ok more => cases keep <;> rfl

/--
Of expressions that are at fault for no exchange listed, two stages keep what the conjunction keeps,
in either order, and a stage for the scope and one for an expression keep what the filter with both
keeps. A filter drops nothing that it has kept before. A filter of any sort fails for lists put
together with the fault of the first list, or else of the second, and keeps what it keeps of both
if neither is at fault.
-/
theorem select_staged (scope : Scope) (all : List Exchange) :
    (∀ x y : Expression, x.SoundFor all → y.SoundFor all →
      ∃ kept, kept = all.filter (fun e => x.isTrue e && y.isTrue e) ∧
        select ⟨false, some (x.conjunction y)⟩ scope all = .ok kept ∧
        (select ⟨false, some x⟩ scope all >>= select ⟨false, some y⟩ scope) = .ok kept ∧
        (select ⟨false, some y⟩ scope all >>= select ⟨false, some x⟩ scope) = .ok kept) ∧
    (∀ x : Expression, x.SoundFor all →
      ∃ kept, kept = all.filter (fun e => scope.contains e && x.isTrue e) ∧
        select ⟨true, some x⟩ scope all = .ok kept ∧
        (select ⟨true, none⟩ scope all >>= select ⟨false, some x⟩ scope) = .ok kept ∧
        (select ⟨false, some x⟩ scope all >>= select ⟨true, none⟩ scope) = .ok kept) ∧
    (∀ f kept, select f scope all = .ok kept → select f scope kept = .ok kept) ∧
    (∀ f others, select f scope (all ++ others) =
      match select f scope all, select f scope others with
      | .error fault, _ => .error fault
      | .ok _, .error fault => .error fault
      | .ok kept, .ok more => .ok (kept ++ more)) := by
  have single (x : Expression) (hx : x.SoundFor all) (inScope : Bool) :
      SoundFor ⟨inScope, some x⟩ all := by
    rintro _ ⟨rfl⟩
    exact hx
  have plain : SoundFor ⟨true, none⟩ all := nofun
  refine ⟨fun x y hx hy => ?_, fun x hx => ?_, fun f kept => select_of_select,
    fun f => select_append f scope all⟩
  · have first := single x hx false
    have second := single y hy false
    have once := single _ (hx.conjunction hy) false
    refine ⟨_, rfl, once.select fun e => ?_, first.staged second fun e => ?_,
      second.staged first fun e => ?_⟩
    · simp [keeps_eq, reaches, Expression.isTrue_conjunction]
    · simp [keeps_eq, reaches]
    · simp [keeps_eq, reaches, Bool.and_comm]
  · have second := single x hx false
    have once := single x hx true
    refine ⟨_, rfl, once.select fun e => ?_, plain.staged second fun e => ?_,
      second.staged plain fun e => ?_⟩
    · simp [keeps_eq, reaches]
    · simp [keeps_eq, reaches]
    · simp [keeps_eq, reaches, Bool.and_comm]

/-- One exchange is in scope but of another method, one out of scope; the fault is met after it. -/
theorem select_staged_twice :
    let outside := Exchange.new ⟨0, by decide⟩ "GET" none
    let inside := outside.withBody [97]
    let posted := (Exchange.new ⟨1, by decide⟩ "POST" none).withBody [97]
    let all := [inside, posted, outside, inside]
    let scope : Scope := ⟨[Scope.Rule.empty.withBody (.contains [97])]⟩
    let x : Expression := .infixOp .equal (.literal "req.method") (.literal "GET")
    let y : Expression := .infixOp .equal (.literal "req.body") (.literal "a")
    let faulty : Expression := .prefixOp .and x
    x.SoundFor all ∧ y.SoundFor all ∧
      (select ⟨false, some x⟩ scope all >>= select ⟨false, some y⟩ scope) =
        .ok [inside, inside] ∧
      (select ⟨false, some x⟩ scope all >>= select ⟨true, none⟩ scope) = .ok [inside, inside] ∧
      select ⟨true, some x⟩ scope all = .ok [inside, inside] ∧
      select ⟨true, some x⟩ scope [inside, inside] = .ok [inside, inside] ∧
      select ⟨true, some faulty⟩ scope ([outside] ++ all) = .error (.unsupportedOperator .and) := by
  intro outside inside posted all scope x y faulty
  have hx : x.SoundFor all := .of_wellFormed (.comparison (by decide) "req.method" "GET") all
  have hy : y.SoundFor all := .of_wellFormed (.comparison (by decide) "req.body" "a") all
  obtain ⟨expressions, withScope, again, _⟩ := select_staged scope all
  obtain ⟨_, _, _, parts⟩ := select_staged scope [outside]
  obtain ⟨_, rfl, _, twice, _⟩ := expressions x y hx hy
  obtain ⟨_, rfl, once, _, scopeLast⟩ := withScope x hx
  have bothKept : all.filter (fun e => x.isTrue e && y.isTrue e) = [inside, inside] := by
    decide +kernel
  have scopeKept : all.filter (fun e => scope.contains e && x.isTrue e) = [inside, inside] := by
    decide +kernel
  rw [bothKept] at twice
  rw [scopeKept] at once scopeLast
  exact ⟨hx, hy, twice, scopeLast, once, again _ _ once, (parts _ all).trans rfl⟩

end Filter

end CapturedTraffic
