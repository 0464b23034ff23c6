import CapturedTraffic.Proofs.Selection
import CapturedTraffic.Proofs.StoredFiles

/-!
# How the subcommands agree

The search and the scope command are the filter command with one of its settings left out, whatever
the files hold. Where both succeed on the same exchanges, the filter command with both settings
writes what both of them write.
-/
namespace CapturedTraffic.CommandLine

open Query

variable {files : Files} {exchanges scope expression : String}

/-- What is written where the exchanges that satisfy a condition pass, in their order. -/
def passing (all : List Exchange) (keep : Exchange → Bool) : Outcome :=
  ⟨lines ((all.filter keep).map fun e => e.id.text), none⟩

theorem select_of_total {f : Filter} {s : Scope} {all : List Exchange} {keep : Exchange → Bool}
    (loaded : loadExchanges files exchanges = .ok all)
    (total : ∀ e ∈ all, ∀ x ∈ f.expression, ∃ b, x.evaluate e = .ok b)
    (same : ∀ e, f.keeps s e = keep e) :
    .ofLines (select files exchanges f s) = passing all keep := by
  have selected : f.select s all = .ok (all.filter (f.keeps s)) :=
    Filter.select_eq_ok_iff.2 ⟨fun e he => Filter.accepts_total (total e he), rfl⟩
  rw [funext same] at selected
  rw [select_of_loaded loaded, selected]
  rfl

theorem select_succeeds {f : Filter} {s : Scope}
    (h : (Outcome.ofLines (select files exchanges f s)).failure = none) :
    ∃ all, loadExchanges files exchanges = .ok all ∧ ∀ e ∈ all, ∃ b, f.accepts s e = .ok b := by
  obtain ⟨texts, written⟩ := Outcome.ofLines_succeeds h
  rw [select, bind_eq_ok_iff] at written
  obtain ⟨all, loaded, selected⟩ := written
  rw [bind_eq_ok_iff] at selected
  obtain ⟨kept, selected, _⟩ := selected
  exact ⟨all, loaded, (Filter.select_eq_ok_iff.1 (mapError_eq_ok_iff.1 selected)).1⟩

theorem run_search {x : Expression} (h : loadExpression files expression = .ok x) :
    (Command.search exchanges expression).run files =
      .ofLines (select files exchanges ⟨false, some x⟩ .empty) :=
  run_of_loaded (some x) none rfl (loadOptional_some h) rfl

theorem run_scope {s : Scope} (h : loadScope files scope = .ok s) :
    (Command.scope exchanges scope).run files =
      .ofLines (select files exchanges ⟨true, none⟩ s) :=
  run_of_loaded none (some s) rfl rfl (loadOptional_some h)

theorem run_filter {s : Scope} {x : Expression} (hs : loadScope files scope = .ok s)
    (hx : loadExpression files expression = .ok x) :
    (Command.filter exchanges (some scope) (some expression)).run files =
      .ofLines (select files exchanges ⟨true, some x⟩ s) :=
  run_of_loaded (some x) (some s) rfl (loadOptional_some hx) (loadOptional_some hs)

theorem run_filter_expression (files : Files) (exchanges expression : String) :
    (Command.filter exchanges none (some expression)).run files =
      (Command.search exchanges expression).run files := by
  rw [Command.run_eq, Command.run_eq]
  rfl

theorem run_filter_scope (files : Files) (exchanges scope : String) :
    (Command.filter exchanges (some scope) none).run files =
      (Command.scope exchanges scope).run files := by
  rw [Command.run_eq, Command.run_eq]
  rfl

theorem run_filter_plain (files : Files) (exchanges : String) :
    (Command.filter exchanges none none).run files =
      .ofLines ((loadExchanges files exchanges).map fun all => all.map fun e => e.id.text) := by
  have everything (all : List Exchange) : Filter.empty.select .empty all = .ok all := by
    have kept : Filter.empty.select .empty all = .ok (all.filter fun _ => true) :=
      Filter.select_of_accepts fun _ _ => rfl
    rw [kept, List.filter_eq_self.2 (by simp)]
  have run : (Command.filter exchanges none none).run files =
      .ofLines (select files exchanges .empty .empty) :=
    run_of_loaded none none rfl rfl rfl
  rw [run, select]
  cases loadExchanges files exchanges with
  | error failure => rfl
  | ok all => simp only [Bind.bind, Except.bind, everything]; rfl

theorem run_search_succeeds
    (h : ((Command.search exchanges expression).run files).failure = none) :
    ∃ x all, loadExpression files expression = .ok x ∧ loadExchanges files exchanges = .ok all ∧
      ∀ e ∈ all, ∃ b, x.evaluate e = .ok b := by
  obtain ⟨texts, written⟩ := run_failure_eq_none_iff.1 h
  obtain ⟨_, hx, _⟩ := bind_eq_ok_iff.1 written
  obtain ⟨x, hx, _⟩ := map_eq_ok_iff.1 hx
  rw [run_search hx] at h
  obtain ⟨all, loaded, each⟩ := select_succeeds h
  exact ⟨x, all, hx, loaded, each⟩

theorem run_scope_succeeds (h : ((Command.scope exchanges scope).run files).failure = none) :
    ∃ s, loadScope files scope = .ok s := by
  obtain ⟨texts, written⟩ := run_failure_eq_none_iff.1 h
  obtain ⟨_, _, written⟩ := bind_eq_ok_iff.1 written
  obtain ⟨_, hs, _⟩ := bind_eq_ok_iff.1 written
  obtain ⟨s, hs, _⟩ := map_eq_ok_iff.1 hs
  exact ⟨s, hs⟩

/--
The filter command with one setting is the command for that setting, failures included. Where the
search and the scope command both succeed, the filter command with both settings succeeds and
writes what both of them write, in the same order; without settings everything is written.
-/
theorem subcommands_agree (files : Files) (exchanges scope expression : String) :
    (Command.filter exchanges none (some expression)).run files =
        (Command.search exchanges expression).run files ∧
      (Command.filter exchanges (some scope) none).run files =
        (Command.scope exchanges scope).run files ∧
      (((Command.scope exchanges scope).run files).failure = none →
        ((Command.search exchanges expression).run files).failure = none →
        ∃ all s x, loadExchanges files exchanges = .ok all ∧ loadScope files scope = .ok s ∧
          loadExpression files expression = .ok x ∧
          (Command.scope exchanges scope).run files = passing all (fun e => s.contains e) ∧
          (Command.search exchanges expression).run files =
            passing all (fun e => (x.evaluate e).toOption = some true) ∧
          (Command.filter exchanges (some scope) (some expression)).run files =
            passing all fun e => s.contains e ∧ (x.evaluate e).toOption = some true) ∧
      (Command.filter exchanges none none).run files =
        .ofLines ((loadExchanges files exchanges).map fun all => all.map fun e => e.id.text) := by
  refine ⟨run_filter_expression .., run_filter_scope .., ?_, run_filter_plain ..⟩
  intro inside found
  obtain ⟨s, hs⟩ := run_scope_succeeds inside
  obtain ⟨x, all, hx, loaded, each⟩ := run_search_succeeds found
  have total : ∀ e ∈ all, ∀ y ∈ some x, ∃ b, y.evaluate e = .ok b := by
    rintro e he y ⟨rfl⟩
    exact each e he
  refine ⟨all, s, x, loaded, hs, hx, ?_, ?_, ?_⟩
  · rw [run_scope hs]
    exact select_of_total loaded (by simp) fun e => by simp [Filter.keeps, Filter.reaches]
  · rw [run_search hx]
    exact select_of_total loaded total fun e => by simp [Filter.keeps, Filter.reaches]
  · rw [run_filter hs hx]
    exact select_of_total loaded total fun e => by simp [Filter.keeps, Filter.reaches]

/-- Two exchanges found, of which one is in scope. -/
theorem subcommands_agree_in_scope :
    let e := Exchange.new ⟨1, by decide⟩ "GET" none
    let all := [e, e.withBody [97]]
    let config : Scope.Config := ⟨[⟨none, none, some (.contains "a")⟩]⟩
    let x : Expression := .infixOp .equal (.literal "req.method") (.literal "GET")
    let files : Files := fun path => .ok <| Text.Utf8.encode <| Json.Value.render <|
      if path = "query" then x.toJson
      else if path = "scope" then config.toJson
      else Exchange.allToJson all
    ((Command.scope "logs" "scope").run files).failure = none ∧
      ((Command.search "logs" "query").run files).failure = none ∧
      ∃ all s x, loadExchanges files "logs" = .ok all ∧ loadScope files "scope" = .ok s ∧
        loadExpression files "query" = .ok x ∧
        (Command.filter "logs" (some "scope") (some "query")).run files =
          passing all fun e => s.contains e ∧ (x.evaluate e).toOption = some true := by
  intro e all config x files
  have loaded : loadExchanges files "logs" = .ok all :=
    loadExchanges_of_stores rfl (by decide)
  have rules : Stores files "scope" config.toJson := rfl
  have hs : loadScope files "scope" = .ok ⟨[⟨none, .empty, some (.contains [97])⟩]⟩ :=
    loadScope_of_stores rules rfl
  have hx : loadExpression files "query" = .ok x := loadExpression_of_stores rfl (by decide)
  have inside : ((Command.scope "logs" "scope").run files).failure = none := by
    rw [run_scope hs, select_of_loaded loaded]
    decide +kernel
  have found : ((Command.search "logs" "query").run files).failure = none := by
    rw [run_search hx, select_of_loaded loaded]
    decide +kernel
  obtain ⟨all, s, x, loaded, hs, hx, _, _, both⟩ :=
    (subcommands_agree files "logs" "scope" "query").2.2.1 inside found
  exact ⟨inside, found, all, s, x, loaded, hs, hx, both⟩

end CapturedTraffic.CommandLine
