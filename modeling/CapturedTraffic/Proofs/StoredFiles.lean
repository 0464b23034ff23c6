import CapturedTraffic.Proofs.CommandLine.Writing
import CapturedTraffic.Proofs.Except
import CapturedTraffic.Proofs.Exchange.Written
import CapturedTraffic.Proofs.Query.Written
import CapturedTraffic.Proofs.Scope.Written
import CapturedTraffic.Proofs.Text.Utf8

/-!
# Running on stored values

What a command does on files that hold values in written form. Each value is loaded as it was
stored, so the filter command selects among the stored exchanges, by the stored rules and the
stored expression.
-/
namespace CapturedTraffic.CommandLine

open Text Json Query

variable {files : Files} {path : String}

/-- Whether a file holds the printed form of a value. -/
def Stores (files : Files) (path : String) (v : Value) : Prop :=
  bytesAt files path = .ok (Utf8.encode v.render)

theorem load_of_stores {α : Type} {v : Value} (h : Stores files path v) {read? : String → Option α}
    {a : α} (back : read? v.render = some a) (subject : Subject) :
    load files subject read? path = .ok a := by
  have text : readText files subject path = .ok v.render := by
    rw [readText, h]
    simp only [Utf8.decode?_encode]
  rw [load, text]
  simp only [Bind.bind, Except.bind, back]

theorem loadExchanges_of_stores {all : List Exchange}
    (h : Stores files path (Exchange.allToJson all))
    (urls : ∀ e ∈ all, ∀ url ∈ e.url, Url.parse? url.text = some url) :
    loadExchanges files path = .ok all :=
  load_of_stores h (Exchange.readAll?_allToJson urls) .exchanges

theorem loadExpression_of_stores {x : Expression} (h : Stores files path x.toJson)
    (low : x.height ≤ 63) : loadExpression files path = .ok x := by
  apply load_of_stores h
  rw [Expression.read?_toJson, if_pos low]

theorem loadScope_of_stores {config : Scope.Config} {scope : Scope}
    (h : Stores files path config.toJson) (compiled : config.compile = .ok scope) :
    loadScope files path = .ok scope := by
  have config := load_of_stores h (Scope.Config.read?_toJson config) .scope
  rw [loadScope, config]
  simp only [Bind.bind, Except.bind, compiled, mapError_ok]

/-- What is written about a selection: the identifiers of what is kept, or nothing but the fault. -/
def Outcome.ofSelection : Except Fault (List Exchange) → Outcome
  | .ok kept => ⟨lines (kept.map fun e => e.id.text), none⟩
  | .error fault => ⟨"", some (.evaluation fault)⟩

theorem select_of_loaded {all : List Exchange} (loaded : loadExchanges files path = .ok all)
    (f : Filter) (scope : Scope) :
    .ofLines (select files path f scope) = Outcome.ofSelection (f.select scope all) := by
  rw [select, loaded]
  cases selected : f.select scope all <;>
    simp only [Bind.bind, Except.bind, selected, mapError_ok, mapError_error, Outcome.ofLines,
      Outcome.ofSelection]

theorem loadOptional_some {α : Type} {load : String → Except Failure α} {a : α}
    (h : load path = .ok a) : loadOptional load (some path) = .ok (some a) := by
  rw [loadOptional, h]
  rfl

/--
The filter command on stored exchanges, and rules and an expression that are stored or not given,
has the outcome of selecting among the exchanges themselves.
-/
theorem run_filter_of_stores (files : Files) (exchanges : String) (all : List Exchange)
    (rules : Option (String × Scope.Config)) (query : Option (String × Expression)) (scope : Scope)
    (hall : Stores files exchanges (Exchange.allToJson all))
    (hrules : ∀ r ∈ rules, Stores files r.1 r.2.toJson)
    (hquery : ∀ q ∈ query, Stores files q.1 q.2.toJson)
    (compiled : (rules.map fun r => r.2.compile).getD (.ok .empty) = .ok scope)
    (low : ∀ q ∈ query, q.2.height ≤ 63)
    (urls : ∀ e ∈ all, ∀ url ∈ e.url, Url.parse? url.text = some url) :
    (Command.filter exchanges (rules.map Prod.fst) (query.map Prod.fst)).run files =
      match Filter.select ⟨rules.isSome, query.map Prod.snd⟩ scope all with
      | .ok kept => ⟨String.join (kept.map fun e => e.id.text ++ "\n"), none⟩
      | .error fault => ⟨"", some (.evaluation fault)⟩ := by
  have loadedQuery : loadOptional (loadExpression files) (query.map Prod.fst) =
      .ok (query.map Prod.snd) := by
    cases query with
    | none => rfl
    | some q => exact loadOptional_some (loadExpression_of_stores (hquery q rfl) (low q rfl))
  have loadedRules : loadOptional (loadScope files) (rules.map Prod.fst) =
      .ok (rules.map fun _ => scope) := by
    cases rules with
    | none => rfl
    | some r => exact loadOptional_some (loadScope_of_stores (hrules r rfl) compiled)
  have chosen : (rules.map fun _ => scope).getD .empty = scope := by
    cases rules with
    | none => exact Except.ok.inj compiled
    | some r => rfl
  rw [run_of_loaded _ _ rfl loadedQuery loadedRules, Option.isSome_map, chosen,
    select_of_loaded (loadExchanges_of_stores hall urls)]
  cases Filter.select ⟨rules.isSome, query.map Prod.snd⟩ scope all with
  | error fault => rfl
  | ok kept => simp [Outcome.ofSelection, lines, List.map_map, Function.comp_def]

/-- Of three stored exchanges one is out of scope, one does not match, and one is kept. -/
theorem run_filter_of_stores_kept :
    let request := Exchange.new ⟨0x123, by decide⟩ "GET" (some ⟨"app://b/c?d"⟩)
    let kept := ((request.withHeader "Accept" "a").withHeader "accept" "b").withBody [97, 98]
    let all := [request, kept.withResponse (.new 200 "OK"), { kept with method := "POST" }]
    let config : Scope.Config := ⟨[⟨none, none, some (.contains "b")⟩]⟩
    let pattern := (SearchPattern.compile "GE").toOption.get (by decide +kernel)
    let x : Expression := .infixOp .matching (.literal "req.method") (.regex pattern)
    let files : Files := fun path => .ok <| Utf8.encode <| Value.render <|
      if path = "query" then x.toJson
      else if path = "scope" then config.toJson
      else Exchange.allToJson all
    Stores files "logs" (Exchange.allToJson all) ∧ Stores files "scope" config.toJson ∧
      Stores files "query" x.toJson ∧
      config.compile = .ok ⟨[⟨none, .empty, some (.contains [98])⟩]⟩ ∧
      x.height ≤ 63 ∧ (∀ e ∈ all, ∀ url ∈ e.url, Url.parse? url.text = some url) ∧
      (Command.filter "logs" (some "scope") (some "query")).run files =
        ⟨"00000000-0000-0000-0000-000000000123\n", none⟩ := by
  intro request kept all config pattern x files
  have hall : Stores files "logs" (Exchange.allToJson all) := rfl
  have hconfig : Stores files "scope" config.toJson := rfl
  have hquery : Stores files "query" x.toJson := rfl
  have compiled : config.compile = .ok ⟨[⟨none, .empty, some (.contains [98])⟩]⟩ := rfl
  have low : x.height ≤ 63 := by decide
  have urls : ∀ e ∈ all, ∀ url ∈ e.url, Url.parse? url.text = some url := by decide +kernel
  have run := run_filter_of_stores files "logs" all (some ("scope", config)) (some ("query", x)) _
    hall (by rintro r ⟨rfl⟩; exact hconfig) (by rintro q ⟨rfl⟩; exact hquery) compiled
    (by rintro q ⟨rfl⟩; exact low) urls
  refine ⟨hall, hconfig, hquery, compiled, low, urls, ?_⟩
  exact run.trans (by decide +kernel)

end CapturedTraffic.CommandLine
