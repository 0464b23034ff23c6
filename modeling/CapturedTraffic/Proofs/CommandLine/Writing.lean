import CapturedTraffic.CommandLine.Run

/-!
# What a command writes

A command writes its lines one by one, behind what has been written before. All that can fail comes
first: whatever the command, it finds its lines in one order, and then writes them. So all of them
are written, or a failure leaves the output as it was.
-/
namespace CapturedTraffic.CommandLine

def lines (texts : List String) : String := String.join (texts.map (· ++ "\n"))

/-- The identifiers of the exchanges that pass a filter. -/
def select (files : Files) (exchanges : String) (filter : Filter) (scope : Scope) :
    Except Failure (List String) := do
  let all ← loadExchanges files exchanges
  let kept ← (filter.select scope all).mapError .evaluation
  .ok (kept.map fun e => e.id.text)

/-- The file that a command reads for a purpose, if it reads one for it. -/
def Command.path? : Command → Subject → Option String
  | search exchanges _, .exchanges => some exchanges
  | search _ expression, .expression => some expression
  | search .., .scope => none
  | scope exchanges _, .exchanges => some exchanges
  | scope .., .expression => none
  | scope _ rules, .scope => some rules
  | filter exchanges _ _, .exchanges => some exchanges
  | filter _ _ expression, .expression => expression
  | filter _ rules _, .scope => rules
  | fields, _ => none

/-- The lines of a command. All commands that read exchanges find them in the same order. -/
def output (files : Files) (c : Command) : Except Failure (List String) :=
  match c.path? .exchanges with
  | none => .ok (Query.Field.requestNames ++ Query.Field.responseNames)
  | some exchanges => do
    let expression ← loadOptional (loadExpression files) (c.path? .expression)
    let scope ← loadOptional (loadScope files) (c.path? .scope)
    select files exchanges ⟨scope.isSome, expression⟩ (scope.getD .empty)

/-- All lines, or none and the failure. -/
def Outcome.ofLines : Except Failure (List String) → Outcome
  | .ok texts => ⟨lines texts, none⟩
  | .error failure => ⟨"", some failure⟩

variable {files : Files} {c : Command}

theorem lines_cons (text : String) (texts : List String) :
    lines (text :: texts) = text ++ "\n" ++ lines texts := by
  rw [lines, List.map_cons, String.join_cons, lines]

/-- Lines are written behind what has been written. -/
theorem run_forM_writeLine (texts : List String) (written : String) :
    (forM texts writeLine : Writing Unit).run.run written = (.ok (), written ++ lines texts) := by
  -- what the first line leaves is what the others are written behind
  induction texts generalizing written with
  | nil =>
    have same : written ++ lines [] = written := String.append_empty
    rw [List.forM_nil, same]
    rfl
  | cons text rest ih =>
    have first : (writeLine text).run.run written = (.ok (), written ++ (text ++ "\n")) := rfl
    rw [List.forM_cons, ExceptT.run_bind, StateT.run_bind, first, lines_cons]
    exact (ih _).trans (by rw [String.append_assoc])

theorem lift_ok_bind {α β : Type} (a : α) (next : α → Writing β) :
    (liftM (Except.ok a : Except Failure α) : Writing α) >>= next = next a := rfl

/-- A filter is run by selecting all and then writing all. -/
theorem runFilter_eq (exchanges : String) (filter : Filter) (scope : Scope) :
    runFilter files exchanges filter scope = (do
      let texts ← select files exchanges filter scope
      forM texts writeLine) := by
  rw [runFilter, select]
  simp only [liftM_bind, bind_assoc, lift_ok_bind, List.forM_map]

/-- Each command finds its lines in the common order and then writes them. -/
theorem Command.perform_eq (files : Files) (c : Command) :
    c.perform files = (do
      let texts ← output files c
      forM texts writeLine) := by
  cases c with
  | search exchanges expression =>
    simp only [perform, runFilter_eq, output, path?, loadOptional]
    cases loadExpression files expression <;> rfl
  | scope exchanges rules =>
    simp only [perform, runFilter_eq, output, path?, loadOptional]
    cases loadScope files rules <;> rfl
  | filter exchanges rules expression =>
    simp only [perform, runFilter_eq, output, path?, liftM_bind, bind_assoc]
  | fields => rw [perform, output, path?, lift_ok_bind, List.forM_append]

/-- On any output, a command writes all its lines or fails and writes none. -/
theorem Command.run_perform (files : Files) (c : Command) (written : String) :
    (c.perform files).run.run written =
      match output files c with
      | .ok texts => (.ok (), written ++ lines texts)
      | .error failure => (.error failure, written) := by
  rw [perform_eq]
  cases output files c with
  | error failure => rfl
  | ok texts => exact run_forM_writeLine texts written

theorem Command.run_eq (files : Files) (c : Command) : c.run files = .ofLines (output files c) := by
  rw [run, Writing.outcome, run_perform]
  cases output files c with
  | error failure => rfl
  | ok texts => simp [Outcome.ofLines]

/-- What a command does once its expression and its scope are loaded. -/
theorem run_of_loaded {exchanges : String} (x : Option Query.Expression) (scope : Option Scope)
    (given : c.path? .exchanges = some exchanges)
    (hx : loadOptional (loadExpression files) (c.path? .expression) = .ok x)
    (hs : loadOptional (loadScope files) (c.path? .scope) = .ok scope) :
    c.run files = .ofLines (select files exchanges ⟨scope.isSome, x⟩ (scope.getD .empty)) := by
  rw [Command.run_eq, output, given]
  simp only [hx, hs, Bind.bind, Except.bind]

theorem Outcome.ofLines_succeeds {r : Except Failure (List String)}
    (h : (Outcome.ofLines r).failure = none) : ∃ texts, r = .ok texts := by
  cases r with
  | error failure => cases h
  | ok texts => exact ⟨texts, rfl⟩

theorem run_failure_eq_some_iff {f : Failure} :
    (c.run files).failure = some f ↔ output files c = .error f := by
  rw [Command.run_eq]
  cases output files c <;> simp [Outcome.ofLines]

theorem run_failure_eq_none_iff :
    (c.run files).failure = none ↔ ∃ texts, output files c = .ok texts := by
  rw [Command.run_eq]
  constructor
  · exact Outcome.ofLines_succeeds
  · rintro ⟨texts, written⟩
    rw [written, Outcome.ofLines]

end CapturedTraffic.CommandLine
