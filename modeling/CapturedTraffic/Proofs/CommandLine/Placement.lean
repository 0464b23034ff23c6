import CapturedTraffic.Proofs.CommandLine.Options
import CapturedTraffic.Proofs.CommandLine.Requirements

/-!
# The placement of options

Options may stand in any order after the command, and those of logging before it as well: what is
read is always the same command with the same values. A command without one of the settings that it
requires is never run, however the arguments are written.
-/
namespace CapturedTraffic.CommandLine

/-- The options that ask for a command. -/
def Command.choices : Command → List Choice
  | search exchanges expression => [.value .exchanges exchanges, .value .expression expression]
  | scope exchanges rules => [.value .exchanges exchanges, .value .scope rules]
  | filter exchanges rules expression =>
    .value .exchanges exchanges :: (rules.toList.map (Choice.value .scope) ++
      expression.toList.map (Choice.value .expression))
  | fields => []

/-- The options that ask for a way of logging. -/
def loggingChoices (level : Option String) (json : Bool) : List Choice :=
  level.toList.map (Choice.value .logLevel) ++ if json then [.jsonLogs] else []

section Written

variable {name : CommandName} {front back : List Choice}

theorem CommandName.ofText?_text (name : CommandName) : ofText? name.text = some name := by
  cases name <;> decide

theorem CommandName.form_text (name : CommandName) : Form.of name.text = .plain := by
  cases name <;> rfl

theorem Reading.awaited?_of_settle {r t : Reading} (h : r.settle = .ok t) : r.awaited? = none := by
  unfold Reading.settle at h
  unfold Reading.awaited?
  split at h
  next none => rw [none]
  next given => cases h
  next given => rw [given]

theorem readFront_command {r t : Reading} (h : r.settle = .ok t) (name : CommandName)
    (rest : List String) : readFront r (name.text :: rest) = .ok (r, some (name, rest)) := by
  rw [readFront, name.form_text]
  simp only [Reading.awaited?_of_settle h, name.ofText?_text]

theorem GoesOn.choices {β : Type} {level : Option CommandName}
    {read : Reading → List String → Except Refusal β} (h : GoesOn level read) {choices : List Choice}
    (once : (choices.map Choice.setting?).Nodup) (known : ∀ choice ∈ choices, choice.KnownAt level)
    (plain : ∀ choice ∈ choices, choice.Plain) (rest : List String) :
    ∃ t, t.settle = .ok (.of choices) ∧
      read .empty (choices.flatMap Choice.written ++ rest) = read t rest := by
  have start : Reading.empty.settle = .ok (.of []) := rfl
  obtain ⟨t, taken, settled⟩ := Reading.foldlM_take start once plain
  exact ⟨t, settled, by rw [h.allWritten known plain, taken]; rfl⟩

/-- Options that are written once each are read as what was written, on both sides of the command. -/
theorem Arguments.read_written (once : ((front ++ back).map Choice.setting?).Nodup)
    (before : ∀ choice ∈ front, choice.KnownAt none)
    (after : ∀ choice ∈ back, choice.KnownAt (some name))
    (plain : ∀ choice ∈ front ++ back, choice.Plain) :
    read (front.flatMap Choice.written ++ name.text :: back.flatMap Choice.written) =
      match command? name (.of back) with
      | some command => .ok ⟨((Reading.of (front ++ back)).value? .logLevel).getD defaultLogLevel,
          (Reading.of (front ++ back)).jsonLogs, command⟩
      | none => .error .missingSetting := by
  obtain ⟨plainFront, plainBack⟩ := List.forall_mem_append.1 plain
  rw [List.map_append] at once
  obtain ⟨onceFront, onceBack, _⟩ := List.nodup_append.1 once
  obtain ⟨f, settledFront, readsFront⟩ := readFront_goesOn.choices onceFront before plainFront
    (name.text :: back.flatMap Choice.written)
  obtain ⟨b, settledBack, readsBack⟩ :=
    (readSettings_goesOn name).choices onceBack after plainBack []
  rw [List.append_nil] at readsBack
  have command : readCommand name (back.flatMap Choice.written) =
      match command? name (.of back) with
      | some command => .ok (.of back, command)
      | none => .error .missingSetting := by
    rw [readCommand, readsBack, readSettings]
    cases own : command? name (.of back) with
    | none => simp only [bind, Except.bind, settledBack, own]
    | some command => simp only [bind, Except.bind, settledBack, own]
  rw [read, readsFront, readFront_command settledFront, Reading.value?_of_append,
    Reading.jsonLogs_of_append]
  simp only [bind, Except.bind, command]
  cases command? name (.of back) with
  | none => rfl
  | some command => simp only [settledFront]

end Written

section Asked

variable {name : CommandName} {c : Command} {level : Option String} {json : Bool} {s : Setting}
  {text : String}

theorem command?_choices (c : Command) : command? c.name (.of c.choices) = some c := by
  cases c with
  | search | scope | fields => rfl
  | filter exchanges rules expression => cases rules <;> cases expression <;> rfl

theorem setting?_choices_sublist (c : Command) :
    (c.choices.map Choice.setting?).Sublist (c.name.settings.map some) := by
  cases c with
  | search | scope | fields => exact List.Sublist.refl _
  | filter exchanges rules expression =>
    cases rules <;> cases expression <;>
      simp [Command.choices, Choice.setting?, Command.name, CommandName.settings]

theorem setting?_loggingChoices_sublist (level : Option String) (json : Bool) :
    ((loggingChoices level json).map Choice.setting?).Sublist [some .logLevel, none] := by
  cases level <;> cases json <;> simp [loggingChoices, Choice.setting?]

/-- A command and a way of logging are asked for without giving anything twice. -/
theorem nodup_setting?_choices (c : Command) (level : Option String) (json : Bool) :
    ((c.choices ++ loggingChoices level json).map Choice.setting?).Nodup := by
  have all : ∀ name : CommandName,
      (name.settings.map some ++ [some Setting.logLevel, none]).Nodup := by
    rintro (_ | _ | _ | _) <;> decide
  rw [List.map_append]
  exact (all c.name).sublist
    ((setting?_choices_sublist c).append (setting?_loggingChoices_sublist level json))

theorem logLevel_not_mem_settings : ∀ name : CommandName, Setting.logLevel ∉ name.settings := by
  rintro (_ | _ | _ | _) <;> decide

theorem value?_loggingChoices (level : Option String) (json : Bool) :
    (Reading.of (loggingChoices level json)).value? .logLevel = level := by
  cases level <;> cases json <;> rfl

theorem jsonLogs_loggingChoices (level : Option String) (json : Bool) :
    (Reading.of (loggingChoices level json)).jsonLogs = json := by
  cases level <;> cases json <;> rfl

/-- The command and the way of logging are asked for apart from each other. -/
theorem value?_loggingChoices_of_ne (h : s ≠ .logLevel) :
    (Reading.of (loggingChoices level json)).value? s = none := by
  apply Reading.value?_of_eq_none
  intro mem
  have given := (setting?_loggingChoices_sublist level json).subset mem
  simp [h] at given

theorem value?_logLevel_choices (c : Command) : (Reading.of c.choices).value? .logLevel = none := by
  apply Reading.value?_of_eq_none
  intro mem
  have given := (setting?_choices_sublist c).subset mem
  exact logLevel_not_mem_settings c.name (by simpa using given)

theorem jsonLogs_choices (c : Command) : (Reading.of c.choices).jsonLogs = false := by
  cases c with
  | search | scope | fields => rfl
  | filter exchanges rules expression => cases rules <;> cases expression <;> rfl

theorem knownAt_of_mem {choice : Choice} (h : choice ∈ c.choices ++ loggingChoices level json) :
    choice.KnownAt (some c.name) := by
  cases choice with
  | jsonLogs => trivial
  | value s text =>
    rcases List.mem_append.1 h with own | logging
    · have given := (setting?_choices_sublist c).subset (List.mem_map_of_mem own)
      obtain ⟨u, known, same⟩ := List.mem_map.1 given
      obtain rfl := Option.some.inj same
      exact List.mem_cons_of_mem _ known
    · have given := (setting?_loggingChoices_sublist level json).subset
        (List.mem_map_of_mem logging)
      have level : s = .logLevel := by simpa [Choice.setting?] using given
      exact level ▸ List.mem_cons_self

/-- Before the command no setting but that of logging is known. -/
theorem eq_logLevel_of_knownAt {choice : Choice} (known : choice.KnownAt none)
    (given : choice.setting? = some s) : s = .logLevel := by
  cases choice with
  | jsonLogs => cases given
  | value u text =>
    obtain rfl := Option.some.inj given
    exact List.mem_singleton.1 known

/-- Whatever the arrangement, the command and the way of logging are the ones asked for. -/
theorem Arguments.read_arranged {front back : List Choice}
    (arranged : (front ++ back).Perm (c.choices ++ loggingChoices level json))
    (before : ∀ choice ∈ front, choice.KnownAt none)
    (plain : ∀ choice ∈ front ++ back, choice.Plain) :
    read (front.flatMap Choice.written ++ c.name.text :: back.flatMap Choice.written) =
      .ok ⟨level.getD defaultLogLevel, json, c⟩ := by
  have onceAll := nodup_setting?_choices c level json
  have once : ((front ++ back).map Choice.setting?).Nodup :=
    (arranged.map Choice.setting?).nodup_iff.2 onceAll
  have after : ∀ choice ∈ back, choice.KnownAt (some c.name) := by
    intro choice mem
    exact knownAt_of_mem (arranged.subset (List.mem_append_right front mem))
  have levelRead : (Reading.of (front ++ back)).value? .logLevel = level := by
    rw [Reading.value?_of_perm once arranged, Reading.value?_of_append, value?_loggingChoices,
      value?_logLevel_choices, Option.or_none]
  have jsonRead : (Reading.of (front ++ back)).jsonLogs = json := by
    rw [Reading.jsonLogs_of_perm arranged, Reading.jsonLogs_of_append, jsonLogs_choices,
      jsonLogs_loggingChoices, Bool.false_or]
  have command : command? c.name (.of back) = some c := by
    rw [← command?_choices c]
    apply command?_congr
    intro s own
    -- nothing but logging stands before the command, so its own settings all stand after it
    have other : s ≠ .logLevel := fun same => logLevel_not_mem_settings c.name (same ▸ own)
    have absent : (Reading.of front).value? s = none := by
      apply Reading.value?_of_eq_none
      intro mem
      obtain ⟨choice, given, same⟩ := List.mem_map.1 mem
      exact other (eq_logLevel_of_knownAt (before choice given) same)
    calc (Reading.of back).value? s
      _ = (Reading.of (front ++ back)).value? s := by
        rw [Reading.value?_of_append, absent, Option.or_none]
      _ = (Reading.of (c.choices ++ loggingChoices level json)).value? s :=
        Reading.value?_of_perm once arranged s
      _ = (Reading.of c.choices).value? s := by
        rw [Reading.value?_of_append, value?_loggingChoices_of_ne other, Option.none_or]
  rw [read_written once before after plain, command, levelRead, jsonRead]

/-- A setting that the command requires and that is not given after it is missing. -/
theorem Arguments.read_incomplete {front back : List Choice}
    (once : ((front ++ back).map Choice.setting?).Nodup)
    (before : ∀ choice ∈ front, choice.KnownAt none)
    (after : ∀ choice ∈ back, choice.KnownAt (some name))
    (plain : ∀ choice ∈ front ++ back, choice.Plain) (required : s ∈ name.required)
    (absent : some s ∉ back.map Choice.setting?) :
    read (front.flatMap Choice.written ++ name.text :: back.flatMap Choice.written) =
      .error .missingSetting := by
  have unset : command? name (.of back) = none := by
    rw [← Option.not_isSome_iff_eq_none, command?_isSome_iff]
    intro all
    have given := all s required
    rw [Reading.value?_of_eq_none absent] at given
    cases given
  rw [read_written once before after plain, unset]

end Asked

/--
A command and a way of logging are read from their options in any order, the ones of logging on
either side of the command, as exactly what was asked for, whatever the values spell. Where a
setting that the command requires is not given after it, it is reported as missing; and no arguments
at all, written in this way or not, lead to a command without an argument after its name for each
setting that it requires.
-/
theorem Arguments.read_placed :
    (∀ (c : Command) (level : Option String) (json : Bool) (front back : List Choice),
        (front ++ back).Perm (c.choices ++ loggingChoices level json) →
        (∀ choice ∈ front, choice.KnownAt none) → (∀ choice ∈ front ++ back, choice.Plain) →
        read (front.flatMap Choice.written ++ c.name.text :: back.flatMap Choice.written) =
          .ok ⟨level.getD defaultLogLevel, json, c⟩) ∧
      (∀ (name : CommandName) (front back : List Choice),
        ((front ++ back).map Choice.setting?).Nodup → (∀ choice ∈ front, choice.KnownAt none) →
        (∀ choice ∈ back, choice.KnownAt (some name)) → (∀ choice ∈ front ++ back, choice.Plain) →
        (∃ s ∈ name.required, some s ∉ back.map Choice.setting?) →
        read (front.flatMap Choice.written ++ name.text :: back.flatMap Choice.written) =
          .error .missingSetting) ∧
      ∀ (arguments : List String) (a : Arguments), read arguments = .ok a →
        ∃ before after, arguments = before ++ a.command.name.text :: after ∧
          ∀ s ∈ a.command.name.required, ∃ argument ∈ after, Gives s argument := by
  refine ⟨?_, ?_, ?_⟩
  · intro c level json front back arranged before plain
    exact read_arranged arranged before plain
  · rintro name front back once before after plain ⟨s, required, absent⟩
    exact read_incomplete once before after plain required absent
  · intro arguments a accepted
    exact gives_of_read accepted

/-- All values are names of commands; without the exchanges, they are reported as missing. -/
theorem Arguments.read_placed_namesakes :
    let c : Command := .filter "search" (some "filter") (some "help")
    let front : List Choice := [.jsonLogs]
    let back : List Choice := [.value .expression "help", .value .logLevel "fields",
      .value .scope "filter", .value .exchanges "search"]
    let fewer : List Choice := [.value .scope "search"]
    (front ++ back).Perm (c.choices ++ loggingChoices (some "fields") true) ∧
      (∀ choice ∈ front, choice.KnownAt none) ∧ (∀ choice ∈ front ++ back, choice.Plain) ∧
      read ["--json-logs", "filter", "--expr", "help", "--log-level", "fields", "--scope", "filter",
        "--logs", "search"] = .ok ⟨"fields", true, c⟩ ∧
      some Setting.exchanges ∉ fewer.map Choice.setting? ∧
      read ["--json-logs", "scope", "--scope", "search"] = .error .missingSetting ∧
      ∃ before after, ["--json-logs", "filter", "--expr", "help", "--log-level", "fields", "--scope",
        "filter", "--logs", "search"] = before ++ "filter" :: after ∧
        ∃ argument ∈ after, Gives .exchanges argument := by
  intro c front back fewer
  obtain ⟨accepts, refuses, gives⟩ := read_placed
  have arranged : (front ++ back).Perm (c.choices ++ loggingChoices (some "fields") true) := by
    decide +kernel
  have before : ∀ choice ∈ front, choice.KnownAt none := by decide
  have plain : ∀ choice ∈ front ++ back, choice.Plain := by decide +kernel
  have absent : some Setting.exchanges ∉ fewer.map Choice.setting? := by decide
  have accepted := accepts c (some "fields") true front back arranged before plain
  have refused := refuses .scope front fewer (by decide) before (by decide) (by decide +kernel)
    ⟨.exchanges, by decide, absent⟩
  obtain ⟨first, after, split, given⟩ := gives _ _ accepted
  exact ⟨arranged, before, plain, accepted, absent, refused, first, after, split,
    given .exchanges (by decide)⟩

end CapturedTraffic.CommandLine
