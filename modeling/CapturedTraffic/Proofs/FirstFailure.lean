import CapturedTraffic.Proofs.Exchange.Identifier
import CapturedTraffic.Proofs.Scope.Compilation
import CapturedTraffic.Proofs.Subcommands

/-!
# The first failure of a command

What a command does is a matter of stages: each of its files is read and parsed, the scope is
compiled, and the exchanges are evaluated. Whether a stage fails, and how, is said of it alone. A
command then reports the first failure in the order expression, scope, exchanges, evaluation, and
writes nothing; without a failure it writes one line for each exchange that it keeps.
-/
namespace CapturedTraffic

namespace CommandLine

open Text Query

inductive Stage
  | read (subject : Subject)
  | parse (subject : Subject)
  | compile
  | evaluate
  deriving DecidableEq, Repr

/-- The order of the stages. A command has those that its files call for. -/
def Stage.order : List Stage :=
  [read .expression, parse .expression, read .scope, parse .scope, compile, read .exchanges,
    parse .exchanges, evaluate]

/-- The purpose of the file that a stage finds fault with. -/
def Stage.subject : Stage → Subject
  | read subject => subject
  | parse subject => subject
  | compile => .scope
  | evaluate => .expression

/-- The contents of a file are the text. -/
def HasText (files : Files) (path text : String) : Prop :=
  ∃ bytes, bytesAt files path = .ok bytes ∧ Utf8.decode? bytes = some text

/-- The contents of a file read as the value. -/
def HasValue {α : Type} (files : Files) (read? : String → Option α) (path : String) (a : α) :
    Prop :=
  ∃ text, HasText files path text ∧ read? text = some a

/-- The contents of a file read as rules that compile to the scope. -/
def HasScope (files : Files) (path : String) (s : Scope) : Prop :=
  ∃ config, HasValue files Scope.Config.read? path config ∧ config.compile = .ok s

/-- Whether a text has the form of what is read for the purpose. -/
def Subject.Reads : Subject → String → Prop
  | .exchanges, text => ∃ all, Exchange.readAll? text = some all
  | .expression, text => ∃ x, Expression.read? text = some x
  | .scope, text => ∃ config, Scope.Config.read? text = some config

/-- Whether an exchange is in the scope of a command, if the command has one. -/
def Command.Admits (files : Files) (c : Command) (e : Exchange) : Prop :=
  ∀ path ∈ c.path? .scope, ∃ s, HasScope files path s ∧ s.contains e = true

/-- Whether a command keeps an exchange: admitted, and the expression, if any, is true of it. -/
def Command.Keeps (files : Files) (c : Command) (e : Exchange) : Prop :=
  c.Admits files e ∧ ∀ path ∈ c.path? .expression,
    ∃ x, HasValue files Expression.read? path x ∧ x.evaluate e = .ok true

/--
How each stage of a command fails, whatever the other stages do. Evaluation is at fault as soon as
one exchange that is admitted meets an expression that is not well formed.
-/
inductive FailsAt (files : Files) (c : Command) : Stage → Failure → Prop
  | unreadable {subject : Subject} {path : String} {fault : FileFault}
      (given : c.path? subject = some path) (missing : bytesAt files path = .error fault) :
      FailsAt files c (.read subject) (.unreadable subject path fault)
  | notText {subject : Subject} {path : String} {bytes : List UInt8}
      (given : c.path? subject = some path) (found : bytesAt files path = .ok bytes)
      (broken : Utf8.decode? bytes = none) :
      FailsAt files c (.read subject) (.unreadable subject path .notText)
  | malformed {subject : Subject} {path text : String} (given : c.path? subject = some path)
      (found : HasText files path text) (unread : ¬ subject.Reads text) :
      FailsAt files c (.parse subject) (.malformed subject path)
  | invalidScope {path : String} {config : Scope.Config} {p : Scope.InvalidPattern}
      (given : c.path? .scope = some path)
      (found : HasValue files Scope.Config.read? path config)
      (refused : FirstFailure Scope.Given.Accepted Scope.Given.Refused config.given p) :
      FailsAt files c .compile (.invalidScope path p)
  | evaluation {exchanges expression : String} {all : List Exchange} {x : Expression}
      {e : Exchange} {fault : Fault} (exchangesGiven : c.path? .exchanges = some exchanges)
      (exchangesFound : HasValue files Exchange.readAll? exchanges all)
      (expressionGiven : c.path? .expression = some expression)
      (expressionFound : HasValue files Expression.read? expression x)
      (first : x.FirstFault fault) (mem : e ∈ all) (admitted : c.Admits files e) :
      FailsAt files c .evaluate (.evaluation fault)

/-- A stage that does not fail. This takes in stages that the command has no file for. -/
def PassesAt (files : Files) (c : Command) (stage : Stage) : Prop :=
  ∀ f, ¬ FailsAt files c stage f

variable {files : Files} {c : Command} {path text : String} {subject : Subject}

theorem HasText.unique {other : String} (h : HasText files path text)
    (hother : HasText files path other) : text = other := by
  obtain ⟨bytes, found, decoded⟩ := h
  obtain ⟨bytes', found', decoded'⟩ := hother
  rw [found] at found'
  cases found'
  exact Option.some.inj (decoded.symm.trans decoded')

theorem HasValue.unique {α : Type} {read? : String → Option α} {a b : α}
    (ha : HasValue files read? path a) (hb : HasValue files read? path b) : a = b := by
  obtain ⟨text, found, read⟩ := ha
  obtain ⟨text', found', read'⟩ := hb
  rw [found.unique found'] at read
  exact Option.some.inj (read.symm.trans read')

theorem FailsAt.unique {stage : Stage} {f g : Failure} (hf : FailsAt files c stage f)
    (hg : FailsAt files c stage g) : f = g := by
  cases hf with
  | unreadable given missing =>
    cases hg with
    | unreadable given' missing' =>
      cases given.symm.trans given'
      cases missing.symm.trans missing'
      rfl
    | notText given' found' =>
      cases given.symm.trans given'
      cases missing.symm.trans found'
  | notText given found =>
    cases hg with
    | unreadable given' missing' =>
      cases given.symm.trans given'
      cases found.symm.trans missing'
    | notText given' =>
      cases given.symm.trans given'
      rfl
  | malformed given =>
    cases hg with
    | malformed given' =>
      cases given.symm.trans given'
      rfl
  | invalidScope given found refused =>
    cases hg with
    | invalidScope given' found' refused' =>
      cases given.symm.trans given'
      cases found.unique found'
      rw [refused.unique Scope.Given.exclusive refused']
  | evaluation _ _ given found first =>
    cases hg with
    | evaluation _ _ given' found' first' =>
      cases given.symm.trans given'
      cases found.unique found'
      rw [first'.unique first]

theorem exclusive_failsAt (files : Files) (c : Command) :
    Exclusive (PassesAt files c) (FailsAt files c) :=
  ⟨fun passes => passes _, FailsAt.unique⟩

theorem FailsAt.given {stage : Stage} {f : Failure} (h : FailsAt files c stage f) :
    ∃ path, c.path? stage.subject = some path := by
  cases h with
  | unreadable given | notText given | malformed given | invalidScope given => exact ⟨_, given⟩
  | evaluation _ _ given => exact ⟨_, given⟩

/-- A command does not fail at stages that it has no file for. -/
theorem passesAt_of_absent {stage : Stage} (absent : c.path? stage.subject = none) :
    PassesAt files c stage := by
  intro f fails
  obtain ⟨path, given⟩ := fails.given
  cases absent.symm.trans given

theorem readText_eq_ok_iff : readText files subject path = .ok text ↔ HasText files path text := by
  unfold readText HasText
  cases bytesAt files path with
  | error fault => simp
  | ok bytes => cases decoded : Utf8.decode? bytes <;> simp [decoded]

theorem load_eq_ok_iff {α : Type} {read? : String → Option α} {a : α} :
    load files subject read? path = .ok a ↔ HasValue files read? path a := by
  simp only [load, bind_eq_ok_iff, readText_eq_ok_iff, HasValue]
  refine exists_congr fun text => and_congr_right fun _ => ?_
  cases read? text <;> simp

theorem loadScope_eq_ok_iff {s : Scope} :
    loadScope files path = .ok s ↔ HasScope files path s := by
  simp only [loadScope, bind_eq_ok_iff, load_eq_ok_iff, mapError_eq_ok_iff, HasScope]

theorem settles_readText (given : c.path? subject = some path) :
    Settles (PassesAt files c) (FailsAt files c) [.read subject] (readText files subject path) := by
  apply Settles.single
  · intro text read f fails
    obtain ⟨bytes, found, decoded⟩ := readText_eq_ok_iff.1 read
    cases fails with
    | unreadable given' missing =>
      cases given.symm.trans given'
      cases found.symm.trans missing
    | notText given' found' broken =>
      cases given.symm.trans given'
      cases found.symm.trans found'
      cases decoded.symm.trans broken
  · intro f failed
    rw [readText] at failed
    cases found : bytesAt files path with
    | error fault =>
      rw [found] at failed
      cases failed
      exact .unreadable given found
    | ok bytes =>
      rw [found] at failed
      cases decoded : Utf8.decode? bytes with
      | some text =>
        simp only [decoded] at failed
        cases failed
      | none =>
        simp only [decoded] at failed
        cases failed
        exact .notText given found decoded

theorem settles_load {α : Type} {read? : String → Option α} (given : c.path? subject = some path)
    (reads : ∀ text, subject.Reads text ↔ ∃ a, read? text = some a) :
    Settles (PassesAt files c) (FailsAt files c) [.read subject, .parse subject]
      (load files subject read? path) := by
  refine (settles_readText given).bind fun text read => ?_
  have found := readText_eq_ok_iff.1 read
  cases parsed : read? text with
  | some a =>
    refine .of_passed (List.forall_mem_singleton.2 fun f fails => ?_) a
    cases fails with
    | malformed given' found' unread =>
      cases given.symm.trans given'
      rw [← found.unique found', reads] at unread
      exact unread ⟨a, parsed⟩
  | none =>
    refine .single nofun fun f failed => ?_
    cases failed
    refine .malformed given found fun read => ?_
    obtain ⟨a, readable⟩ := (reads text).1 read
    cases parsed.symm.trans readable

theorem settles_loadScope (given : c.path? .scope = some path) :
    Settles (PassesAt files c) (FailsAt files c) [.read .scope, .parse .scope, .compile]
      (loadScope files path) := by
  refine (settles_load given fun _ => Iff.rfl).bind fun config loaded => ?_
  have found := load_eq_ok_iff.1 loaded
  cases compiled : config.compile with
  | ok s =>
    refine .of_passed (List.forall_mem_singleton.2 fun f fails => ?_) s
    cases fails with
    | invalidScope given' found' refused =>
      cases given.symm.trans given'
      rw [← found.unique found', ← Scope.Config.compile_eq_error_iff] at refused
      cases compiled.symm.trans refused
  | error p =>
    refine .single nofun fun f failed => ?_
    cases failed
    exact .invalidScope given found (Scope.Config.compile_eq_error_iff.1 compiled)

theorem settles_loadOptional {α : Type} {stages : List Stage} {load : String → Except Failure α}
    (given : ∀ path, c.path? subject = some path →
      Settles (PassesAt files c) (FailsAt files c) stages (load path))
    (same : ∀ stage ∈ stages, stage.subject = subject) :
    Settles (PassesAt files c) (FailsAt files c) stages (loadOptional load (c.path? subject)) := by
  cases path : c.path? subject with
  | none =>
    refine .of_passed (fun stage mem => passesAt_of_absent ?_) none
    rw [same stage mem, path]
  | some path' => exact (given path' path).map some

theorem loadOptional_eq_ok_iff {α : Type} {load : String → Except Failure α} {o : Option String}
    {v : Option α} : loadOptional load o = .ok v ↔ Option.Rel (fun p a => load p = .ok a) o v := by
  cases o with
  | none => rw [loadOptional, Except.ok.injEq, Scope.rel_none_iff]
  | some path =>
    rw [loadOptional, map_eq_ok_iff]
    constructor
    · rintro ⟨a, loaded, rfl⟩
      exact .some loaded
    · rintro (loaded | _)
      exact ⟨_, loaded, rfl⟩

/-- What a command selects by, once its files are loaded. -/
structure Command.Loaded (files : Files) (c : Command) (x : Option Expression) (s : Option Scope) :
    Prop where
  expression : Option.Rel (fun p x => loadExpression files p = .ok x) (c.path? .expression) x
  scope : Option.Rel (fun p s => loadScope files p = .ok s) (c.path? .scope) s

theorem Command.Loaded.reaches_iff {x : Option Expression} {s : Option Scope} {e : Exchange}
    (h : c.Loaded files x s) :
    Filter.reaches ⟨s.isSome, x⟩ (s.getD .empty) e = true ↔ c.Admits files e := by
  have scope := h.scope
  unfold Command.Admits
  generalize c.path? .scope = o at scope
  cases scope with
  | none => simp [Filter.reaches]
  | @some path s loaded =>
    have found := loadScope_eq_ok_iff.1 loaded
    simp only [Filter.reaches, Option.isSome_some, Bool.not_true, Bool.false_or, Option.getD_some,
      Option.mem_def, Option.some_inj, forall_eq']
    constructor
    · intro inside
      exact ⟨s, found, inside⟩
    · rintro ⟨s', found', inside⟩
      rw [← loadScope_eq_ok_iff, loaded] at found'
      cases found'
      exact inside

theorem Command.Loaded.keeps_iff {x : Option Expression} {s : Option Scope} {e : Exchange}
    (h : c.Loaded files x s) :
    Filter.keeps ⟨s.isSome, x⟩ (s.getD .empty) e = true ↔ c.Keeps files e := by
  have expression := h.expression
  rw [Filter.keeps, Bool.and_eq_true, h.reaches_iff, Command.Keeps]
  refine and_congr_right fun _ => ?_
  generalize c.path? .expression = o at expression
  cases expression with
  | none => simp
  | @some path x loaded =>
    have found := load_eq_ok_iff.1 loaded
    simp only [Option.all_some, decide_eq_true_eq, toOption_eq_some_iff, Option.mem_def,
      Option.some_inj, forall_eq']
    constructor
    · intro value
      exact ⟨x, found, value⟩
    · rintro ⟨x', found', value⟩
      rw [found.unique found']
      exact value

theorem settles_selection {x : Option Expression} {s : Option Scope} {all : List Exchange}
    (h : c.Loaded files x s) (given : c.path? .exchanges = some path)
    (found : HasValue files Exchange.readAll? path all) :
    Settles (PassesAt files c) (FailsAt files c) [.evaluate]
      ((Filter.select ⟨s.isSome, x⟩ (s.getD .empty) all).mapError Failure.evaluation) := by
  have expression := h.expression
  cases selected : Filter.select ⟨s.isSome, x⟩ (s.getD .empty) all with
  | ok kept =>
    refine .of_passed (List.forall_mem_singleton.2 fun f fails => ?_) kept
    cases fails with
    | evaluation given' found' expressionGiven expressionFound first mem admitted =>
      cases given.symm.trans given'
      cases found.unique found'
      rw [expressionGiven] at expression
      rcases expression with loaded | _
      rw [expressionFound.unique (load_eq_ok_iff.1 loaded)] at first
      have failed := Filter.select_eq_error_iff.2
        ⟨_, rfl, first, _, mem, h.reaches_iff.2 admitted⟩
      cases selected.symm.trans failed
  | error fault =>
    refine .single nofun fun f failed => ?_
    cases failed
    obtain ⟨x, hx, first, e, mem, reached⟩ := Filter.select_eq_error_iff.1 selected
    cases hx
    generalize expressionGiven : c.path? .expression = o at expression
    rcases expression with loaded | _
    exact .evaluation given found expressionGiven (load_eq_ok_iff.1 loaded) first mem
      (h.reaches_iff.1 reached)

theorem settles_output (files : Files) (c : Command) :
    Settles (PassesAt files c) (FailsAt files c) Stage.order (output files c) := by
  cases given : c.path? .exchanges with
  | none =>
    cases c with
    | search | scope | filter => cases given
    | fields => exact .of_passed (fun stage _ => passesAt_of_absent (by rw [Command.path?])) _
  | some path =>
    rw [output, given]
    have expression : Settles (PassesAt files c) (FailsAt files c)
        [.read .expression, .parse .expression]
        (loadOptional (loadExpression files) (c.path? .expression)) :=
      settles_loadOptional (fun path given => settles_load given fun _ => Iff.rfl) (by decide)
    have scope : Settles (PassesAt files c) (FailsAt files c)
        [.read .scope, .parse .scope, .compile]
        (loadOptional (loadScope files) (c.path? .scope)) :=
      settles_loadOptional (fun path given => settles_loadScope given) (by decide)
    refine expression.bind fun x hx => scope.bind fun s hs => ?_
    have loaded : c.Loaded files x s :=
      ⟨loadOptional_eq_ok_iff.1 hx, loadOptional_eq_ok_iff.1 hs⟩
    refine (settles_load given fun _ => Iff.rfl).bind fun all hall => ?_
    exact (settles_selection loaded given (load_eq_ok_iff.1 hall)).map _

theorem Stage.mem_order (stage : Stage) : stage ∈ order := by
  cases stage with
  | read subject | parse subject => cases subject <;> decide
  | compile | evaluate => decide

theorem exists_kept_of_output {texts : List String} (h : output files c = .ok texts)
    (given : c.path? .exchanges = some path) :
    ∃ (all : List Exchange) (keep : Exchange → Bool), HasValue files Exchange.readAll? path all ∧
      (∀ e, keep e = true ↔ c.Keeps files e) ∧
      texts = (all.filter keep).map fun e => e.id.text := by
  simp only [output, given, bind_eq_ok_iff, select] at h
  obtain ⟨x, hx, s, hs, all, hall, kept, selected, ⟨⟩⟩ := h
  have loaded : c.Loaded files x s := ⟨loadOptional_eq_ok_iff.1 hx, loadOptional_eq_ok_iff.1 hs⟩
  obtain ⟨_, rfl⟩ := Filter.select_eq_ok_iff.1 (mapError_eq_ok_iff.1 selected)
  exact ⟨all, _, load_eq_ok_iff.1 hall, fun e => loaded.keeps_iff, rfl⟩

/--
A command that fails reports the failure of the first of its stages that fails, and has written
nothing; one of which no stage fails does not fail. A command on exchanges then writes one line for
each exchange that it keeps, in their order, with the identifier in its hyphenated form.
-/
theorem run_failure_characterised (files : Files) (c : Command) :
    (∀ f, (c.run files).failure = some f ↔
        FirstFailure (PassesAt files c) (FailsAt files c) Stage.order f) ∧
      ((c.run files).failure = none ↔ ∀ stage, PassesAt files c stage) ∧
      (∀ f, (c.run files).failure = some f → (c.run files).output = "") ∧
      ((c.run files).failure = none → ∀ path, c.path? .exchanges = some path →
        ∃ (all : List Exchange) (keep : Exchange → Bool),
          HasValue files Exchange.readAll? path all ∧ (∀ e, keep e = true ↔ c.Keeps files e) ∧
          (c.run files).output = String.join ((all.filter keep).map fun e => e.id.text ++ "\n")) ∧
      ∀ id : ExchangeId, ExchangeId.Hyphenated id.text ∧ ExchangeId.parse? id.text = some id := by
  have settles := settles_output files c
  have exclusive := exclusive_failsAt files c
  refine ⟨fun f => ?_, ?_, fun f h => ?_, fun h path given => ?_,
    fun id => ⟨id.hyphenated_text, id.parse?_text⟩⟩
  · rw [run_failure_eq_some_iff]
    exact settles.error_iff exclusive
  · rw [run_failure_eq_none_iff, settles.ok_iff exclusive]
    exact ⟨fun passed stage => passed stage stage.mem_order, fun passed stage _ => passed stage⟩
  · rw [Command.run_eq, run_failure_eq_some_iff.1 h, Outcome.ofLines]
  · obtain ⟨texts, written⟩ := run_failure_eq_none_iff.1 h
    obtain ⟨all, keep, found, same, rfl⟩ := exists_kept_of_output written given
    refine ⟨all, keep, found, same, ?_⟩
    rw [Command.run_eq, written, Outcome.ofLines, lines, List.map_map]
    rfl

/-- Three files are bad, and the one read first is reported. Of two exchanges, one is kept. -/
theorem run_failure_characterised_malformed :
    let e := Exchange.new ⟨10, by decide⟩ "GET" none
    let stored := [e, e.withBody [97]]
    let config : Scope.Config := ⟨[⟨none, none, some (.contains "a")⟩]⟩
    let files : Files := fun path =>
      if path = "broken" then .ok (Utf8.encode "[")
      else if path = "absent" then .error .notFound
      else if path = "bytes" then .ok [0xFF]
      else if path = "rules" then .ok (Utf8.encode config.toJson.render)
      else .ok (Utf8.encode (Exchange.allToJson stored).render)
    let failing : Command := .filter "bytes" (some "absent") (some "broken")
    let sound : Command := .scope "logs" "rules"
    let failure : Failure := .malformed .expression "broken"
    (failing.run files).failure = some failure ∧
      FailsAt files failing (.read .scope) (.unreadable .scope "absent" .notFound) ∧
      FailsAt files failing (.read .exchanges) (.unreadable .exchanges "bytes" .notText) ∧
      FirstFailure (PassesAt files failing) (FailsAt files failing) Stage.order failure ∧
      (failing.run files).output = "" ∧
      (sound.run files).failure = none ∧ sound.path? .exchanges = some "logs" ∧
      (sound.run files).output = "00000000-0000-0000-0000-00000000000a\n" ∧
      ∃ (all : List Exchange) (keep : Exchange → Bool),
        HasValue files Exchange.readAll? "logs" all ∧ (∀ e, keep e = true ↔ sound.Keeps files e) ∧
        (sound.run files).output =
          String.join ((all.filter keep).map fun e => e.id.text ++ "\n") := by
  intro e stored config files failing sound failure
  have failed : (failing.run files).failure = some failure := by decide +kernel
  have loaded : loadExchanges files "logs" = .ok stored := loadExchanges_of_stores rfl (by decide)
  have rules : Stores files "rules" config.toJson := rfl
  have hs : loadScope files "rules" = .ok ⟨[⟨none, .empty, some (.contains [97])⟩]⟩ :=
    loadScope_of_stores rules rfl
  have run : sound.run files = ⟨"00000000-0000-0000-0000-00000000000a\n", none⟩ := by
    rw [run_scope hs, select_of_loaded loaded]
    decide +kernel
  have done : (sound.run files).failure = none := congrArg Outcome.failure run
  obtain ⟨first, _, nothing, _⟩ := run_failure_characterised files failing
  obtain ⟨_, _, _, kept, _⟩ := run_failure_characterised files sound
  exact ⟨failed, .unreadable rfl rfl, .notText rfl rfl (by decide), (first _).1 failed,
    nothing _ failed, done, rfl, congrArg Outcome.output run, kept done "logs" rfl⟩

end CommandLine

end CapturedTraffic
