import CapturedTraffic.CommandLine.Arguments
import CapturedTraffic.Proofs.Except
import Mathlib.Data.List.Nodup

/-!
# Reading options

Options are read one by one on either side of the command, and each is taken in only when the next
one begins. What has been read in the end is what was written, with the values found under their
settings, if no option is written twice; the order plays no part in it.
-/
namespace CapturedTraffic.CommandLine

/-- An option: a setting with its value, or the flag that asks for logs in JSON. -/
inductive Choice
  | value (s : Setting) (text : String)
  | jsonLogs
  deriving DecidableEq, Repr

namespace Choice

/-- An option as arguments, the value in an argument of its own. -/
def written : Choice → List String
  | value s text => ["--" ++ s.text, text]
  | jsonLogs => ["--json-logs"]

/-- The setting that an option gives, where the flag has none. -/
def setting? : Choice → Option Setting
  | value s _ => some s
  | jsonLogs => none

def entry? : Choice → Option (Setting × String)
  | value s text => some (s, text)
  | jsonLogs => none

/-- Whether an option is known at a level. -/
def KnownAt (level : Option CommandName) : Choice → Prop
  | value s _ => s ∈ Setting.known level
  | jsonLogs => True

/-- Values that are not empty and cannot be taken for options. -/
def Plain : Choice → Prop
  | value _ text => text ≠ "" ∧ text.toList.head? ≠ some '-'
  | jsonLogs => True

instance (level : Option CommandName) : DecidablePred (KnownAt level)
  | value s _ => inferInstanceAs (Decidable (s ∈ Setting.known level))
  | jsonLogs => .isTrue trivial

instance : DecidablePred Plain
  | value _ text => inferInstanceAs (Decidable (text ≠ "" ∧ text.toList.head? ≠ some '-'))
  | jsonLogs => .isTrue trivial

end Choice

namespace Form

theorem of_setting (s : Setting) : Form.of ("--" ++ s.text) = .long s.text none := by
  cases s <;> rfl

theorem of_jsonLogs : Form.of "--json-logs" = .long "json-logs" none := rfl

theorem of_plain {argument : String} (h : argument.toList.head? ≠ some '-') :
    Form.of argument = .plain := by
  unfold Form.of
  cases chars : argument.toList with
  | nil => rfl
  | cons c rest =>
    have other : c ≠ '-' := by
      rintro rfl
      simp [chars] at h
    split <;> simp_all

end Form

theorem Setting.named?_text {level : Option CommandName} {s : Setting} (h : s ∈ known level) :
    named? level s.text = some s := by
  revert s
  rcases level with _ | name
  · decide
  · cases name <;> decide

namespace Reading

variable {level : Option CommandName} {r t : Reading} {choice : Choice} {done choices : List Choice}

/-- Reads an option; a value is kept until the next option begins. -/
def take (r : Reading) : Choice → Except Refusal Reading
  | .value s text => r.settle.map fun r => { r with pending := some (s, some text) }
  | .jsonLogs => r.setJsonLogs

/-- What some options are read as when all are taken in. -/
def of (choices : List Choice) : Reading :=
  ⟨(choices.filterMap Choice.entry?).reverse, choices.contains .jsonLogs, none⟩

theorem long_setting {s : Setting} (h : s ∈ Setting.known level) (r : Reading) :
    r.long level s.text none = r.await s := by
  unfold long
  simp only [Setting.named?_text h]

theorem long_jsonLogs (level : Option CommandName) (r : Reading) :
    r.long level "json-logs" none = r.setJsonLogs := by
  have unnamed : Setting.named? level "json-logs" = none := by
    rcases level with _ | name
    · rfl
    · cases name <;> rfl
  unfold long
  simp only [unnamed]
  rfl

theorem of_append_singleton (choices : List Choice) (choice : Choice) :
    of (choices ++ [choice]) =
      ⟨choice.entry?.toList ++ (of choices).values, (of choices).jsonLogs || choice == .jsonLogs,
        none⟩ := by
  cases choice with
  | value s text => simp [of, Choice.entry?]
  | jsonLogs => simp [of, Choice.entry?]

theorem mem_values_of {s : Setting} {text : String} :
    (s, text) ∈ (of choices).values ↔ .value s text ∈ choices := by
  rw [of, List.mem_reverse, List.mem_filterMap]
  constructor
  · rintro ⟨choice, mem, entry⟩
    cases choice with
    | value u other =>
      obtain ⟨rfl, rfl⟩ := Prod.mk.inj (Option.some.inj entry)
      exact mem
    | jsonLogs => cases entry
  · intro mem
    exact ⟨_, mem, rfl⟩

theorem mem_of_value?_of {s : Setting} {text : String} (h : (of choices).value? s = some text) :
    .value s text ∈ choices := by
  obtain ⟨before, after, values, _⟩ := List.lookup_eq_some_iff.1 h
  have mem : (s, text) ∈ (of choices).values := by simp [values]
  exact mem_values_of.1 mem

theorem value?_of_eq_none {s : Setting} (h : some s ∉ choices.map Choice.setting?) :
    (of choices).value? s = none := by
  cases found : (of choices).value? s with
  | none => rfl
  | some text => exact absurd (List.mem_map_of_mem (mem_of_value?_of found)) h

/-- The value of a setting that is given once is the one that was given. -/
theorem value?_of_eq_some_iff (once : (choices.map Choice.setting?).Nodup) {s : Setting}
    {text : String} : (of choices).value? s = some text ↔ .value s text ∈ choices := by
  refine ⟨mem_of_value?_of, fun mem => ?_⟩
  cases found : (of choices).value? s with
  | none =>
    have absent := List.lookup_eq_none_iff.1 found (s, text) (mem_values_of.2 mem)
    simp at absent
  | some other =>
    have same := List.inj_on_of_nodup_map once (mem_of_value?_of found) mem rfl
    rw [(Choice.value.inj same).2]

/-- What stands on both sides of the command counts as if it stood together. -/
theorem value?_of_append (front back : List Choice) (s : Setting) :
    (of (front ++ back)).value? s = ((of back).value? s).or ((of front).value? s) := by
  rw [value?, of, List.filterMap_append, List.reverse_append, List.lookup_append]
  rfl

theorem jsonLogs_of_append (front back : List Choice) :
    (of (front ++ back)).jsonLogs = ((of front).jsonLogs || (of back).jsonLogs) := by
  simp [of]

/-- The order of options that are given once plays no part. -/
theorem value?_of_perm {others : List Choice} (once : (choices.map Choice.setting?).Nodup)
    (perm : choices.Perm others) (s : Setting) : (of choices).value? s = (of others).value? s := by
  have onceToo : (others.map Choice.setting?).Nodup := (perm.map Choice.setting?).nodup_iff.1 once
  apply Option.ext
  intro text
  rw [value?_of_eq_some_iff once, value?_of_eq_some_iff onceToo, perm.mem_iff]

theorem jsonLogs_of_perm {others : List Choice} (perm : choices.Perm others) :
    (of choices).jsonLogs = (of others).jsonLogs := by
  rw [Bool.eq_iff_iff, of, of, List.contains_iff_mem, List.contains_iff_mem, perm.mem_iff]

/-- Reading one more option takes in the one before it. -/
theorem take_of (once : choice.setting? ∉ done.map Choice.setting?) (plain : choice.Plain)
    (before : r.settle = .ok (of done)) :
    ∃ t, r.take choice = .ok t ∧ t.settle = .ok (of (done ++ [choice])) := by
  rw [of_append_singleton]
  cases choice with
  | value s text =>
    have fresh : (of done).value? s = none := value?_of_eq_none once
    have allowed : s.allows text = true := by simp [Setting.allows, plain.1]
    -- the value is only pending, and taken in by the next `settle`
    refine ⟨{ of done with pending := some (s, some text) }, by rw [take, before]; rfl, ?_⟩
    have unset : ({ of done with pending := some (s, some text) } : Reading).value? s = none := fresh
    simp [settle, unset, allowed, Choice.entry?]
  | jsonLogs =>
    have fresh : (of done).jsonLogs = false := by
      rw [Bool.eq_false_iff, ne_eq, of, List.contains_iff_mem]
      exact fun again => once (List.mem_map_of_mem again)
    refine ⟨{ of done with jsonLogs := true }, ?_, ?_⟩
    · rw [take, setJsonLogs, before]
      simp [bind, Except.bind, fresh]
    · simp [settle, of, Choice.entry?]

/-- Options that are written once each are all taken in. -/
theorem foldlM_take (before : r.settle = .ok (of done))
    (once : ((done ++ choices).map Choice.setting?).Nodup)
    (plain : ∀ choice ∈ choices, choice.Plain) :
    ∃ t, choices.foldlM take r = .ok t ∧ t.settle = .ok (of (done ++ choices)) := by
  -- the options done move from the list that is read to the list that `of` collects
  induction choices generalizing done r with
  | nil => exact ⟨r, rfl, by rw [before, List.append_nil]⟩
  | cons choice rest ih =>
    obtain ⟨head, tail⟩ := List.forall_mem_cons.1 plain
    have fresh : choice.setting? ∉ done.map Choice.setting? := by
      rw [List.map_append, List.map_cons] at once
      exact fun again => (List.nodup_append.1 once).2.2 _ again _ List.mem_cons_self rfl
    obtain ⟨t, taken, settled⟩ := take_of fresh head before
    obtain ⟨u, read, final⟩ := ih settled (by simpa using once) tail
    exact ⟨u, by rw [List.foldlM_cons, taken]; exact read, by rwa [List.append_assoc] at final⟩

end Reading

/-- A reader that goes on after each option and each awaited value, with what is known at a level. -/
structure GoesOn {β : Type} (level : Option CommandName)
    (read : Reading → List String → Except Refusal β) : Prop where
  long : ∀ {r argument option value}, Form.of argument = .long option value → ∀ rest,
    read r (argument :: rest) = r.long level option value >>= fun r => read r rest
  plain : ∀ {r : Reading} {argument s}, Form.of argument = .plain → r.awaited? = some s → ∀ rest,
    read r (argument :: rest) = read { r with pending := some (s, some argument) } rest

theorem readSettings_goesOn (name : CommandName) : GoesOn (some name) (readSettings name) where
  long form rest := by rw [readSettings, form]
  plain form awaits rest := by
    rw [readSettings, form]
    simp only [awaits]

theorem readFront_goesOn : GoesOn none readFront where
  long form rest := by rw [readFront, form]
  plain form awaits rest := by
    rw [readFront, form]
    simp only [awaits]

namespace GoesOn

variable {β : Type} {level : Option CommandName} {read : Reading → List String → Except Refusal β}

theorem written (h : GoesOn level read) {choice : Choice} (known : choice.KnownAt level)
    (plain : choice.Plain) (r : Reading) (rest : List String) :
    read r (choice.written ++ rest) = r.take choice >>= fun r => read r rest := by
  cases choice with
  | value s text =>
    have value : Form.of text = .plain := Form.of_plain plain.2
    rw [Choice.written, List.cons_append, h.long (Form.of_setting s), Reading.long_setting known,
      Reading.await, Reading.take]
    cases r.settle with
    | error refusal => rfl
    | ok t => exact h.plain value rfl rest
  | jsonLogs =>
    rw [Choice.written, List.cons_append, h.long Form.of_jsonLogs, Reading.long_jsonLogs]
    rfl

theorem allWritten (h : GoesOn level read) {choices : List Choice}
    (known : ∀ choice ∈ choices, choice.KnownAt level) (plain : ∀ choice ∈ choices, choice.Plain)
    (r : Reading) (rest : List String) :
    read r (choices.flatMap Choice.written ++ rest) =
      choices.foldlM Reading.take r >>= fun r => read r rest := by
  induction choices generalizing r with
  | nil => rfl
  | cons choice others ih =>
    obtain ⟨knownHead, knownTail⟩ := List.forall_mem_cons.1 known
    obtain ⟨plainHead, plainTail⟩ := List.forall_mem_cons.1 plain
    rw [List.flatMap_cons, List.append_assoc, h.written knownHead plainHead, List.foldlM_cons,
      bind_assoc]
    simp only [ih knownTail plainTail]

end GoesOn

end CapturedTraffic.CommandLine
