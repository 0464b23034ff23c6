import CapturedTraffic.CommandLine.Arguments
import CapturedTraffic.Proofs.Except

/-!
# What a command requires

A command is there as soon as the settings that it requires have values. Whatever the arguments are,
a setting has a value only if an argument after the name of the command gives it; so a command that
is run has been given all that it requires.
-/
namespace CapturedTraffic.CommandLine

/-- The settings that a command cannot do without. -/
def CommandName.required : CommandName → List Setting
  | search => [.exchanges, .expression]
  | scope => [.exchanges, .scope]
  | filter => [.exchanges]
  | fields => []

def Command.name : Command → CommandName
  | search .. => .search
  | scope .. => .scope
  | filter .. => .filter
  | fields => .fields

/-- An argument that gives a setting, alone or together with a value. -/
def Gives (s : Setting) (argument : String) : Prop :=
  argument = "--" ++ s.text ∨ ∃ value, argument = "--" ++ s.text ++ "=" ++ value

variable {level : Option CommandName} {name : CommandName} {c : Command} {r t : Reading}
  {s : Setting}

theorem command?_isSome_iff :
    (command? name r).isSome = true ↔ ∀ s ∈ name.required, (r.value? s).isSome = true := by
  cases name with
  | search =>
    cases first : r.value? .exchanges <;> cases second : r.value? .expression <;>
      simp [command?, CommandName.required, first, second]
  | scope =>
    cases first : r.value? .exchanges <;> cases second : r.value? .scope <;>
      simp [command?, CommandName.required, first, second]
  | filter =>
    cases first : r.value? .exchanges <;> simp [command?, CommandName.required, first]
  | fields => simp [command?, CommandName.required]

theorem name_of_command? (h : command? name r = some c) : c.name = name := by
  cases name with
  | search =>
    obtain ⟨_, _, h⟩ := Option.bind_eq_some_iff.1 h
    obtain ⟨_, _, h⟩ := Option.bind_eq_some_iff.1 h
    rw [← Option.some.inj h, Command.name]
  | scope =>
    obtain ⟨_, _, h⟩ := Option.bind_eq_some_iff.1 h
    obtain ⟨_, _, h⟩ := Option.bind_eq_some_iff.1 h
    rw [← Option.some.inj h, Command.name]
  | filter =>
    obtain ⟨_, _, h⟩ := Option.bind_eq_some_iff.1 h
    rw [← Option.some.inj h, Command.name]
  | fields => rw [← Option.some.inj h, Command.name]

/-- A command looks at its own settings only. -/
theorem command?_congr (same : ∀ s ∈ name.settings, r.value? s = t.value? s) :
    command? name r = command? name t := by
  cases name with
  | search => simp [command?, same .exchanges (by decide), same .expression (by decide)]
  | scope => simp [command?, same .exchanges (by decide), same .scope (by decide)]
  | filter =>
    simp [command?, same .exchanges (by decide), same .scope (by decide),
      same .expression (by decide)]
  | fields => rfl

theorem Form.gives_of_long {argument : String} {value : Option String}
    (h : Form.of argument = .long s.text value) : Gives s argument := by
  unfold Form.of at h
  split at h
  · cases h
  next rest _ chars =>
    have parts : rest.takeWhile (· != '=') ++ rest.dropWhile (· != '=') = rest :=
      List.takeWhile_append_dropWhile
    dsimp only at h
    split at h
    next sign text found =>
      -- the name has ended at the first equals sign
      obtain ⟨option, _⟩ := Form.long.inj h
      have equals : sign = '=' := by
        have first := List.head?_dropWhile_not (· != '=') rest
        rw [found] at first
        simpa using first
      refine .inr ⟨String.ofList text, String.toList_inj.1 ?_⟩
      rw [chars, ← parts, found, equals, ← option]
      simp
    next found =>
      obtain ⟨option, _⟩ := Form.long.inj h
      refine .inl (String.toList_inj.1 ?_)
      rw [chars, ← parts, found, ← option]
      simp
  · cases h
  · cases h

namespace Reading

/-- The settings that have been read, with or without a value so far. -/
def settings (r : Reading) : List Setting :=
  r.values.map Prod.fst ++ (r.pending.map Prod.fst).toList

theorem mem_settings_of_value? (h : (r.value? s).isSome = true) : s ∈ r.settings := by
  obtain ⟨text, found⟩ := Option.isSome_iff_exists.1 h
  obtain ⟨before, after, values, _⟩ := List.lookup_eq_some_iff.1 found
  simp [settings, values]

theorem settle_eq_ok (h : r.settle = .ok t) :
    t = r ∨ ∃ s value, r.pending = some (s, some value) ∧
      t = { r with values := (s, value) :: r.values, pending := none } := by
  unfold settle at h
  split at h
  next none => exact .inl (Except.ok.inj h).symm
  next given => cases h
  next u value given =>
    split at h
    · cases h
    · split at h
      · exact .inr ⟨u, value, given, (Except.ok.inj h).symm⟩
      · cases h

/-- Taking in the setting that was read last adds no setting. -/
theorem settings_settle (h : r.settle = .ok t) : t.settings ⊆ r.settings := by
  rcases settle_eq_ok h with rfl | ⟨u, value, given, rfl⟩
  · exact List.Subset.refl _
  · intro s mem
    simp only [settings, given, List.map_cons, Option.map_none, Option.toList_none, List.append_nil,
      Option.map_some, Option.toList_some] at mem ⊢
    rcases List.mem_cons.1 mem with rfl | earlier
    · exact List.mem_append_right _ List.mem_cons_self
    · exact List.mem_append_left _ earlier

theorem mem_settings_pending {value : Option String} {u : Setting}
    (h : s ∈ ({ r with pending := some (u, value) } : Reading).settings) :
    s ∈ r.settings ∨ s = u := by
  rcases List.mem_append.1 h with earlier | last
  · exact .inl (List.mem_append_left _ earlier)
  · exact .inr (by simpa using last)

theorem settings_assign {u : Setting} {text : String} (h : r.assign u text = .ok t) :
    ∀ s ∈ t.settings, s ∈ r.settings ∨ s = u := by
  obtain ⟨q, settled, h⟩ := bind_eq_ok_iff.1 h
  intro s mem
  exact (mem_settings_pending (settings_settle h mem)).imp_left (settings_settle settled ·)

theorem settings_await {u : Setting} (h : r.await u = .ok t) :
    ∀ s ∈ t.settings, s ∈ r.settings ∨ s = u := by
  obtain ⟨q, settled, rfl⟩ := map_eq_ok_iff.1 h
  intro s mem
  exact (mem_settings_pending mem).imp_left (settings_settle settled ·)

theorem settings_setJsonLogs (h : r.setJsonLogs = .ok t) : t.settings ⊆ r.settings := by
  obtain ⟨q, settled, h⟩ := bind_eq_ok_iff.1 h
  split at h
  · cases h
  · have earlier : q.settings ⊆ r.settings := settings_settle settled
    obtain rfl := Except.ok.inj h
    exact earlier

theorem finish_ne_ok (answer : Refusal) : r.finish answer ≠ .ok t := by
  intro h
  obtain ⟨_, _, h⟩ := bind_eq_ok_iff.1 h
  cases h

/-- A long option adds at most the setting that it names. -/
theorem settings_long {option : String} {value : Option String}
    (h : r.long level option value = .ok t) :
    ∀ s ∈ t.settings, s ∈ r.settings ∨ s.text = option := by
  have text_of_named {u : Setting} (named : Setting.named? level option = some u) :
      u.text = option := by
    simpa using List.find?_some named
  unfold long at h
  split at h
  next u text named =>
    intro s mem
    rcases settings_assign h s mem with earlier | rfl
    · exact .inl earlier
    · exact .inr (text_of_named named)
  next u named =>
    intro s mem
    rcases settings_await h s mem with earlier | rfl
    · exact .inl earlier
    · exact .inr (text_of_named named)
  next =>
    intro s mem
    split at h
    · split at h
      · cases h
      · split at h
        · exact .inl (settings_setJsonLogs h mem)
        · exact absurd h (finish_ne_ok _)
    · cases h

/-- No short option leads to a command. -/
theorem short_ne_ok (letter : Char) : r.short level letter ≠ .ok t := by
  unfold short
  split
  · exact finish_ne_ok _
  · split
    · exact finish_ne_ok _
    · nofun

/-- The value that a setting has waited for is no further setting. -/
theorem settings_awaited (awaits : r.awaited? = some s) (text : String) :
    ({ r with pending := some (s, some text) } : Reading).settings = r.settings := by
  unfold awaited? at awaits
  split at awaits
  next u given =>
    obtain rfl := Option.some.inj awaits
    simp [settings, given]
  next => cases awaits

end Reading

theorem settings_readSettings {arguments : List String}
    (h : readSettings name r arguments = .ok t) :
    ∀ s ∈ t.settings, s ∈ r.settings ∨ ∃ argument ∈ arguments, Gives s argument := by
  induction arguments generalizing r with
  | nil =>
    rw [readSettings] at h
    obtain rfl := Except.ok.inj h
    exact fun s mem => .inl mem
  | cons argument rest ih =>
    intro s mem
    rw [readSettings] at h
    split at h
    next form =>
      obtain ⟨_, _, h⟩ := bind_eq_ok_iff.1 h
      obtain rfl := Except.ok.inj h
      exact .inl mem
    next option value form =>
      obtain ⟨q, read, h⟩ := bind_eq_ok_iff.1 h
      -- a setting is read from a later argument, from this one, or has been there before
      rcases ih h s mem with earlier | ⟨other, later, gives⟩
      · rcases Reading.settings_long read s earlier with before | rfl
        · exact .inl before
        · exact .inr ⟨argument, List.mem_cons_self, Form.gives_of_long form⟩
      · exact .inr ⟨other, List.mem_cons_of_mem _ later, gives⟩
    next letter form =>
      obtain ⟨_, read, _⟩ := bind_eq_ok_iff.1 h
      exact absurd read (Reading.short_ne_ok letter)
    next form =>
      split at h
      next u awaits =>
        have more := ih h s mem
        rw [Reading.settings_awaited awaits] at more
        exact more.imp_right fun ⟨other, later, gives⟩ =>
          ⟨other, List.mem_cons_of_mem _ later, gives⟩
      next => cases h

theorem eq_of_ofText? {argument : String} (h : CommandName.ofText? argument = some name) :
    argument = name.text := by
  have found := List.find?_some h
  exact (by simpa using found : name.text = argument).symm

/-- The front ends with the name of the command. -/
theorem eq_of_readFront {arguments rest : List String}
    (h : readFront r arguments = .ok (t, some (name, rest))) :
    ∃ before, arguments = before ++ name.text :: rest := by
  induction arguments generalizing r with
  | nil =>
    rw [readFront] at h
    cases h
  | cons argument others ih =>
    have further {q : Reading} (h : readFront q others = .ok (t, some (name, rest))) :
        ∃ before, argument :: others = before ++ name.text :: rest := by
      obtain ⟨before, split⟩ := ih h
      exact ⟨argument :: before, congrArg (argument :: ·) split⟩
    rw [readFront] at h
    split at h
    next =>
      obtain ⟨_, _, h⟩ := bind_eq_ok_iff.1 h
      cases h
    next =>
      obtain ⟨q, _, h⟩ := bind_eq_ok_iff.1 h
      exact further h
    next letter _ =>
      obtain ⟨_, read, _⟩ := bind_eq_ok_iff.1 h
      exact absurd read (Reading.short_ne_ok letter)
    next =>
      split at h
      next => exact further h
      next =>
        split at h
        next own named =>
          cases h
          exact ⟨[], by rw [eq_of_ofText? named]; rfl⟩
        next => cases h

/-- A command that is run has been given all that it requires. -/
theorem Arguments.gives_of_read {arguments : List String} {a : Arguments}
    (h : read arguments = .ok a) :
    ∃ before after, arguments = before ++ a.command.name.text :: after ∧
      ∀ s ∈ a.command.name.required, ∃ argument ∈ after, Gives s argument := by
  obtain ⟨⟨front, rest⟩, readsFront, h⟩ := bind_eq_ok_iff.1 h
  cases rest with
  | none =>
    obtain ⟨_, _, h⟩ := bind_eq_ok_iff.1 h
    cases h
  | some back =>
    obtain ⟨name, after⟩ := back
    obtain ⟨⟨settled, command⟩, readsCommand, h⟩ := bind_eq_ok_iff.1 h
    obtain ⟨_, _, h⟩ := bind_eq_ok_iff.1 h
    obtain rfl := Except.ok.inj h
    obtain ⟨q, readsBack, readsCommand⟩ := bind_eq_ok_iff.1 readsCommand
    obtain ⟨u, settles, readsCommand⟩ := bind_eq_ok_iff.1 readsCommand
    split at readsCommand
    next own found =>
      obtain ⟨rfl, rfl⟩ := Prod.mk.inj (Except.ok.inj readsCommand)
      obtain ⟨before, split⟩ := eq_of_readFront readsFront
      have called : own.name = name := name_of_command? found
      have values := command?_isSome_iff.1 (by rw [found]; rfl)
      refine ⟨before, after, by rw [called, split], ?_⟩
      rw [called]
      intro s required
      -- the settings after the command are read from nothing, so an argument gives each of them
      have mem : s ∈ u.settings := Reading.mem_settings_of_value? (values s required)
      rcases settings_readSettings readsBack s (Reading.settings_settle settles mem) with
        none | given
      · cases none
      · exact given
    next => cases readsCommand

end CapturedTraffic.CommandLine
