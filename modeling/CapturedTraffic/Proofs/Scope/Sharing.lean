import CapturedTraffic.Scope.Shared

/-!
# Runs of a shared scope

What callers get from a scope that they share. Each call has the scope for itself, so the calls of
any number of callers are one run, in the order in which they get hold of the scope. A snapshot is
the scope that was installed last before it, and it decides the same whatever is installed after it.
Scopes come out in the order in which they were installed, each of them once.
-/
namespace CapturedTraffic.Scope

/-- A call of some caller. Snapshots are numbered in the order in which they are taken. -/
inductive Call
  | snapshot
  | replace (next : Scope)
  | reload (text : String)
  | ask (number : Nat) (e : Exchange)

inductive Answer
  | taken (s : Scope)
  | displaced (s : Scope)
  | refused (fault : ConfigFault)
  | decided (hit : Option Hit)
  | unknown

namespace Call

/-- The scope that a call installs. -/
def installed? : Call → Option Scope
  | snapshot => none
  | replace next => some next
  | reload text => (ofText text).toOption
  | ask _ _ => none

def isSnapshot : Call → Bool
  | snapshot => true
  | _ => false

end Call

def Answer.displaced? : Answer → Option Scope
  | displaced s => some s
  | _ => none

theorem Answer.displaced?_eq_some_iff {a : Answer} {s : Scope} :
    a.displaced? = some s ↔ a = .displaced s := by
  cases a <;> simp [displaced?]

/-- The scope that was installed last, or the first one if there is none. -/
def latest (first : Scope) (calls : List Call) : Scope :=
  ((calls.filterMap Call.installed?).getLast?).getD first

/-- A shared scope and the snapshots that have been taken of it. -/
structure Session where
  shared : Shared
  held : List Scope

namespace Session

def start (first : Scope) : Session := ⟨⟨first⟩, []⟩

def step (s : Session) : Call → Answer × Session
  | .snapshot => (.taken s.shared.snapshot, { s with held := s.held ++ [s.shared.snapshot] })
  | .replace next =>
    let (previous, shared) := s.shared.replace next
    (.displaced previous, { s with shared := shared })
  | .reload text =>
    match s.shared.reload text with
    | .ok (previous, shared) => (.displaced previous, { s with shared := shared })
    | .error fault => (.refused fault, s)
  | .ask number e =>
    match s.held[number]? with
    | some scope => (.decided (scope.hit? e), s)
    | none => (.unknown, s)

/-- The answers to calls in their order, and what they leave. -/
def run (s : Session) : List Call → List Answer × Session
  | [] => ([], s)
  | c :: rest => ((s.step c).1 :: ((s.step c).2.run rest).1, ((s.step c).2.run rest).2)

variable {s : Session} {c : Call} {text : String}

theorem step_reload_ok {next : Scope} (h : ofText text = .ok next) :
    s.step (.reload text) = (.displaced s.shared.current, { s with shared := ⟨next⟩ }) := by
  rw [step, Shared.reload, h]
  rfl

theorem step_reload_error {fault : ConfigFault} (h : ofText text = .error fault) :
    s.step (.reload text) = (.refused fault, s) := by
  rw [step, Shared.reload, h]
  rfl

theorem step_ask {number : Nat} {scope : Scope} (h : s.held[number]? = some scope) (e : Exchange) :
    s.step (.ask number e) = (.decided (scope.hit? e), s) := by
  rw [step, h]

/-- What a call leaves: the scope that it installs, if any, and one more held with a snapshot. -/
theorem step_snd (s : Session) (c : Call) :
    (s.step c).2 = ⟨⟨c.installed?.getD s.shared.current⟩,
      s.held ++ if c.isSnapshot then [s.shared.current] else []⟩ := by
  have unheld : s.held = s.held ++ [] := (List.append_nil _).symm
  cases c with
  | snapshot => rfl
  | replace next => exact congrArg (mk ⟨next⟩) unheld
  | reload text =>
    cases read : ofText text with
    | ok next =>
      rw [step_reload_ok read, Call.installed?, read]
      exact congrArg (mk ⟨next⟩) unheld
    | error fault =>
      rw [step_reload_error read, Call.installed?, read]
      exact congrArg (mk s.shared) unheld
  | ask number e =>
    have same : (s.step (.ask number e)).2 = s := by
      rw [step]
      split <;> rfl
    rw [same]
    exact congrArg (mk s.shared) unheld

theorem current_step (s : Session) (c : Call) :
    (s.step c).2.shared.current = c.installed?.getD s.shared.current := by
  rw [step_snd]

/-- What a call displaces is what was current before it. -/
theorem displaced?_step (s : Session) (c : Call) :
    (s.step c).1.displaced? = c.installed?.map fun _ => s.shared.current := by
  cases c with
  | snapshot => rfl
  | replace next => rfl
  | reload text =>
    cases read : ofText text with
    | ok next => rw [step_reload_ok read, Call.installed?, read]; rfl
    | error fault => rw [step_reload_error read, Call.installed?, read]; rfl
  | ask number e =>
    rw [step]
    split <;> rfl

theorem run_append (s : Session) (a b : List Call) :
    s.run (a ++ b) = ((s.run a).1 ++ ((s.run a).2.run b).1, ((s.run a).2.run b).2) := by
  induction a generalizing s with
  | nil => rfl
  | cons c a ih => rw [List.cons_append, run, ih, run]; rfl

theorem length_run (s : Session) (calls : List Call) : (s.run calls).1.length = calls.length := by
  induction calls generalizing s with
  | nil => rfl
  | cons c calls ih => rw [run, List.length_cons, ih, List.length_cons]

/-- A call is answered by the state that the calls before it have left. -/
theorem getElem?_run (s : Session) (before : List Call) (c : Call) (after : List Call) :
    (s.run (before ++ c :: after)).1[before.length]? = some ((s.run before).2.step c).1 := by
  rw [run_append, List.getElem?_append_right (Nat.le_of_eq (length_run s before)), length_run,
    Nat.sub_self]
  rfl

theorem latest_cons (first : Scope) (c : Call) (calls : List Call) :
    latest first (c :: calls) = latest (c.installed?.getD first) calls := by
  rw [latest, latest, List.filterMap_cons]
  cases c.installed? with
  | none => rfl
  | some next => rw [List.getLast?_cons, Option.getD_some, Option.getD_some]

theorem current_run (s : Session) (calls : List Call) :
    (s.run calls).2.shared.current = latest s.shared.current calls := by
  induction calls generalizing s with
  | nil => rfl
  | cons c calls ih => rw [run, ih, current_step, latest_cons]

theorem displaced_run (s : Session) (calls : List Call) :
    (s.run calls).1.filterMap Answer.displaced? ++ [(s.run calls).2.shared.current] =
      s.shared.current :: calls.filterMap Call.installed? := by
  induction calls generalizing s with
  | nil => rfl
  | cons c calls ih =>
    have rest := ih (s.step c).2
    rw [current_step] at rest
    rw [run, List.filterMap_cons, List.filterMap_cons, displaced?_step]
    cases installed : c.installed? with
    | none => rw [installed] at rest; exact rest
    | some next => rw [installed] at rest; exact congrArg (s.shared.current :: ·) rest

theorem length_held_run (s : Session) (calls : List Call) :
    (s.run calls).2.held.length = s.held.length + calls.countP Call.isSnapshot := by
  induction calls generalizing s with
  | nil => rfl
  | cons c calls ih =>
    rw [run, ih, step_snd, List.countP_cons, List.length_append]
    cases c.isSnapshot with
    | true => exact (Nat.add_assoc _ 1 _).trans (congrArg _ (Nat.add_comm 1 _))
    | false => rfl

/-- Snapshots are never changed and never lost. -/
theorem held_prefix_run (s : Session) (calls : List Call) : s.held <+: (s.run calls).2.held := by
  induction calls generalizing s with
  | nil => exact List.prefix_rfl
  | cons c calls ih =>
    have first : s.held <+: (s.step c).2.held := by
      rw [step_snd]
      exact List.prefix_append _ _
    exact first.trans (ih (s.step c).2)

/-- A snapshot is found under its number after any further calls. -/
theorem getElem?_held (s : Session) (later : List Call) :
    (s.run (.snapshot :: later)).2.held[s.held.length]? = some s.shared.current := by
  obtain ⟨others, kept⟩ := held_prefix_run (s.step .snapshot).2 later
  have taken : (s.step .snapshot).2.held = s.held ++ [s.shared.current] := rfl
  rw [run, ← kept, taken, List.getElem?_append_left (by simp)]
  exact List.getElem?_concat_length

theorem ask_run (first : Scope) (before between after : List Call) (e : Exchange) :
    ((start first).run (before ++ .snapshot :: between ++
      .ask (before.countP Call.isSnapshot) e :: after)).1[(before ++ .snapshot :: between).length]? =
        some (.decided ((latest first before).hit? e)) := by
  have number : ((start first).run before).2.held.length = before.countP Call.isSnapshot := by
    rw [length_held_run]
    exact Nat.zero_add _
  have held : ((start first).run (before ++ .snapshot :: between)).2.held[
      before.countP Call.isSnapshot]? = some (latest first before) := by
    rw [run_append, ← number, getElem?_held, current_run]
    rfl
  rw [getElem?_run, step_ask held]

/-- A call that leaves all as it is might as well not have been made. -/
theorem run_of_step_eq (before after : List Call)
    (h : ((s.run before).2.step c).2 = (s.run before).2) :
    (s.run (before ++ c :: after)).2 = (s.run (before ++ after)).2 ∧
      (s.run (before ++ c :: after)).1.eraseIdx before.length = (s.run (before ++ after)).1 := by
  have place : before.length = (s.run before).1.length := (length_run s before).symm
  rw [run_append, run_append, run, h, place, List.eraseIdx_append_of_length_le (Nat.le_refl _),
    Nat.sub_self, List.eraseIdx_cons_zero]
  exact ⟨rfl, rfl⟩

/-- A text gives no scope if no configuration is read from it, or none that can be compiled. -/
theorem exists_fault_of_not_compiled
    (h : ∀ config, Config.read? text = some config → ∃ p, config.compile = .error p) :
    ∃ fault, ofText text = .error fault := by
  rw [ofText]
  cases read : Config.read? text with
  | none => exact ⟨.malformed, rfl⟩
  | some config =>
    obtain ⟨p, refused⟩ := h config read
    exact ⟨.invalidPattern p, congrArg (Except.mapError ConfigFault.invalidPattern) refused⟩

/--
Any run of calls. A snapshot is the scope that was installed last, and so is what a call answers
that installs another; the scopes that were displaced, with the one that is left, are the first one
and those that were installed, in their order. A snapshot gives the hits of the scope that it was
taken of, whatever has been called in between, and a configuration that gives no scope leaves no
trace but its refusal.
-/
theorem run_characterised (first : Scope) :
    (∀ before after, ((start first).run (before ++ .snapshot :: after)).1[before.length]? =
        some (.taken (latest first before))) ∧
      (∀ before c after, c.installed?.isSome →
        ((start first).run (before ++ c :: after)).1[before.length]? =
          some (.displaced (latest first before))) ∧
      (∀ calls, ((start first).run calls).1.filterMap Answer.displaced? ++
          [((start first).run calls).2.shared.snapshot] = first :: calls.filterMap Call.installed?) ∧
      (∀ before between after e, ((start first).run (before ++ .snapshot :: between ++
        .ask (before.countP Call.isSnapshot) e :: after)).1[(before ++ .snapshot :: between).length]? =
          some (.decided ((latest first before).hit? e))) ∧
      ∀ before text after,
        (∀ config, Config.read? text = some config → ∃ p, config.compile = .error p) →
          (∃ fault, ((start first).run (before ++ .reload text :: after)).1[before.length]? =
            some (.refused fault)) ∧
          ((start first).run (before ++ .reload text :: after)).2 =
            ((start first).run (before ++ after)).2 ∧
          ((start first).run (before ++ .reload text :: after)).1.eraseIdx before.length =
            ((start first).run (before ++ after)).1 := by
  refine ⟨?snapshots, ?installations, displaced_run (start first), ask_run first, ?refusals⟩
  case snapshots =>
    intro before after
    have current := current_run (start first) before
    rw [getElem?_run, step, Shared.snapshot, current]
    rfl
  case installations =>
    intro before c after installs
    obtain ⟨next, installed⟩ := Option.isSome_iff_exists.1 installs
    have displaced := displaced?_step ((start first).run before).2 c
    rw [installed, current_run, Option.map_some, Answer.displaced?_eq_some_iff] at displaced
    rw [getElem?_run, displaced]
    rfl
  case refusals =>
    intro before text after given
    obtain ⟨fault, read⟩ := exists_fault_of_not_compiled given
    refine ⟨⟨fault, ?_⟩, run_of_step_eq before after ?_⟩
    · rw [getElem?_run, step_reload_error read]
    · rw [step_reload_error read]

/-- A snapshot outlives the scope it was taken of, and a text that is no configuration. -/
theorem run_characterised_replaced :
    let first : Scope := ⟨[⟨none, .empty, some (.contains [98])⟩]⟩
    let e := (Exchange.new ⟨0, by decide⟩ "GET" none).withBody [97, 98]
    let calls : List Call := [.snapshot, .replace .empty, .reload "[", .ask 0 e, .snapshot]
    (Call.replace .empty).installed?.isSome ∧ Config.read? "[" = none ∧
      ((start first).run calls).1[0]? = some (.taken first) ∧
      ((start first).run calls).1[1]? = some (.displaced first) ∧
      (∃ fault, ((start first).run calls).1[2]? = some (.refused fault)) ∧
      ((start first).run calls).1[3]? = some (.decided (some ⟨0, .body⟩)) ∧
      ((start first).run calls).1[4]? = some (.taken .empty) := by
  intro first e calls
  have unread : Config.read? "[" = none := by decide +kernel
  have malformed : ∀ config, Config.read? "[" = some config → ∃ p, config.compile = .error p := by
    intro config read
    rw [unread] at read
    cases read
  have last : latest first [.snapshot, .replace .empty, .reload "[", .ask 0 e] = .empty := by
    have refused : (Call.reload "[").installed? = none := by
      rw [Call.installed?, ofText, unread]
      rfl
    rw [latest, List.filterMap_cons, List.filterMap_cons, List.filterMap_cons, refused]
    rfl
  obtain ⟨snapshots, installations, _, asks, refusals⟩ := run_characterised first
  refine ⟨rfl, unread, ?_, ?_, ?_, ?_, ?_⟩
  · exact snapshots [] [.replace .empty, .reload "[", .ask 0 e, .snapshot]
  · exact installations [.snapshot] (.replace .empty) [.reload "[", .ask 0 e, .snapshot] rfl
  · exact (refusals [.snapshot, .replace .empty] "[" [.ask 0 e, .snapshot] malformed).1
  · exact asks [] [.replace .empty, .reload "["] [.snapshot] e
  · rw [← last]
    exact snapshots [.snapshot, .replace .empty, .reload "[", .ask 0 e] []

end Session

end CapturedTraffic.Scope
