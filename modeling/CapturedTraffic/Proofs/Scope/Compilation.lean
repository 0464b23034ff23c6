import CapturedTraffic.Proofs.Except
import CapturedTraffic.Scope.Config
import Mathlib.Data.List.Forall2

/-!
# Compiling scope configurations

A configuration gives patterns, each to be compiled in the mode of its field. Compiling succeeds if
all of them are accepted, and every rule of the scope then carries just what its entry gives.
Otherwise the report is on the first pattern that is refused.
-/
namespace CapturedTraffic.Scope

/-- A pattern of a configuration: the number of its entry, its field, its mode and its text. -/
structure Given where
  rule : Nat
  field : String
  mode : Pattern.Mode
  source : String

namespace Given

def Accepted (g : Given) : Prop := ∃ p, Pattern.compile g.mode g.source = .ok p

/-- The report that is due where the pattern is refused. -/
structure Refused (g : Given) (p : InvalidPattern) : Prop where
  rule : p.rule = g.rule
  field : p.place.text = g.field
  pattern : p.pattern = g.source
  fault : Pattern.compile g.mode g.source = .error p.fault

end Given

/-- The pattern of a body test. A sought text is none. -/
def BodyConfig.source? : BodyConfig → Option String
  | regex source => some source
  | contains _ => none

/-- The patterns of an entry, in the order of its fields. -/
def RuleConfig.given (rule : Nat) (r : RuleConfig) : List Given :=
  (r.url.map fun s => ⟨rule, "url", .text, s⟩).toList ++
    ((r.key.map fun s => ⟨rule, "header.key", .name, s⟩).toList ++
      ((r.value.map fun s => ⟨rule, "header.value", .text, s⟩).toList ++
        ((r.body.bind BodyConfig.source?).map fun s => ⟨rule, "body", .bytes, s⟩).toList))

/-- The patterns of entries that are numbered from `first` on. -/
def givenFrom (first : Nat) : List RuleConfig → List Given
  | [] => []
  | r :: rest => r.given first ++ givenFrom (first + 1) rest

/-- All patterns of a configuration, entry by entry. -/
def Config.given (c : Config) : List Given := givenFrom 0 c.rules

/-- A matcher that tests bodies as an entry says. -/
inductive BodyConfig.Carried : BodyConfig → BodyMatcher → Prop
  | regex {source : String} {p : Pattern} (h : Pattern.compile .bytes source = .ok p) :
      Carried (.regex source) (.regex p)
  | contains (needle : String) : Carried (.contains needle) (.contains (Text.Utf8.encode needle))

/-- A rule with the matchers that an entry gives, and none where the entry gives none. -/
structure RuleConfig.Carried (r : RuleConfig) (rule : Rule) : Prop where
  url : Option.Rel (fun s p => Pattern.compile .text s = .ok p) r.url rule.url
  key : Option.Rel (fun s p => Pattern.compile .name s = .ok p) r.key rule.header.key
  value : Option.Rel (fun s p => Pattern.compile .text s = .ok p) r.value rule.header.value
  body : Option.Rel BodyConfig.Carried r.body rule.body

section Given

variable {g : Given} {p q : InvalidPattern}

theorem Place.text_inj {a b : Place} : a.text = b.text ↔ a = b := by
  cases a <;> cases b <;> decide

theorem Given.Accepted.not_refused (h : g.Accepted) : ¬ g.Refused p := by
  intro refused
  obtain ⟨pattern, accepted⟩ := h
  rw [refused.fault] at accepted
  cases accepted

theorem Given.Refused.unique (hp : g.Refused p) (hq : g.Refused q) : p = q := by
  have rule : p.rule = q.rule := hp.rule.trans hq.rule.symm
  have place : p.place = q.place := Place.text_inj.1 (hp.field.trans hq.field.symm)
  have pattern : p.pattern = q.pattern := hp.pattern.trans hq.pattern.symm
  have fault : p.fault = q.fault := Except.error.inj (hp.fault.symm.trans hq.fault)
  cases p
  cases q
  simp_all

theorem Given.exclusive : Exclusive Given.Accepted Given.Refused :=
  ⟨Given.Accepted.not_refused, Given.Refused.unique⟩

end Given

section CompiledAt

variable {α : Type} (n : Nat) (place : Place) (mode : Pattern.Mode) (source : String)

/-- What comes of a pattern at a place: something made of it, or the report that it is refused. -/
def compiledAt (f : Pattern → α) : Except InvalidPattern α :=
  match Pattern.compile mode source with
  | .ok p => .ok (f p)
  | .error fault => .error ⟨n, place, source, fault⟩

theorem compileAt_some :
    compileAt n place mode (some source) = compiledAt n place mode source some := rfl

theorem BodyConfig.compile_regex :
    compile n (regex source) = compiledAt n .body .bytes source .regex := rfl

theorem settles_compiledAt (f : Pattern → α) :
    Settles Given.Accepted Given.Refused [⟨n, place.text, mode, source⟩]
      (compiledAt n place mode source f) := by
  rw [compiledAt]
  cases outcome : Pattern.compile mode source with
  | ok p => exact .of_passed (List.forall_mem_singleton.2 ⟨p, outcome⟩) (f p)
  | error fault =>
    refine .single nofun fun p refused => ?_
    cases refused
    exact ⟨rfl, rfl, rfl, outcome⟩

theorem compiledAt_eq_ok_iff {f : Pattern → α} {a : α} :
    compiledAt n place mode source f = .ok a ↔
      ∃ p, Pattern.compile mode source = .ok p ∧ f p = a := by
  rw [compiledAt]
  cases Pattern.compile mode source with
  | ok p => simp
  | error fault => simp

end CompiledAt

theorem settles_compileAt (n : Nat) (place : Place) (mode : Pattern.Mode) (o : Option String) :
    Settles Given.Accepted Given.Refused (o.map fun s => ⟨n, place.text, mode, s⟩).toList
      (compileAt n place mode o) := by
  cases o with
  | none => exact .ok none
  | some source => exact settles_compiledAt n place mode source some

theorem settles_compileBody (n : Nat) (o : Option BodyConfig) :
    Settles Given.Accepted Given.Refused
      ((o.bind BodyConfig.source?).map fun s => ⟨n, "body", .bytes, s⟩).toList
      (RuleConfig.compileBody n o) := by
  cases o with
  | none => exact .ok none
  | some body =>
    apply Settles.map
    cases body with
    | regex source => exact settles_compiledAt n .body .bytes source BodyMatcher.regex
    | contains needle => exact .ok _

theorem RuleConfig.settles_compile (rule : Nat) (r : RuleConfig) :
    Settles Given.Accepted Given.Refused (r.given rule) (r.compile rule) := by
  refine (settles_compileAt rule .url .text r.url).bind fun url _ => ?_
  refine (settles_compileAt rule .headerKey .name r.key).bind fun key _ => ?_
  refine (settles_compileAt rule .headerValue .text r.value).bind fun value _ => ?_
  rw [← List.append_nil (Option.toList _)]
  exact (settles_compileBody rule r.body).bind fun body _ => .ok _

theorem settles_compileFrom (first : Nat) (rules : List RuleConfig) :
    Settles Given.Accepted Given.Refused (givenFrom first rules) (compileFrom first rules) := by
  induction rules generalizing first with
  | nil => exact .ok []
  | cons r rest ih =>
    refine (r.settles_compile first).bind fun rule _ => ?_
    rw [← List.append_nil (givenFrom _ _)]
    exact (ih (first + 1)).bind fun rules _ => .ok _

theorem Config.settles_compile (c : Config) :
    Settles Given.Accepted Given.Refused c.given c.compile :=
  (settles_compileFrom 0 c.rules).map Scope.mk

theorem Config.compile_eq_error_iff {c : Config} {p : InvalidPattern} :
    c.compile = .error p ↔ FirstFailure Given.Accepted Given.Refused c.given p :=
  c.settles_compile.error_iff Given.exclusive

section Rules

variable {n : Nat} {r : RuleConfig} {rule : Rule}

theorem rel_none_iff {α β : Type} {R : α → β → Prop} {q : Option β} :
    Option.Rel R none q ↔ none = q := by
  constructor
  · rintro ⟨⟩
    rfl
  · rintro rfl
    exact .none

theorem compileAt_eq_ok_iff {place : Place} {mode : Pattern.Mode} {o : Option String}
    {q : Option Pattern} :
    compileAt n place mode o = .ok q ↔
      Option.Rel (fun s p => Pattern.compile mode s = .ok p) o q := by
  cases o with
  | none => rw [compileAt, Except.ok.injEq, rel_none_iff]
  | some source =>
    rw [compileAt_some, compiledAt_eq_ok_iff]
    constructor
    · rintro ⟨p, accepted, rfl⟩
      exact .some accepted
    · rintro (accepted | _)
      exact ⟨_, accepted, rfl⟩

theorem BodyConfig.compile_eq_ok_iff {body : BodyConfig} {m : BodyMatcher} :
    body.compile n = .ok m ↔ body.Carried m := by
  cases body with
  | contains needle =>
    constructor
    · rintro ⟨⟩
      exact .contains needle
    · rintro ⟨⟩
      rfl
  | regex source =>
    rw [compile_regex, compiledAt_eq_ok_iff]
    constructor
    · rintro ⟨p, accepted, rfl⟩
      exact .regex accepted
    · rintro ⟨accepted⟩
      exact ⟨_, accepted, rfl⟩

theorem compileBody_eq_ok_iff {o : Option BodyConfig} {q : Option BodyMatcher} :
    RuleConfig.compileBody n o = .ok q ↔ Option.Rel BodyConfig.Carried o q := by
  cases o with
  | none => rw [RuleConfig.compileBody, Except.ok.injEq, rel_none_iff]
  | some body =>
    rw [RuleConfig.compileBody, map_eq_ok_iff]
    constructor
    · rintro ⟨m, compiled, rfl⟩
      exact .some (BodyConfig.compile_eq_ok_iff.1 compiled)
    · rintro (carried | _)
      exact ⟨_, BodyConfig.compile_eq_ok_iff.2 carried, rfl⟩

theorem RuleConfig.compile_eq_ok_iff : r.compile n = .ok rule ↔ r.Carried rule := by
  simp only [compile, bind_eq_ok_iff, compileAt_eq_ok_iff, compileBody_eq_ok_iff]
  constructor
  · rintro ⟨url, hurl, key, hkey, value, hvalue, body, hbody, ⟨⟩⟩
    exact ⟨hurl, hkey, hvalue, hbody⟩
  · intro carried
    exact ⟨_, carried.url, _, carried.key, _, carried.value, _, carried.body, rfl⟩

theorem compileFrom_eq_ok_iff {entries : List RuleConfig} {rules : List Rule} :
    compileFrom n entries = .ok rules ↔ List.Forall₂ RuleConfig.Carried entries rules := by
  induction entries generalizing n rules with
  | nil =>
    rw [compileFrom, List.forall₂_nil_left_iff]
    constructor
    · rintro ⟨⟩
      rfl
    · rintro rfl
      rfl
  | cons r rest ih =>
    simp only [compileFrom, bind_eq_ok_iff, RuleConfig.compile_eq_ok_iff, ih]
    constructor
    · rintro ⟨rule, carried, others, tail, ⟨⟩⟩
      exact .cons carried tail
    · rintro (_ | ⟨carried, tail⟩)
      exact ⟨_, carried, _, tail, rfl⟩

theorem Config.compile_eq_ok_iff {c : Config} {s : Scope} :
    c.compile = .ok s ↔ List.Forall₂ RuleConfig.Carried c.rules s.rules := by
  rw [compile, map_eq_ok_iff]
  constructor
  · rintro ⟨rules, compiled, rfl⟩
    exact compileFrom_eq_ok_iff.1 compiled
  · intro carried
    exact ⟨s.rules, compileFrom_eq_ok_iff.2 carried, rfl⟩

theorem isNone_of_rel {α β : Type} {R : α → β → Prop} {o : Option α} {q : Option β}
    (h : Option.Rel R o q) : q.isNone = o.isNone := by
  cases h <;> rfl

/-- A rule is empty if its entry gives nothing to test by. -/
theorem RuleConfig.Carried.isEmpty_iff (h : r.Carried rule) :
    rule.isEmpty = true ↔ r.url = none ∧ r.key = none ∧ r.value = none ∧ r.body = none := by
  simp only [Rule.isEmpty, HeaderMatcher.isEmpty, isNone_of_rel h.url, isNone_of_rel h.key,
    isNone_of_rel h.value, isNone_of_rel h.body, Bool.and_eq_true, Option.isNone_iff_eq_none,
    and_assoc]

end Rules

/--
A configuration compiles exactly if all its patterns are accepted. The scope then has a rule for
each entry that carries what the entry gives, and is empty if the entry gives nothing. Otherwise
the report is the one on the first pattern, entry by entry and field by field, that is refused.
-/
theorem Config.compile_characterised (c : Config) :
    ((∃ s, c.compile = .ok s) ↔ ∀ g ∈ c.given, g.Accepted) ∧
      (∀ s, c.compile = .ok s ↔ List.Forall₂ RuleConfig.Carried c.rules s.rules) ∧
      (∀ s, c.compile = .ok s → s.size = c.rules.length ∧
        List.Forall₂ (fun r rule => Rule.isEmpty rule = true ↔
          r.url = none ∧ r.key = none ∧ r.value = none ∧ r.body = none) c.rules s.rules) ∧
      (∀ p, c.compile = .error p ↔ FirstFailure Given.Accepted Given.Refused c.given p) := by
  refine ⟨c.settles_compile.ok_iff Given.exclusive, fun _ => compile_eq_ok_iff,
    fun s compiled => ?_, fun _ => compile_eq_error_iff⟩
  have carried := compile_eq_ok_iff.1 compiled
  exact ⟨carried.length_eq.symm, carried.imp fun _ _ => RuleConfig.Carried.isEmpty_iff⟩

/--
The second entry has a header test without patterns, so its rule is empty. Where several patterns
are refused, the one of the earliest entry is reported, and within it the one on header values
before the one on bodies.
-/
theorem Config.compile_characterised_second :
    let p := (Pattern.compile .text "^ok$").toOption.get (by decide +kernel)
    let sound : Config := ⟨[⟨some "^ok$", none, some (.contains "é")⟩,
      ⟨none, some ⟨none, none⟩, none⟩]⟩
    let s : Scope := ⟨[⟨some p, .empty, some (.contains [0xC3, 0xA9])⟩, .empty]⟩
    let faulty : Config := ⟨[⟨some "^ok$", none, some (.contains "(")⟩,
      ⟨none, some ⟨none, some "("⟩, some (.regex ")")⟩, ⟨some "[", none, none⟩]⟩
    let report : InvalidPattern := ⟨1, .headerValue, "(", .malformed⟩
    sound.compile = .ok s ∧ s.size = 2 ∧ Rule.empty.isEmpty = true ∧
      faulty.compile = .error report ∧
        FirstFailure Given.Accepted Given.Refused faulty.given report := by
  intro p sound s faulty report
  have accepted : Pattern.compile .text "^ok$" = .ok p := by decide +kernel
  have refused : Pattern.compile .text "(" = .error .malformed := by decide +kernel
  have needle : Text.Utf8.encode "é" = [0xC3, 0xA9] := by decide
  have compiled : sound.compile = .ok s := by
    apply compile_eq_ok_iff.2
    have first : BodyConfig.Carried (.contains "é") (.contains [0xC3, 0xA9]) := by
      rw [← needle]
      exact .contains "é"
    exact .cons ⟨.some accepted, .none, .none, .some first⟩
      (.cons ⟨.none, .none, .none, .none⟩ .nil)
  have first : FirstFailure Given.Accepted Given.Refused faulty.given report :=
    .later ⟨p, accepted⟩ (.here ⟨rfl, rfl, rfl, refused⟩ _)
  obtain ⟨_, _, success, _⟩ := compile_characterised sound
  obtain ⟨_, _, _, failure⟩ := compile_characterised faulty
  obtain ⟨size, _ | ⟨_, _ | ⟨second, _⟩⟩⟩ := success s compiled
  exact ⟨compiled, size, second.2 ⟨rfl, rfl, rfl, rfl⟩, (failure report).2 first, first⟩

end CapturedTraffic.Scope
