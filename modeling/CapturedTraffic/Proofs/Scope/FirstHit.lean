import CapturedTraffic.Scope.Basic

/-!
# The first hit of a scope

What it takes for each test of a rule to pass, and which rule and which of its tests is reported:
the first rule that some test passes for, and the first such test. What is not set in a rule, and
what is absent from an exchange, makes no test pass.
-/
namespace CapturedTraffic

/-- The header entries that a matcher admits. One without patterns admits none. -/
inductive HeaderMatcher.Admits : HeaderMatcher → String → List String → Prop
  | key {k : Pattern} {name : String} (values : List String) (hk : k.matchesText name = true) :
      Admits ⟨some k, none⟩ name values
  | value {v : Pattern} (name : String) {values : List String} {text : String} (mem : text ∈ values)
      (hv : v.matchesText text = true) : Admits ⟨none, some v⟩ name values
  | both {k v : Pattern} {name : String} {values : List String} {text : String}
      (hk : k.matchesText name = true) (mem : text ∈ values) (hv : v.matchesText text = true) :
      Admits ⟨some k, some v⟩ name values

theorem HeaderMatcher.accepts_iff {m : HeaderMatcher} {name : String} {values : List String} :
    m.accepts name values = true ↔ m.Admits name values := by
  obtain ⟨key, value⟩ := m
  constructor
  · intro h
    cases key with
    | none =>
      cases value with
      | none => cases h
      | some v =>
        obtain ⟨text, mem, hv⟩ := List.any_eq_true.1 h
        exact .value name mem hv
    | some k =>
      cases value with
      | none => exact .key values h
      | some v =>
        obtain ⟨hk, found⟩ := Bool.and_eq_true_iff.1 h
        obtain ⟨text, mem, hv⟩ := List.any_eq_true.1 found
        exact .both hk mem hv
  · intro h
    cases h with
    | key _ hk => exact hk
    | value _ mem hv => exact List.any_eq_true.2 ⟨_, mem, hv⟩
    | both hk mem hv => exact Bool.and_eq_true_iff.2 ⟨hk, List.any_eq_true.2 ⟨_, mem, hv⟩⟩

namespace Scope

variable {r : Rule} {e : Exchange} {s : Scope}

/-- The place of a test in the order in which the tests of a rule are made. -/
def Reason.place : Reason → Nat
  | url => 0
  | header => 1
  | body => 2

theorem Reason.eq_of_place_eq {a b : Reason} (h : a.place = b.place) : a = b := by
  revert h
  cases a <;> cases b <;> simp [place]

namespace Rule

/-- What it takes for a test to pass. One header entry must satisfy all that is asked of headers. -/
def Passes (r : Rule) (e : Exchange) : Reason → Prop
  | .url => ∃ p ∈ r.url, ∃ url ∈ e.url, p.matchesText url.text = true
  | .header => ∃ entry ∈ e.headers.entries, r.header.Admits entry.1 entry.2
  | .body => ∃ m ∈ r.body, m.accepts e.body = true

theorem urlHolds_iff : r.urlHolds e = true ↔ r.Passes e .url := by
  simp only [urlHolds, Passes, Option.any_eq_true, Option.mem_def]

theorem headerHolds_iff : r.headerHolds e = true ↔ r.Passes e .header := by
  simp only [headerHolds, Passes, List.any_eq_true, HeaderMatcher.accepts_iff]

theorem bodyHolds_iff : r.bodyHolds e = true ↔ r.Passes e .body := by
  simp only [bodyHolds, Passes, Option.any_eq_true, Option.mem_def]

/-- The test that passes although none before it does. -/
structure FirstPass (r : Rule) (e : Exchange) (reason : Reason) : Prop where
  passes : r.Passes e reason
  first : ∀ earlier, earlier.place < reason.place → ¬ r.Passes e earlier

theorem FirstPass.unique {a b : Reason} (ha : r.FirstPass e a) (hb : r.FirstPass e b) : a = b := by
  have same : a.place = b.place := by
    rcases Nat.lt_trichotomy a.place b.place with lt | eq | gt
    · exact absurd ha.passes (hb.first a lt)
    · exact eq
    · exact absurd hb.passes (ha.first b gt)
  exact Reason.eq_of_place_eq same

theorem reason?_spec (r : Rule) (e : Exchange) :
    (∃ reason, r.reason? e = some reason ∧ r.FirstPass e reason) ∨
      r.reason? e = none ∧ ∀ reason, ¬ r.Passes e reason := by
  unfold reason?
  split
  next url => exact .inl ⟨.url, rfl, urlHolds_iff.1 url, fun _ h => absurd h (Nat.not_lt_zero _)⟩
  next url =>
    rw [urlHolds_iff] at url
    split
    next header =>
      refine .inl ⟨.header, rfl, headerHolds_iff.1 header, fun earlier h => ?_⟩
      cases earlier with
      | url => exact url
      | header | body => simp [Reason.place] at h
    next header =>
      rw [headerHolds_iff] at header
      split
      next body =>
        refine .inl ⟨.body, rfl, bodyHolds_iff.1 body, fun earlier h => ?_⟩
        cases earlier with
        | url => exact url
        | header => exact header
        | body => simp [Reason.place] at h
      next body =>
        rw [bodyHolds_iff] at body
        refine .inr ⟨rfl, fun reason => ?_⟩
        cases reason with
        | url => exact url
        | header => exact header
        | body => exact body

theorem reason?_eq_none_iff : r.reason? e = none ↔ ∀ reason, ¬ r.Passes e reason := by
  rcases reason?_spec r e with ⟨found, answer, first⟩ | ⟨answer, nothing⟩
  · rw [answer]
    constructor
    · intro h
      cases h
    · intro nothing
      exact absurd first.passes (nothing found)
  · exact iff_of_true answer nothing

theorem holds_iff : r.holds e = true ↔ ∃ reason, r.Passes e reason := by
  rw [holds, Option.isSome_iff_ne_none, Ne, reason?_eq_none_iff, Classical.not_forall_not]

theorem isEmpty_iff : r.isEmpty = true ↔ r = empty := by
  obtain ⟨url, ⟨key, value⟩, body⟩ := r
  simp [isEmpty, HeaderMatcher.isEmpty, empty, HeaderMatcher.empty, and_assoc]

theorem not_passes_of_isEmpty (h : r.isEmpty = true) (reason : Reason) : ¬ r.Passes e reason := by
  rw [isEmpty_iff.1 h]
  cases reason with
  | url =>
    rintro ⟨p, hp, _⟩
    cases hp
  | header =>
    rintro ⟨entry, _, admitted⟩
    cases admitted
  | body =>
    rintro ⟨m, hm, _⟩
    cases hm

end Rule

/-- The first rule that some test passes for, with the first test of it that does. -/
structure FirstHit (e : Exchange) (rules : List Rule) (hit : Hit) : Prop where
  rule : ∃ r ∈ rules[hit.rule]?, r.FirstPass e hit.reason
  least : ∀ i < hit.rule, ∀ q ∈ rules[i]?, ∀ reason, ¬ q.Passes e reason

theorem firstHit_zero {rest : List Rule} {reason : Reason} :
    FirstHit e (r :: rest) ⟨0, reason⟩ ↔ r.FirstPass e reason := by
  constructor
  · rintro ⟨⟨q, hq, first⟩, _⟩
    cases hq
    exact first
  · intro first
    exact ⟨⟨r, rfl, first⟩, fun i hi => absurd hi (Nat.not_lt_zero i)⟩

theorem firstHit_succ {rest : List Rule} {i : Nat} {reason : Reason} :
    FirstHit e (r :: rest) ⟨i + 1, reason⟩ ↔
      (∀ reason, ¬ r.Passes e reason) ∧ FirstHit e rest ⟨i, reason⟩ := by
  constructor
  · rintro ⟨rule, least⟩
    exact ⟨least 0 (Nat.succ_pos i) r rfl, rule, fun j hj => least (j + 1) (Nat.succ_lt_succ hj)⟩
  · rintro ⟨nothing, rule, least⟩
    refine ⟨rule, fun j hj q hq => ?_⟩
    cases j with
    | zero =>
      cases hq
      exact nothing
    | succ j => exact least j (Nat.lt_of_succ_lt_succ hj) q hq

theorem hitFrom_eq_some_iff {first : Nat} {rules : List Rule} {hit : Hit} :
    hitFrom e first rules = some hit ↔
      ∃ i, hit.rule = first + i ∧ FirstHit e rules ⟨i, hit.reason⟩ := by
  induction rules generalizing first with
  | nil =>
    constructor
    · intro h
      cases h
    · rintro ⟨i, _, ⟨r, hr, _⟩, _⟩
      cases hr
  | cons r rest ih =>
    rw [hitFrom]
    rcases r.reason?_spec e with ⟨reason, answer, passes⟩ | ⟨answer, nothing⟩
    · rw [answer]
      constructor
      · rintro ⟨⟩
        exact ⟨0, rfl, firstHit_zero.2 passes⟩
      · rintro ⟨i, place, found⟩
        cases i with
        | zero =>
          obtain ⟨rule, reason'⟩ := hit
          cases place
          rw [passes.unique (firstHit_zero.1 found)]
        | succ i => exact absurd passes.passes ((firstHit_succ.1 found).1 reason)
    · rw [answer]
      refine ih.trans ⟨?_, ?_⟩
      · rintro ⟨i, place, found⟩
        exact ⟨i + 1, by omega, firstHit_succ.2 ⟨nothing, found⟩⟩
      · rintro ⟨i, place, found⟩
        cases i with
        | zero => exact absurd (firstHit_zero.1 found).passes (nothing _)
        | succ i => exact ⟨i, by omega, (firstHit_succ.1 found).2⟩

theorem hit?_eq_some_iff {hit : Hit} : s.hit? e = some hit ↔ FirstHit e s.rules hit := by
  rw [hit?, hitFrom_eq_some_iff]
  constructor
  · rintro ⟨i, place, found⟩
    rw [Nat.zero_add] at place
    subst place
    exact found
  · intro found
    exact ⟨hit.rule, (Nat.zero_add _).symm, found⟩

theorem hitFrom_eq_none_iff {first : Nat} {rules : List Rule} :
    hitFrom e first rules = none ↔ ∀ r ∈ rules, ∀ reason, ¬ r.Passes e reason := by
  induction rules generalizing first with
  | nil => simp [hitFrom]
  | cons r rest ih =>
    rw [hitFrom, List.forall_mem_cons]
    rcases r.reason?_spec e with ⟨reason, answer, passes⟩ | ⟨answer, nothing⟩
    · rw [answer]
      exact iff_of_false (by simp) fun h => h.1 reason passes.passes
    · rw [answer]
      exact ih.trans (and_iff_right nothing).symm

theorem hit?_eq_none_iff : s.hit? e = none ↔ ∀ r ∈ s.rules, r.holds e = false := by
  rw [hit?, hitFrom_eq_none_iff]
  apply forall₂_congr
  intro r _
  rw [← Bool.not_eq_true, Rule.holds_iff, not_exists]

theorem exists_hit?_iff : (∃ hit, s.hit? e = some hit) ↔ ∃ r ∈ s.rules, r.holds e = true := by
  constructor
  · rintro ⟨hit, found⟩
    obtain ⟨r, hr, first⟩ := (hit?_eq_some_iff.1 found).rule
    exact ⟨r, List.mem_of_getElem? hr, Rule.holds_iff.2 ⟨hit.reason, first.passes⟩⟩
  · rintro ⟨r, hr, holds⟩
    cases found : s.hit? e with
    | some hit => exact ⟨hit, rfl⟩
    | none =>
      rw [hit?_eq_none_iff.1 found r hr] at holds
      cases holds

theorem contains_iff : s.contains e = true ↔ ∃ hit, s.hit? e = some hit := Option.isSome_iff_exists

/--
A scope has a hit exactly if one of its rules holds, and a rule holds exactly if one of its tests
passes. The hit is the first such rule with the first such test of it, and being in scope is having
a hit. Rules and scopes that are empty put nothing in scope.
-/
theorem hit?_characterised (s : Scope) (e : Exchange) :
    (∀ hit, s.hit? e = some hit ↔ FirstHit e s.rules hit) ∧
      ((∃ hit, s.hit? e = some hit) ↔ ∃ r ∈ s.rules, r.holds e = true) ∧
      (∀ r : Rule, r.holds e = true ↔ ∃ reason, r.Passes e reason) ∧
      (s.contains e = true ↔ ∃ hit, s.hit? e = some hit) ∧
      (e.inScope s = true ↔ ∃ hit, s.hit? e = some hit) ∧
      (∀ r : Rule, r.isEmpty = true → r.holds e = false) ∧
      (s.isEmpty = true → s.hit? e = none) := by
  refine ⟨fun _ => hit?_eq_some_iff, exists_hit?_iff, fun _ => Rule.holds_iff, contains_iff,
    contains_iff, fun r empty => ?_, fun empty => ?_⟩
  · rw [← Bool.not_eq_true, Rule.holds_iff]
    rintro ⟨reason, passes⟩
    exact Rule.not_passes_of_isEmpty empty reason passes
  · rw [hit?_eq_none_iff, List.isEmpty_iff.1 empty]
    simp

/--
The first rule is empty, and the second finds its name and its value in different headers. The
third would hold of the body too, but headers are tested before it.
-/
theorem hit?_characterised_third :
    let host := (Pattern.compile .text "^Host$").toOption.get (by decide +kernel)
    let secret := (Pattern.compile .text "^secret").toOption.get (by decide +kernel)
    let third := (Rule.empty.withHeaderValue secret).withBody (.contains [98])
    let s : Scope := ⟨[.empty, (Rule.empty.withHeaderKey host).withHeaderValue secret, third]⟩
    let e := (((Exchange.new ⟨0, by decide⟩ "GET" none).withHeader "Host" "a.test").withHeader
      "Authorization" "secret 1").withBody [97, 98]
    s.hit? e = some ⟨2, .header⟩ ∧ FirstHit e s.rules ⟨2, .header⟩ ∧ e.inScope s = true ∧
      Rule.empty.isEmpty = true ∧ Rule.empty.holds e = false ∧
      empty.isEmpty = true ∧ empty.hit? e = none := by
  intro host secret third s e
  have found : s.hit? e = some ⟨2, .header⟩ := by decide +kernel
  obtain ⟨first, _, _, _, inside, emptyRule, _⟩ := hit?_characterised s e
  obtain ⟨_, _, _, _, _, _, emptyScope⟩ := hit?_characterised empty e
  exact ⟨found, (first _).1 found, inside.2 ⟨_, found⟩, rfl, emptyRule _ rfl, rfl, emptyScope rfl⟩

end Scope

end CapturedTraffic
