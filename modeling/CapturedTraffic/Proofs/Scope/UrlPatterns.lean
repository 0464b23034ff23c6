import CapturedTraffic.Proofs.Query.Chain
import CapturedTraffic.Proofs.Scope.Compilation
import CapturedTraffic.Proofs.Scope.FirstHit

/-!
# URL patterns in scopes and in queries

The same patterns can be rules of a scope, each with nothing but a pattern for the URL, or tests of
a query, joined by a disjunction. For exchanges with a URL the two agree, and the rule reported is
the first whose test is true. Without a URL no rule holds, while the tests are made on no text.
-/
namespace CapturedTraffic

open Query

variable {e : Exchange} {p : SearchPattern} {patterns : List SearchPattern}

/-- The query that looks for a pattern in the URL. -/
def urlTest (p : SearchPattern) : Expression := .infixOp .matching (.literal "req.url") (.regex p)

theorem wellFormed_urlTest (p : SearchPattern) : (urlTest p).WellFormed :=
  .patternTest (by decide) "req.url" p

theorem evaluate_urlTest (p : SearchPattern) (e : Exchange) :
    (urlTest p).evaluate e = .ok (p.pattern.matchesText e.urlText) := by
  have resolved : Field.resolve e "req.url" = e.urlText := rfl
  have single : Operator.matching ∉ Operator.connectives := by decide
  rw [urlTest, Expression.evaluate_infixOp single, relate, if_pos (.inl rfl), resolved]
  simp

theorem evaluate_urlTest_not_true (p : SearchPattern) (e : Exchange) :
    ¬ (urlTest p).evaluate e = .ok true ↔ (urlTest p).evaluate e = .ok false := by
  simp [evaluate_urlTest]

theorem isTrue_urlTest (p : SearchPattern) (e : Exchange) :
    (urlTest p).isTrue e = p.pattern.matchesText e.urlText := by
  have value := Expression.evaluate_of_wellFormed (wellFormed_urlTest p) e
  rw [evaluate_urlTest] at value
  exact (Except.ok.inj value).symm

namespace Query.Bracketing

theorem exists_members {chain : List Expression} (h : chain ≠ []) :
    ∃ s : Bracketing, s.members = chain := by
  induction chain with
  | nil => exact absurd rfl h
  | cons x rest ih =>
    by_cases last : rest = []
    · exact ⟨.single x, by rw [members, last]⟩
    · obtain ⟨s, hs⟩ := ih last
      exact ⟨.pair (.single x) s, by rw [members, members, hs, List.singleton_append]⟩

/-- A disjunction of tests is true if some pattern matches the URL. -/
theorem evaluate_urlTests {tests : Bracketing} (h : tests.members = patterns.map urlTest)
    (e : Exchange) :
    (tests.joined .or).evaluate e =
      .ok (patterns.any fun p => p.pattern.matchesText e.urlText) := by
  have wellFormed : ∀ x ∈ patterns.map urlTest, x.WellFormed := by
    intro x hx
    obtain ⟨p, _, rfl⟩ := List.mem_map.1 hx
    exact wellFormed_urlTest p
  rw [evaluate_joined (by decide), h, Expression.mapM_evaluate_of_wellFormed wellFormed]
  refine congrArg Except.ok ?_
  simp [Operator.joins, List.any_map, Function.comp_def, isTrue_urlTest]

end Query.Bracketing

namespace Scope

/-- The entries that give a pattern for the URL and nothing else. -/
def urlConfig (patterns : List SearchPattern) : Config :=
  ⟨patterns.map fun p => ⟨some p.source, none, none⟩⟩

/-- A rule for each pattern, which tests the URL only. -/
def ofUrlPatterns (patterns : List SearchPattern) : Scope :=
  ⟨patterns.map fun p => Rule.empty.withUrl p.pattern⟩

theorem compile_urlConfig (patterns : List SearchPattern) :
    (urlConfig patterns).compile = .ok (ofUrlPatterns patterns) := by
  rw [Config.compile_eq_ok_iff, urlConfig, ofUrlPatterns, List.forall₂_map_left_iff,
    List.forall₂_map_right_iff]
  apply List.forall₂_same.2
  intro p _
  exact ⟨.some p.compiled, .none, .none, .none⟩

theorem Rule.passes_withUrl {reason : Reason} :
    (Rule.empty.withUrl p.pattern).Passes e reason ↔
      reason = .url ∧ ∃ url ∈ e.url, p.pattern.matchesText url.text = true := by
  constructor
  · intro passes
    cases reason with
    | url =>
      obtain ⟨q, ⟨⟩, matched⟩ := passes
      exact ⟨rfl, matched⟩
    | header =>
      obtain ⟨entry, _, ⟨⟩⟩ := passes
    | body =>
      obtain ⟨m, ⟨⟩, _⟩ := passes
  · rintro ⟨rfl, matched⟩
    exact ⟨p.pattern, rfl, matched⟩

theorem Rule.firstPass_withUrl {reason : Reason} :
    (Rule.empty.withUrl p.pattern).FirstPass e reason ↔
      (Rule.empty.withUrl p.pattern).Passes e reason := by
  constructor
  · exact FirstPass.passes
  · intro passes
    obtain ⟨rfl, _⟩ := passes_withUrl.1 passes
    exact ⟨passes, fun _ earlier => absurd earlier (Nat.not_lt_zero _)⟩

theorem contains_ofUrlPatterns :
    (ofUrlPatterns patterns).contains e = true ↔
      ∃ p ∈ patterns, ∃ url ∈ e.url, p.pattern.matchesText url.text = true := by
  simp [contains_iff, exists_hit?_iff, ofUrlPatterns, Rule.holds_iff, Rule.passes_withUrl]

theorem hit?_ofUrlPatterns {hit : Hit} :
    (ofUrlPatterns patterns).hit? e = some hit ↔
      hit.reason = .url ∧
        (∃ p ∈ patterns[hit.rule]?, ∃ url ∈ e.url, p.pattern.matchesText url.text = true) ∧
        ∀ i < hit.rule, ∀ q ∈ patterns[i]?,
          ¬ ∃ url ∈ e.url, q.pattern.matchesText url.text = true := by
  have found (i : Nat) (r : Rule) : r ∈ (ofUrlPatterns patterns).rules[i]? ↔
      ∃ p ∈ patterns[i]?, Rule.empty.withUrl p.pattern = r := by
    simp [ofUrlPatterns]
  rw [hit?_eq_some_iff]
  constructor
  · rintro ⟨⟨r, hr, first⟩, least⟩
    obtain ⟨p, hp, rfl⟩ := (found _ _).1 hr
    obtain ⟨url, matched⟩ := Rule.passes_withUrl.1 first.passes
    refine ⟨url, ⟨p, hp, matched⟩, fun i hi q hq other => ?_⟩
    exact least i hi _ ((found _ _).2 ⟨q, hq, rfl⟩) .url (Rule.passes_withUrl.2 ⟨rfl, other⟩)
  · rintro ⟨url, ⟨p, hp, matched⟩, least⟩
    have passes := Rule.passes_withUrl.2 ⟨url, matched⟩
    refine ⟨⟨_, (found _ _).2 ⟨p, hp, rfl⟩, Rule.firstPass_withUrl.2 passes⟩, ?_⟩
    intro i hi r hr reason passed
    obtain ⟨q, hq, rfl⟩ := (found _ _).1 hr
    exact least i hi q hq (Rule.passes_withUrl.1 passed).2

theorem exists_url_iff {url : Url} (h : e.url = some url) (p : SearchPattern) :
    (∃ u ∈ e.url, p.pattern.matchesText u.text = true) ↔ (urlTest p).evaluate e = .ok true := by
  simp [h, evaluate_urlTest, Exchange.urlText]

/--
Accepted patterns are accepted as entries for the URL, and as tests they can be joined if there are
any. Of an exchange with a URL the disjunction, in whatever parentheses, says whether it is in
scope, and the rule reported is the first whose test is true. An exchange without a URL is not in
scope, but the tests look for their patterns in the empty text.
-/
theorem ofUrlPatterns_agrees (patterns : List SearchPattern) (e : Exchange) :
    (urlConfig patterns).compile = .ok (ofUrlPatterns patterns) ∧
      (patterns ≠ [] → ∃ tests : Bracketing, tests.members = patterns.map urlTest) ∧
      (∀ url ∈ e.url,
        (∀ tests : Bracketing, tests.members = patterns.map urlTest →
          (tests.joined .or).evaluate e = .ok ((ofUrlPatterns patterns).contains e)) ∧
        ∀ hit, (ofUrlPatterns patterns).hit? e = some hit ↔
          hit.reason = .url ∧ (∃ p ∈ patterns[hit.rule]?, (urlTest p).evaluate e = .ok true) ∧
            ∀ i < hit.rule, ∀ q ∈ patterns[i]?, (urlTest q).evaluate e = .ok false) ∧
      (e.url = none → (ofUrlPatterns patterns).contains e = false ∧
        ∀ p, (urlTest p).evaluate e = .ok (p.pattern.matchesText "")) := by
  refine ⟨compile_urlConfig patterns, fun some => ?_, fun url h => ⟨fun tests members => ?_, ?_⟩,
    fun h => ⟨?_, fun p => ?_⟩⟩
  · exact Bracketing.exists_members (by simpa using some)
  · rw [Bracketing.evaluate_urlTests members]
    refine congrArg Except.ok (Bool.eq_iff_iff.2 ?_)
    simp only [contains_ofUrlPatterns, exists_url_iff h, evaluate_urlTest, List.any_eq_true,
      Except.ok.injEq]
  · intro hit
    simp only [hit?_ofUrlPatterns, exists_url_iff h, evaluate_urlTest_not_true]
  · rw [← Bool.not_eq_true, contains_ofUrlPatterns]
    simp [h]
  · rw [evaluate_urlTest, Exchange.urlText, h]
    rfl

/--
The second of three patterns is the first that matches. The third would match the empty text, but
puts nothing in scope that has no URL.
-/
theorem ofUrlPatterns_agrees_second :
    let other := (SearchPattern.compile "^https://b").toOption.get (by decide +kernel)
    let own := (SearchPattern.compile "^https://a").toOption.get (by decide +kernel)
    let ending := (SearchPattern.compile "x?$").toOption.get (by decide +kernel)
    let patterns := [other, own, ending]
    let tests : Bracketing := .pair (.pair (.single (urlTest other)) (.single (urlTest own)))
      (.single (urlTest ending))
    let e := Exchange.new ⟨0, by decide⟩ "GET" (some ⟨"https://a/x"⟩)
    let bare := Exchange.new ⟨0, by decide⟩ "GET" none
    tests.members = patterns.map urlTest ∧ (∃ url, url ∈ e.url) ∧
      (tests.joined .or).evaluate e = .ok true ∧
      (ofUrlPatterns patterns).hit? e = some ⟨1, .url⟩ ∧
      (urlTest other).evaluate e = .ok false ∧ bare.url = none ∧
      (ofUrlPatterns patterns).contains bare = false ∧ (urlTest ending).evaluate bare = .ok true := by
  intro other own ending patterns tests e bare
  have found : (ofUrlPatterns patterns).hit? e = some ⟨1, .url⟩ := by decide +kernel
  obtain ⟨_, _, agree, _⟩ := ofUrlPatterns_agrees patterns e
  obtain ⟨_, _, _, absent⟩ := ofUrlPatterns_agrees patterns bare
  obtain ⟨query, hits⟩ := agree ⟨"https://a/x"⟩ rfl
  obtain ⟨outside, onNothing⟩ := absent rfl
  have inside : (ofUrlPatterns patterns).contains e = true := contains_iff.2 ⟨_, found⟩
  refine ⟨rfl, ⟨_, rfl⟩, (query tests rfl).trans (congrArg Except.ok inside), found, ?_, rfl,
    outside, (onNothing ending).trans (by decide +kernel)⟩
  exact ((hits _).1 found).2.2 0 (by decide) other rfl

end Scope

end CapturedTraffic
