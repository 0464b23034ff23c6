import CapturedTraffic.Proofs.Exchange.HeaderTable
import CapturedTraffic.Proofs.Scope.FirstHit

/-!
# More headers

A header that is added leaves the entries that were there: one of them may get a further value, or
a new one stands between them. So each test that passed still passes, and the first hit can only
move to an earlier test. The tests of the URL and the body see nothing new, so where the hit does
move, it moves to a header test.
-/
namespace CapturedTraffic

namespace Headers

open Text

variable {h : Headers} {entry : String × List String}

/-- An entry keeps its name and its values, and may have got more of them. -/
theorem exists_mem_append (mem : entry ∈ h.entries) (name value : String) :
    ∃ more, (entry.1, entry.2 ++ more) ∈ (h.append name value).entries := by
  cases known : knows h.entries name with
  | false =>
    rw [entries_append_of_new known]
    exact ⟨[], mem_insert.2 (.inr (by rwa [List.append_nil]))⟩
  | true =>
    rw [entries_append_of_knows known, extend]
    cases same : sameIgnoringCase entry.1 name with
    | true => exact ⟨[value], List.mem_map.2 ⟨entry, mem, if_pos same⟩⟩
    | false =>
      refine ⟨[], List.mem_map.2 ⟨entry, mem, ?_⟩⟩
      rw [if_neg (by simp [same]), List.append_nil]

end Headers

theorem HeaderMatcher.Admits.append {m : HeaderMatcher} {name : String} {values : List String}
    (admits : m.Admits name values) (more : List String) : m.Admits name (values ++ more) := by
  cases admits with
  | key _ hk => exact .key _ hk
  | value _ mem hv => exact .value name (List.mem_append_left more mem) hv
  | both hk mem hv => exact .both hk (List.mem_append_left more mem) hv

/-- The exchange with further headers, in their order. -/
def Exchange.withHeaders (e : Exchange) (fields : List (String × String)) : Exchange :=
  fields.foldl (fun e field => e.withHeader field.1 field.2) e

namespace Scope

variable {r : Rule} {rules : List Rule} {e : Exchange} {hit next : Hit} {reason : Reason}

theorem Rule.Passes.withHeader (passes : r.Passes e reason) (name value : String) :
    r.Passes (e.withHeader name value) reason := by
  cases reason with
  | url | body => exact passes
  | header =>
    obtain ⟨entry, mem, admits⟩ := passes
    obtain ⟨more, still⟩ := Headers.exists_mem_append mem name value
    exact ⟨_, still, admits.append more⟩

/-- Only header tests see that a header has been added. -/
theorem Rule.passes_of_withHeader (other : reason ≠ .header) {name value : String}
    (passes : r.Passes (e.withHeader name value) reason) : r.Passes e reason := by
  cases reason with
  | url | body => exact passes
  | header => exact absurd rfl other

theorem Reason.place_lt (reason : Reason) : reason.place < 3 := by
  cases reason <;> decide

/-- The number of tests that come before the one that is reported. -/
def Hit.position (hit : Hit) : Nat := 3 * hit.rule + hit.reason.place

theorem Hit.rule_le_of_position_le (h : next.position ≤ hit.position) : next.rule ≤ hit.rule := by
  have bound := hit.reason.place_lt
  unfold position at h
  omega

theorem Hit.eq_of_position_eq (h : next.position = hit.position) : next = hit := by
  have bounds := And.intro hit.reason.place_lt next.reason.place_lt
  unfold position at h
  have rule : next.rule = hit.rule := by omega
  have reason : next.reason = hit.reason := Reason.eq_of_place_eq (by omega)
  cases next
  cases hit
  cases rule
  cases reason
  rfl

/-- The first hit is at no later position than any test that passes. -/
theorem FirstHit.position_le (first : FirstHit e rules hit) (hr : r ∈ rules[next.rule]?)
    (passes : r.Passes e next.reason) : hit.position ≤ next.position := by
  obtain ⟨q, hq, firstPass⟩ := first.rule
  rcases Nat.lt_trichotomy next.rule hit.rule with earlier | same | later
  · exact absurd passes (first.least next.rule earlier r hr next.reason)
  · rw [same, Option.mem_def, hq] at hr
    cases hr
    have place : ¬ next.reason.place < hit.reason.place := fun h =>
      firstPass.first next.reason h passes
    unfold Hit.position
    omega
  · have bound := hit.reason.place_lt
    unfold Hit.position
    omega

theorem FirstHit.exists_of_passes (hr : r ∈ rules) (passes : r.Passes e reason) :
    ∃ hit, FirstHit e rules hit := by
  obtain ⟨hit, found⟩ := exists_hit?_iff (s := ⟨rules⟩).2 ⟨r, hr, Rule.holds_iff.2 ⟨reason, passes⟩⟩
  exact ⟨hit, hit?_eq_some_iff.1 found⟩

/-- What may be reported in the place of a hit: the hit itself, or a header test before it. -/
structure Hit.Supersedes (next hit : Hit) : Prop where
  position_le : next.position ≤ hit.position
  same_or_header : next = hit ∨ next.reason = .header

theorem Hit.Supersedes.refl (hit : Hit) : hit.Supersedes hit := ⟨Nat.le_refl _, .inl rfl⟩

theorem Hit.Supersedes.trans {last : Hit} (second : last.Supersedes next)
    (first : next.Supersedes hit) : last.Supersedes hit := by
  refine ⟨Nat.le_trans second.position_le first.position_le, ?_⟩
  rcases second.same_or_header with rfl | header
  · exact first.same_or_header
  · exact .inr header

theorem FirstHit.withHeader (first : FirstHit e rules hit) (name value : String) :
    ∃ next, FirstHit (e.withHeader name value) rules next ∧ next.Supersedes hit := by
  obtain ⟨r, hr, firstPass⟩ := first.rule
  have still := firstPass.passes.withHeader name value
  obtain ⟨next, found⟩ := exists_of_passes (List.mem_of_getElem? hr) still
  have le : next.position ≤ hit.position := found.position_le hr still
  refine ⟨next, found, le, ?_⟩
  by_cases header : next.reason = .header
  · exact .inr header
  · obtain ⟨q, hq, nextPass⟩ := found.rule
    have before := Rule.passes_of_withHeader header nextPass.passes
    exact .inl (Hit.eq_of_position_eq (Nat.le_antisymm le (first.position_le hq before)))

theorem FirstHit.withHeaders (first : FirstHit e rules hit) (fields : List (String × String)) :
    ∃ next, FirstHit (e.withHeaders fields) rules next ∧ next.Supersedes hit := by
  induction fields generalizing e hit with
  | nil => exact ⟨hit, first, .refl hit⟩
  | cons field rest ih =>
    obtain ⟨middle, found, supersedes⟩ := first.withHeader field.1 field.2
    obtain ⟨last, found, later⟩ := ih found
    exact ⟨last, found, later.trans supersedes⟩

/--
An exchange that a scope has a hit for has one at the same rule or an earlier one when headers are
added, one or any number of them. If it is not the same hit, it is a hit of a header test.
-/
theorem hit?_withHeader {s : Scope} (found : s.hit? e = some hit) :
    (∀ name value, ∃ next, s.hit? (e.withHeader name value) = some next ∧
        next.rule ≤ hit.rule ∧ (next = hit ∨ next.reason = .header)) ∧
      ∀ fields, ∃ next, s.hit? (e.withHeaders fields) = some next ∧
        next.rule ≤ hit.rule ∧ (next = hit ∨ next.reason = .header) := by
  have first := hit?_eq_some_iff.1 found
  constructor
  · intro name value
    obtain ⟨next, still, supersedes⟩ := first.withHeader name value
    exact ⟨next, hit?_eq_some_iff.2 still, Hit.rule_le_of_position_le supersedes.position_le,
      supersedes.same_or_header⟩
  · intro fields
    obtain ⟨next, still, supersedes⟩ := first.withHeaders fields
    exact ⟨next, hit?_eq_some_iff.2 still, Hit.rule_le_of_position_le supersedes.position_le,
      supersedes.same_or_header⟩

/--
The name is tested as it is spelt. The header that is added is spelt otherwise, but its value goes
to the entry that is there, so a rule before the one that was hit comes to hold.
-/
theorem hit?_withHeader_respelt :
    let key := (Pattern.compile .text "^x-trace$").toOption.get (by decide +kernel)
    let value := (Pattern.compile .text "^1$").toOption.get (by decide +kernel)
    let s : Scope := ⟨[(Rule.empty.withHeaderKey key).withHeaderValue value,
      Rule.empty.withBody (.contains [98])]⟩
    let e := ((Exchange.new ⟨0, by decide⟩ "GET" none).withHeader "x-trace" "0").withBody [97, 98]
    let hit : Hit := ⟨1, .body⟩
    s.hit? e = some hit ∧ s.hit? (e.withHeader "X-Trace" "1") = some ⟨0, .header⟩ ∧
      (∃ next, s.hit? (e.withHeader "X-Trace" "1") = some next ∧
        next.rule ≤ hit.rule ∧ (next = hit ∨ next.reason = .header)) ∧
      ∃ next, s.hit? (e.withHeaders [("X-TRACE", "2"), ("Host", "a.test")]) = some next ∧
        next.rule ≤ hit.rule ∧ (next = hit ∨ next.reason = .header) := by
  intro key value s e hit
  have found : s.hit? e = some hit := by decide +kernel
  obtain ⟨single, several⟩ := hit?_withHeader found
  exact ⟨found, by decide +kernel, single "X-Trace" "1", several _⟩

end Scope

end CapturedTraffic
