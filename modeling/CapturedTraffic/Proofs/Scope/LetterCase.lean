import CapturedTraffic.Proofs.Exchange.Arrival
import CapturedTraffic.Proofs.Pattern.LetterCase
import CapturedTraffic.Proofs.Scope.Compilation
import CapturedTraffic.Proofs.Scope.FirstHit

/-!
# Header names in other letter case

Names that arrive in other letter case are stored in other spellings, and so stand in another order.
The entries still go together in pairs, of names that differ in letter case only and of the same
values. A scope whose patterns for names ignore case therefore gives the same hit.
-/
namespace CapturedTraffic

open Text
open Pattern (Context Mode Node)

namespace Headers

variable {fields others : List (String × String)} {name : String}

/-- The same fields, place by place, except for the letter case of their names. -/
def Recased (fields others : List (String × String)) : Prop :=
  List.Forall₂ (fun f g => sameIgnoringCase f.1 g.1 = true ∧ f.2 = g.2) fields others

namespace Recased

theorem symm (h : Recased fields others) : Recased others fields :=
  (List.Forall₂.imp (fun f g same => ⟨by rw [sameIgnoringCase_comm, same.1], same.2.symm⟩) h).flip

theorem valuesUnder (h : Recased fields others) (name : String) :
    valuesUnder fields name = valuesUnder others name := by
  induction h with
  | nil => rfl
  | @cons f g _ _ same _ ih =>
    rw [Headers.valuesUnder, Headers.valuesUnder] at ih ⊢
    rw [List.filter_cons, List.filter_cons, sameIgnoringCase_congr same.1]
    split
    · rw [List.map_cons, List.map_cons, ih, same.2]
    · exact ih

theorem exists_spelling? (h : Recased fields others) {first : String}
    (spelt : spelling? fields name = some first) :
    ∃ other, spelling? others name = some other ∧ sameIgnoringCase first other = true := by
  induction h with
  | nil => cases spelt
  | @cons f g _ _ same _ ih =>
    rw [spelling?, List.find?_cons] at spelt ⊢
    rw [← sameIgnoringCase_congr same.1]
    cases found : sameIgnoringCase f.1 name with
    | true =>
      rw [found] at spelt
      cases spelt
      exact ⟨g.1, rfl, same.1⟩
    | false =>
      rw [found] at spelt
      exact ih spelt

theorem exists_entry (h : Recased fields others) {entry : String × List String}
    (mem : entry ∈ (ofFields fields).entries) :
    ∃ name, sameIgnoringCase entry.1 name = true ∧
      (name, entry.2) ∈ (ofFields others).entries := by
  obtain ⟨spelt, values⟩ := (collects_ofFields fields entry).1 mem
  obtain ⟨other, respelt, same⟩ := h.exists_spelling? spelt
  refine ⟨other, same, (collects_ofFields others _).2 ⟨spelling?_spelling respelt, ?_⟩⟩
  rw [values, h.valuesUnder, valuesUnder_congr same]

end Recased

end Headers

theorem HeaderMatcher.Admits.recased {m : HeaderMatcher} {name other : String}
    {values : List String} (ignores : ∀ key ∈ m.key, key.IgnoresCase)
    (same : sameIgnoringCase name other = true) (admits : m.Admits name values) :
    m.Admits other values := by
  cases admits with
  | key _ hk => exact .key _ (by rwa [← ignores _ rfl name other same])
  | value _ mem hv => exact .value other mem hv
  | both hk mem hv => exact .both (by rwa [← ignores _ rfl name other same]) mem hv

/-- Requests that are alike but for the letter case in which the names of their headers arrived. -/
structure Exchange.HeadersRecased (e d : Exchange) : Prop where
  url : e.url = d.url
  body : e.body = d.body
  headers : ∃ fields others, e.headers = .ofFields fields ∧ d.headers = .ofFields others ∧
    Headers.Recased fields others

theorem Exchange.HeadersRecased.symm {e d : Exchange} (h : e.HeadersRecased d) :
    d.HeadersRecased e := by
  obtain ⟨fields, others, he, hd, recased⟩ := h.headers
  exact ⟨h.url.symm, h.body.symm, others, fields, hd, he, recased.symm⟩

namespace Scope

variable {e d : Exchange} {r : Rule} {rules : List Rule} {hit : Hit} {reason : Reason}

/-- The pattern that a rule has for the names of headers, if any, ignores case. -/
def Rule.KeyIgnoresCase (r : Rule) : Prop := ∀ key ∈ r.header.key, key.IgnoresCase

theorem Rule.Passes.recased (ignores : r.KeyIgnoresCase) (h : e.HeadersRecased d)
    (passes : r.Passes e reason) : r.Passes d reason := by
  cases reason with
  | url =>
    obtain ⟨p, hp, url, given, found⟩ := passes
    exact ⟨p, hp, url, h.url ▸ given, found⟩
  | header =>
    obtain ⟨entry, mem, admits⟩ := passes
    obtain ⟨fields, others, he, hd, recased⟩ := h.headers
    rw [he] at mem
    obtain ⟨name, same, other⟩ := recased.exists_entry mem
    rw [← hd] at other
    exact ⟨_, other, admits.recased ignores same⟩
  | body =>
    obtain ⟨m, hm, accepted⟩ := passes
    exact ⟨m, hm, h.body ▸ accepted⟩

theorem Rule.FirstPass.recased (ignores : r.KeyIgnoresCase) (h : e.HeadersRecased d)
    (first : r.FirstPass e reason) : r.FirstPass d reason :=
  ⟨first.passes.recased ignores h, fun earlier lt passes =>
    first.first earlier lt (passes.recased ignores h.symm)⟩

theorem FirstHit.recased (ignores : ∀ r ∈ rules, r.KeyIgnoresCase) (h : e.HeadersRecased d)
    (first : FirstHit e rules hit) : FirstHit d rules hit := by
  constructor
  · obtain ⟨r, hr, firstPass⟩ := first.rule
    exact ⟨r, hr, firstPass.recased (ignores r (List.mem_of_getElem? hr)) h⟩
  · -- A rule before it that came to hold would hold of the exchange at hand too.
    intro i lt q hq reason passes
    have before := passes.recased (ignores q (List.mem_of_getElem? hq)) h.symm
    exact first.least i lt q hq reason before

theorem hit?_eq_of_recased {s : Scope} (ignores : ∀ r ∈ s.rules, r.KeyIgnoresCase)
    (h : e.HeadersRecased d) : s.hit? e = s.hit? d := by
  ext hit
  rw [hit?_eq_some_iff, hit?_eq_some_iff]
  exact ⟨.recased ignores h, .recased ignores h.symm⟩

/--
The pattern that an entry gives for the names of headers, if any, ignores case. All of them are
compiled to do so, but a pattern can switch that off again.
-/
def RuleConfig.KeyIgnoresCase (entry : RuleConfig) : Prop :=
  ∀ source ∈ entry.key, ∀ p, Pattern.compile .name source = .ok p → p.IgnoresCase

theorem RuleConfig.Carried.keyIgnoresCase {entry : RuleConfig} (carried : entry.Carried r)
    (ignores : entry.KeyIgnoresCase) : r.KeyIgnoresCase := by
  have keys := carried.key
  rw [RuleConfig.KeyIgnoresCase] at ignores
  rw [Rule.KeyIgnoresCase]
  generalize entry.key = given, r.header.key = key at keys ignores ⊢
  cases keys with
  | none => nofun
  | some compiled =>
    rintro _ ⟨⟩
    exact ignores _ rfl _ compiled

theorem keyIgnoresCase_of_carried {entries : List RuleConfig}
    (carried : List.Forall₂ RuleConfig.Carried entries rules)
    (ignores : ∀ entry ∈ entries, entry.KeyIgnoresCase) : ∀ r ∈ rules, r.KeyIgnoresCase := by
  induction carried with
  | nil => nofun
  | cons first _ ih =>
    obtain ⟨head, tail⟩ := List.forall_mem_cons.1 ignores
    exact List.forall_mem_cons.2 ⟨first.keyIgnoresCase head, ih tail⟩

/--
A scope compiled from a configuration whose patterns for names ignore case gives the same hit or
none, whatever the letter case in which the names of the headers arrived.
-/
theorem Config.hit?_recased {c : Config} {s : Scope} (compiled : c.compile = .ok s)
    (ignores : ∀ entry ∈ c.rules, entry.KeyIgnoresCase) (h : e.HeadersRecased d) :
    s.hit? e = s.hit? d :=
  hit?_eq_of_recased (keyIgnoresCase_of_carried (compile_eq_ok_iff.1 compiled) ignores) h

/--
The names arrive in other spellings, so the entries stand in another order. The value that is sought
is the second one of its name, and arrives under yet another spelling than the first.
-/
theorem Config.hit?_recased_reordered :
    let c : Config := ⟨[⟨none, some ⟨some "^date", some "^3$"⟩, none⟩,
      ⟨none, some ⟨some "^date", some "^2$"⟩, none⟩]⟩
    let fields := [("Date", "1"), ("Zeta", "2"), ("allow", "2"), ("date", "2")]
    let others := [("date", "1"), ("zeta", "2"), ("Allow", "2"), ("DATE", "2")]
    let e := { Exchange.new ⟨0, by decide⟩ "GET" none with headers := .ofFields fields }
    let d := { Exchange.new ⟨0, by decide⟩ "GET" none with headers := .ofFields others }
    e.headers.entries.map Prod.fst = ["Date", "Zeta", "allow"] ∧
      d.headers.entries.map Prod.fst = ["Allow", "date", "zeta"] ∧
      (∀ entry ∈ c.rules, entry.KeyIgnoresCase) ∧ e.HeadersRecased d ∧
      ∃ s, c.compile = .ok s ∧ s.hit? e = some ⟨1, .header⟩ ∧ s.hit? d = some ⟨1, .header⟩ := by
  intro c fields others e d
  let key : Pattern := ⟨.concatAll [.atom (.look .start), .atom (.letter 3), .atom (.letter 0),
    .atom (.letter 19), .atom (.letter 4)], false⟩
  let three := (Pattern.compile .text "^3$").toOption.get (by decide +kernel)
  let two := (Pattern.compile .text "^2$").toOption.get (by decide +kernel)
  let s : Scope := ⟨[(Rule.empty.withHeaderKey key).withHeaderValue three,
    (Rule.empty.withHeaderKey key).withHeaderValue two]⟩
  have keyOk : Pattern.compile .name "^date" = .ok key := by
    have read : Node.read? "^date" = some (.concatenation [.assertion .startLine,
      .literal ⟨'d', false⟩, .literal ⟨'a', false⟩, .literal ⟨'t', false⟩, .literal ⟨'e', false⟩]) :=
      rfl
    have letter := Context.literal?_letter (c := Mode.name.context) rfl rfl
    have d : Mode.name.context.literal? ⟨'d', false⟩ = _ := letter 3 (by decide)
    have a : Mode.name.context.literal? ⟨'a', false⟩ = _ := letter 0 (by decide)
    have t : Mode.name.context.literal? ⟨'t', false⟩ = _ := letter 19 (by decide)
    have e : Mode.name.context.literal? ⟨'e', false⟩ = _ := letter 4 (by decide)
    have fits : key.regex.form.fits = true := by decide +kernel
    rw [Pattern.compile, read]
    simp only [Option.bind_some, Node.meaning?, Node.meanings?, Option.map_some, d, a, t, e]
    exact if_pos fits
  have threeOk : Pattern.compile .text "^3$" = .ok three := by decide +kernel
  have twoOk : Pattern.compile .text "^2$" = .ok two := by decide +kernel
  have compiled : c.compile = .ok s :=
    compile_eq_ok_iff.2 (.cons ⟨.none, .some keyOk, .some threeOk, .none⟩
      (.cons ⟨.none, .some keyOk, .some twoOk, .none⟩ .nil))
  have keyIgnores : key.IgnoresCase := Pattern.ignoresCase_of_all (by decide +kernel)
  have ignores : ∀ entry ∈ c.rules, entry.KeyIgnoresCase := by
    have same : ∀ p, Pattern.compile .name "^date" = .ok p → p.IgnoresCase := by
      intro p compiled
      rw [keyOk] at compiled
      cases compiled
      exact keyIgnores
    simpa [c, RuleConfig.KeyIgnoresCase, RuleConfig.key] using same
  have recased : e.HeadersRecased d := by
    refine ⟨rfl, rfl, fields, others, rfl, rfl, ?_⟩
    exact .cons (by decide) (.cons (by decide) (.cons (by decide) (.cons (by decide) .nil)))
  have found : s.hit? e = some ⟨1, .header⟩ := by decide +kernel
  exact ⟨by decide +kernel, by decide +kernel, ignores, recased, s, compiled, found,
    (hit?_recased compiled ignores recased).symm.trans found⟩

end Scope

end CapturedTraffic
