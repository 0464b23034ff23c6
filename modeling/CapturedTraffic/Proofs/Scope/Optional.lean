import CapturedTraffic.Proofs.Json.Fields
import CapturedTraffic.Proofs.Scope.Written

/-!
# Optional parts of scope configurations

Which parts of a configuration are absent once it is read: those that its text leaves out or gives
as null, and no others. Configurations are written so that this gives them back.
-/
namespace CapturedTraffic.Scope

open Json

/-- What a value must lack for the parts of a header test to be absent. -/
structure HeaderConfig.ReadFrom (v : Value) (h : HeaderConfig) : Prop where
  key : h.key = none ↔ v.Lacks "key" 0
  value : h.value = none ↔ v.Lacks "value" 1

structure RuleConfig.ReadFrom (v : Value) (r : RuleConfig) : Prop where
  url : r.url = none ↔ v.Lacks "url" 0
  header : r.header = none ↔ v.Lacks "header" 1
  body : r.body = none ↔ v.Lacks "body" 2
  inHeader : ∀ h, r.header = some h → ∃ w, v.field? "header" 1 = some w ∧ h.ReadFrom w

/-- Rules are read one by one, and there are none if they are left out. -/
inductive Config.ReadFrom (v : Value) (c : Config) : Prop
  | omitted (left : v.field? "rules" 0 = none) (empty : c.rules = [])
  | given {items : List Value} (rules : v.field? "rules" 0 = some (.array items))
      (each : List.Forall₂ RuleConfig.ReadFrom items c.rules)

variable {depth : Nat} {v : Value}

theorem HeaderConfig.readFrom_of_reader {h : HeaderConfig} (read : reader depth v = some h) :
    h.ReadFrom v := by
  obtain ⟨below, made⟩ := Reader.exists_of_fields read
  simp only [List.zipIdx, List.map, ofFields?, Option.bind_eq_bind, Option.bind_eq_some_iff] at made
  obtain ⟨key, readKey, value, readValue, ⟨⟩⟩ := made
  exact ⟨Reader.eq_none_iff_of_orElse_optional readKey,
    Reader.eq_none_iff_of_orElse_optional readValue⟩

theorem RuleConfig.readFrom_of_reader {r : RuleConfig} (read : reader depth v = some r) :
    r.ReadFrom v := by
  obtain ⟨below, made⟩ := Reader.exists_of_fields read
  simp only [List.zipIdx, List.map, ofFields?, Option.bind_eq_bind, Option.bind_eq_some_iff] at made
  obtain ⟨url, readUrl, header, readHeader, body, readBody, ⟨⟩⟩ := made
  refine ⟨Reader.eq_none_iff_of_orElse_optional readUrl,
    Reader.eq_none_iff_of_orElse_optional readHeader,
    Reader.eq_none_iff_of_orElse_optional readBody, ?_⟩
  rintro h rfl
  obtain ⟨w, given, readGiven⟩ := Reader.exists_field?_of_orElse_optional readHeader
  exact ⟨w, given, HeaderConfig.readFrom_of_reader readGiven⟩

theorem Config.readFrom_of_reader {c : Config} (read : reader depth v = some c) : c.ReadFrom v := by
  obtain ⟨below, made⟩ := Reader.exists_of_fields read
  obtain ⟨rules, readRules, rfl⟩ := Option.map_eq_some_iff.1 made
  change Reader.orElse (Reader.list RuleConfig.reader) [] below (v.field? "rules" 0) =
    some rules at readRules
  cases given : v.field? "rules" 0 with
  | none =>
    rw [given] at readRules
    exact .omitted given (Option.some.inj readRules).symm
  | some w =>
    rw [given] at readRules
    obtain ⟨inner, items, rfl, each⟩ := Reader.exists_of_list readRules
    exact .given given (each.imp fun _ _ => RuleConfig.readFrom_of_reader)

theorem HeaderConfig.field?_toJson (h : HeaderConfig) :
    h.toJson.field? "key" 0 = h.key.map textJson ∧
      h.toJson.field? "value" 1 = h.value.map textJson := by
  have read := Reader.record?_written [("key", .defaulted), ("value", .defaulted)]
    [h.key.map textJson, h.value.map textJson] rfl (by decide) (by simp)
  rw [← toJson_eq_keyed] at read
  have fields := Reader.eq_of_record? read
  simp only [List.zipIdx, List.map, List.cons.injEq] at fields
  exact ⟨fields.1.symm, fields.2.1.symm⟩

/-- A part of a rule is written exactly if it is there. -/
theorem RuleConfig.field?_toJson (r : RuleConfig) :
    r.toJson.field? "url" 0 = r.url.map textJson ∧
      r.toJson.field? "header" 1 = r.header.map HeaderConfig.toJson ∧
      r.toJson.field? "body" 2 = r.body.map BodyConfig.toJson := by
  have read := Reader.record?_written
    [("url", .defaulted), ("header", .defaulted), ("body", .defaulted)]
    [r.url.map textJson, r.header.map HeaderConfig.toJson, r.body.map BodyConfig.toJson]
    rfl (by decide) (by simp)
  rw [← toJson_eq_keyed] at read
  have fields := Reader.eq_of_record? read
  simp only [List.zipIdx, List.map, List.cons.injEq] at fields
  exact ⟨fields.1.symm, fields.2.1.symm, fields.2.2.1.symm⟩

/-- An absent header test is told from one without patterns by its text. -/
theorem Config.render_header_ne (before after : List RuleConfig) (url : Option String)
    (body : Option BodyConfig) :
    (Config.mk (before ++ ⟨url, none, body⟩ :: after)).toJson.render ≠
      (Config.mk (before ++ ⟨url, some ⟨none, none⟩, body⟩ :: after)).toJson.render := by
  intro same
  have read := congrArg read? same
  rw [read?_toJson, read?_toJson] at read
  simp at read

/--
Every configuration is read back from its text, whatever parts it has. A part is written exactly if
it is there, so an absent header test and one without patterns have different texts. In any text
that is read as a configuration, the parts that come out absent are exactly those that are left out
of it or given as null.
-/
theorem Config.read?_render_characterised (c : Config) :
    read? c.toJson.render = some c ∧
      (∀ r : RuleConfig, r.toJson.field? "url" 0 = r.url.map textJson ∧
        r.toJson.field? "header" 1 = r.header.map HeaderConfig.toJson ∧
        r.toJson.field? "body" 2 = r.body.map BodyConfig.toJson) ∧
      (∀ h : HeaderConfig, h.toJson.field? "key" 0 = h.key.map textJson ∧
        h.toJson.field? "value" 1 = h.value.map textJson) ∧
      (∀ before after url body,
        (Config.mk (before ++ ⟨url, none, body⟩ :: after)).toJson.render ≠
          (Config.mk (before ++ ⟨url, some ⟨none, none⟩, body⟩ :: after)).toJson.render) ∧
      ∀ text, read? text = some c → ∃ v, Value.parse? text = some v ∧ c.ReadFrom v := by
  refine ⟨c.read?_toJson, RuleConfig.field?_toJson, HeaderConfig.field?_toJson, render_header_ne,
    fun text read => ?_⟩
  obtain ⟨v, parsed, given⟩ := Option.bind_eq_some_iff.1 read
  exact ⟨v, parsed, readFrom_of_reader given⟩

/-- A header test without patterns, next to one that is given as null and one that is left out. -/
theorem Config.read?_render_characterised_headers :
    let c : Config := ⟨[⟨some "\"", some ⟨none, none⟩, none⟩, ⟨none, none, some (.contains "é")⟩,
      ⟨none, none, none⟩]⟩
    let text := "\x7b\"rules\":[[\"\\u0022\",\x7b\x7d],\x7b\"header\":null," ++
      "\"body\":\x7b\"contains\":\"é\"\x7d\x7d,\x7b\x7d]\x7d"
    read? text = some c ∧ read? c.toJson.render = some c ∧
      ∃ v, Value.parse? text = some v ∧ c.ReadFrom v := by
  intro c text
  have read : read? text = some c := by decide +kernel
  obtain ⟨back, _, _, _, others⟩ := read?_render_characterised c
  exact ⟨read, back, others text read⟩

end CapturedTraffic.Scope
