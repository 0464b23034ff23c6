import CapturedTraffic.Proofs.Json.Records
import CapturedTraffic.Scope.Config

/-!
# Reading scope configurations back

Every configuration written in JSON is read back, whichever of its fields are left out.
-/
namespace CapturedTraffic.Scope

open Json

theorem reader_textJson (s : String) (depth : Nat) : Reader.text depth (textJson s) = some s := rfl

theorem plain_textJson (s : String) : (textJson s).Plain := .text s

theorem plain_of_mem_map {α : Type} {write : α → Value} (each : ∀ a, (write a).Plain)
    {o : Option α} : ∀ v ∈ o.map write, v.Plain := by
  intro v hv
  obtain ⟨a, _, rfl⟩ := Option.map_eq_some_iff.1 hv
  exact each a

theorem entry_append (name : String) (absence : Reader.Absence) (v : Option Value)
    (names : List (String × Reader.Absence)) (values : List (Option Value)) :
    entry name v ++ keyed (Reader.written names values) =
      keyed (Reader.written ((name, absence) :: names) (v :: values)) := by
  cases v <;> rfl

namespace HeaderConfig

theorem toJson_eq_keyed (h : HeaderConfig) :
    h.toJson = .object (keyed (Reader.written [("key", .defaulted), ("value", .defaulted)]
      [h.key.map textJson, h.value.map textJson])) := by
  rw [toJson, ← entry_append, ← entry_append]
  simp [Reader.written, keyed]

theorem reader_toJson (h : HeaderConfig) (depth : Nat) : reader (depth + 1) h.toJson = some h := by
  have back (o : Option String) : Reader.orElse (Reader.optional Reader.text) none depth
      (o.map textJson) = some o :=
    Reader.orElse_optional (fun _ => by simp [textJson]) fun s _ => reader_textJson s depth
  rw [reader, toJson_eq_keyed, Reader.fields_written _ _ _ _ rfl (by decide) (by simp)]
  simp only [ofFields?, back, Option.bind_eq_bind, Option.bind_some]

theorem plain_toJson (h : HeaderConfig) : h.toJson.Plain := by
  rw [toJson_eq_keyed]
  apply Reader.plain_written
  simp only [List.forall_mem_cons]
  exact ⟨plain_of_mem_map plain_textJson, plain_of_mem_map plain_textJson, by simp⟩

end HeaderConfig

namespace BodyConfig

theorem reader_toJson (b : BodyConfig) (depth : Nat) : reader (depth + 1) b.toJson = some b := by
  cases b <;> rfl

theorem plain_toJson (b : BodyConfig) : b.toJson.Plain := by
  cases b <;> exact Value.plain_entry _ (plain_textJson _)

end BodyConfig

namespace RuleConfig

theorem toJson_eq_keyed (r : RuleConfig) :
    r.toJson = .object (keyed (Reader.written
      [("url", .defaulted), ("header", .defaulted), ("body", .defaulted)]
      [r.url.map textJson, r.header.map HeaderConfig.toJson, r.body.map BodyConfig.toJson])) := by
  rw [toJson, ← entry_append, ← entry_append, ← entry_append]
  simp [Reader.written, keyed]

theorem reader_toJson (r : RuleConfig) (depth : Nat) : reader (depth + 2) r.toJson = some r := by
  have url : Reader.orElse (Reader.optional Reader.text) none (depth + 1) (r.url.map textJson) =
      some r.url :=
    Reader.orElse_optional (fun _ => by simp [textJson]) fun s _ => reader_textJson s _
  have header : Reader.orElse (Reader.optional HeaderConfig.reader) none (depth + 1)
      (r.header.map HeaderConfig.toJson) = some r.header :=
    Reader.orElse_optional (fun _ => by simp [HeaderConfig.toJson]) fun h _ =>
      h.reader_toJson depth
  have body : Reader.orElse (Reader.optional BodyConfig.reader) none (depth + 1)
      (r.body.map BodyConfig.toJson) = some r.body :=
    Reader.orElse_optional (fun b => by cases b <;> simp [BodyConfig.toJson]) fun b _ =>
      b.reader_toJson depth
  rw [reader, toJson_eq_keyed, Reader.fields_written _ _ _ _ rfl (by decide) (by simp)]
  simp only [ofFields?, url, header, body, Option.bind_eq_bind, Option.bind_some]

theorem plain_toJson (r : RuleConfig) : r.toJson.Plain := by
  rw [toJson_eq_keyed]
  apply Reader.plain_written
  simp only [List.forall_mem_cons]
  exact ⟨plain_of_mem_map plain_textJson, plain_of_mem_map HeaderConfig.plain_toJson,
    plain_of_mem_map BodyConfig.plain_toJson, by simp⟩

end RuleConfig

namespace Config

theorem toJson_eq_keyed (c : Config) :
    c.toJson = .object (keyed (Reader.written [("rules", .defaulted)]
      [some (.array (c.rules.map RuleConfig.toJson))])) := rfl

theorem reader_toJson (c : Config) (depth : Nat) : reader (depth + 4) c.toJson = some c := by
  have rules : Reader.list RuleConfig.reader (depth + 3) (.array (c.rules.map RuleConfig.toJson)) =
      some c.rules := Reader.list_array fun r _ => r.reader_toJson depth
  rw [reader, toJson_eq_keyed, Reader.fields_written _ _ _ _ rfl (by decide) (by simp)]
  simp only [ofFields?, Reader.orElse, rules, Option.map_some]

theorem plain_toJson (c : Config) : c.toJson.Plain := by
  apply Value.plain_entry
  apply Value.Plain.array
  intro v hv
  obtain ⟨r, _, rfl⟩ := List.mem_map.1 hv
  exact r.plain_toJson

theorem read?_toJson (c : Config) : read? c.toJson.render = some c := by
  rw [read?, Json.read?, Value.parse?_render c.plain_toJson, Option.bind_some]
  exact c.reader_toJson 123

end Config

end CapturedTraffic.Scope
