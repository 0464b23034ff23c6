import CapturedTraffic.Exchange.Json
import CapturedTraffic.Proofs.Exchange.HeaderTable
import CapturedTraffic.Proofs.Exchange.Identifier
import CapturedTraffic.Proofs.Json.Records

/-!
# Reading exchanges back

An exchange written in JSON is read back, if its URL is read back from its own text. Every other
part always is: identifiers, headers, bodies and responses.
-/
namespace CapturedTraffic

open Json

theorem ExchangeId.reader_toJson (id : ExchangeId) (depth : Nat) :
    reader depth id.toJson = some id := by
  rw [reader, toJson, Reader.text, Option.bind_some, parse?_text]

theorem Url.reader_toJson {url : Url} (back : parse? url.text = some url) (depth : Nat) :
    reader depth url.toJson = some url := by
  rw [reader, toJson, Reader.text, Option.bind_some, back]

namespace Headers

def valuesJson (values : List String) : Value := .array (values.map fun s => .text (some s))

theorem toJson_eq_keyed (h : Headers) :
    h.toJson = .object (keyed (h.toTable.entries.map fun e => (e.1, valuesJson e.2))) := by
  rw [toJson, keyed, List.map_map]
  rfl

theorem reader_toJson (h : Headers) (depth : Nat) : reader (depth + 2) h.toJson = some h := by
  have back : ∀ e ∈ h.toTable.entries,
      Reader.list Reader.text (depth + 1) (valuesJson e.2) = some e.2 :=
    fun _ _ => Reader.list_array fun _ _ => rfl
  have table := Reader.table_keyed h.toTable back
  rw [reader, toJson_eq_keyed, table, Option.map_some, ofTable_toTable]

theorem plain_toJson (h : Headers) : h.toJson.Plain := by
  rw [toJson_eq_keyed]
  apply Value.plain_keyed
  intro e he
  obtain ⟨d, _, rfl⟩ := List.mem_map.1 he
  apply Value.Plain.array
  intro v hv
  obtain ⟨s, _, rfl⟩ := List.mem_map.1 hv
  exact .text s

end Headers

theorem bodyReader_bodyJson (body : List UInt8) (depth : Nat) :
    bodyReader (depth + 1) (bodyJson body) = some body := by
  apply Reader.list_array
  intro b _
  rw [Reader.natural, if_pos b.toNat_lt, Option.map_some, UInt8.ofNat_toNat]

theorem plain_bodyJson (body : List UInt8) : (bodyJson body).Plain := by
  apply Value.Plain.array
  intro v hv
  obtain ⟨b, _, rfl⟩ := List.mem_map.1 hv
  exact .natural b.toNat

namespace Response

/-- What is written for the fields, in their order. -/
def values (r : Response) : List (Option Value) :=
  [some (.text (some r.proto)), some (.natural r.statusCode.toNat),
    some (.text (some r.statusReason)), some r.headers.toJson, some (bodyJson r.body)]

theorem toJson_eq_keyed (r : Response) :
    r.toJson = .object (keyed (Reader.written fields r.values)) := rfl

theorem reader_toJson (r : Response) (depth : Nat) : reader (depth + 3) r.toJson = some r := by
  have code : Reader.natural (2 ^ 16) (depth + 2) (.natural r.statusCode.toNat) =
      some r.statusCode.toNat := if_pos r.statusCode.toNat_lt
  have headers := r.headers.reader_toJson depth
  have body := bodyReader_bodyJson r.body (depth + 1)
  rw [reader, toJson_eq_keyed,
    Reader.fields_written _ _ _ _ rfl (by decide) (by simp [fields, values])]
  simp only [values, ofFields?, Reader.required, Reader.orElse, Reader.text, code, headers, body,
    Option.bind_eq_bind, Option.bind_some, UInt16.ofNat_toNat]

theorem plain_toJson (r : Response) : r.toJson.Plain := by
  rw [toJson_eq_keyed]
  apply Reader.plain_written
  simp only [values, List.forall_mem_cons, Option.mem_some, forall_eq']
  exact ⟨.text _, .natural _, .text _, r.headers.plain_toJson, plain_bodyJson r.body, by simp⟩

end Response

namespace Exchange

/-- What is written for the fields, in their order. -/
def values (e : Exchange) : List (Option Value) :=
  [some e.id.toJson, some (.text (some e.proto)), some (.text (some e.method)),
    some ((e.url.map Url.toJson).getD .null), some e.headers.toJson, some (bodyJson e.body),
    some ((e.response.map Response.toJson).getD .null)]

theorem toJson_eq_keyed (e : Exchange) :
    e.toJson = .object (keyed (Reader.written fields e.values)) := rfl

theorem reader_toJson {e : Exchange} (url : ∀ u ∈ e.url, Url.parse? u.text = some u) (depth : Nat) :
    reader (depth + 4) e.toJson = some e := by
  have target : Reader.optional Url.reader (depth + 3) ((e.url.map Url.toJson).getD .null) =
      some e.url :=
    Reader.optional_getD_null (fun _ => by simp [Url.toJson])
      fun u hu => Url.reader_toJson (url u hu) _
  have headers := e.headers.reader_toJson (depth + 1)
  have body := bodyReader_bodyJson e.body (depth + 2)
  have response : Reader.optional Response.reader (depth + 3)
      ((e.response.map Response.toJson).getD .null) = some e.response :=
    Reader.optional_getD_null (fun _ => by simp [Response.toJson])
      fun r _ => r.reader_toJson depth
  rw [reader, toJson_eq_keyed,
    Reader.fields_written _ _ _ _ rfl (by decide) (by simp [fields, values])]
  simp only [values, ofFields?, Reader.required, Reader.orElse, Reader.text,
    ExchangeId.reader_toJson, target, headers, body, response, Option.bind_eq_bind,
    Option.bind_some]

theorem plain_toJson (e : Exchange) : e.toJson.Plain := by
  rw [toJson_eq_keyed]
  apply Reader.plain_written
  simp only [values, List.forall_mem_cons, Option.mem_some, forall_eq']
  exact ⟨.text _, .text _, .text _, Value.plain_getD_null _ fun _ => .text _,
    e.headers.plain_toJson, plain_bodyJson e.body,
    Value.plain_getD_null _ Response.plain_toJson, by simp⟩

/-- What is written for a list of exchanges. -/
def allToJson (all : List Exchange) : Value := .array (all.map toJson)

theorem readAll?_allToJson {all : List Exchange}
    (url : ∀ e ∈ all, ∀ u ∈ e.url, Url.parse? u.text = some u) :
    readAll? (allToJson all).render = some all := by
  have plain : (allToJson all).Plain := by
    apply Value.Plain.array
    intro v hv
    obtain ⟨e, _, rfl⟩ := List.mem_map.1 hv
    exact e.plain_toJson
  rw [readAll?, Json.read?, Value.parse?_render plain, Option.bind_some]
  exact Reader.list_array fun e he => reader_toJson (url e he) 122

/-- However an exchange came about, what is written for it is read back as the same exchange. -/
theorem read?_render_toJson (e : Exchange) (url : ∀ u ∈ e.url, Url.parse? u.text = some u) :
    read? e.toJson.render = some e := by
  rw [read?, Json.read?, Value.parse?_render e.plain_toJson, Option.bind_some]
  exact reader_toJson url 123

/--
An exchange with all that can be written in more than one way: texts with escapes and characters of
four bytes, names in two spellings, bytes that are no text, and the largest status code.
-/
theorem read?_render_toJson_built :
    let response := ((Response.new 65535 "\\u0041 \"").withHeader "B" "").withBody [0, 255]
    let e := ((((Exchange.new ⟨2 ^ 128 - 1, by decide⟩ "G\"\n😀" (some ⟨"app://b/c?d"⟩)).withHeader
      "x-b" "1").withHeader "X-A" "2").withHeader "X-B" "3").withResponse response
    (∀ u ∈ e.url, Url.parse? u.text = some u) ∧
      e.headers.entries = [("X-A", ["2"]), ("x-b", ["1", "3"])] ∧
      read? e.toJson.render = some e := by
  intro response e
  have url : ∀ u ∈ e.url, Url.parse? u.text = some u := by decide +kernel
  exact ⟨url, by decide +kernel, read?_render_toJson e url⟩

end Exchange

end CapturedTraffic
