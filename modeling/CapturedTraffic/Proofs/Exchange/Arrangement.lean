import CapturedTraffic.Exchange.Json
import CapturedTraffic.Proofs.Json.Arrangement

/-!
# Exchanges in any arrangement

An exchange is read from what is given for each of its fields, however its members are arranged. The
fields are read from their own texts as if these stood alone, the response's like all others, so both
levels are arranged independently.
-/
namespace CapturedTraffic

open Json
open Json.Reader (Shallow)

theorem ExchangeId.shallow_reader : Shallow 0 reader := Reader.shallow_text.bind parse?

theorem Url.shallow_reader : Shallow 0 reader := Reader.shallow_text.bind parse?

theorem Headers.shallow_reader : Shallow 2 reader := Reader.shallow_text.list.table.map ofTable

theorem shallow_bodyReader : Shallow 1 bodyReader :=
  ((Reader.shallow_natural 256).map UInt8.ofNat).list

namespace Response

def names : List String := ["proto", "status_code", "status_reason", "headers", "body"]

def codeReader : Reader UInt16 := fun depth v => (Reader.natural (2 ^ 16) depth v).map UInt16.ofNat

theorem shallow_codeReader : Shallow 0 codeReader := (Reader.shallow_natural _).map UInt16.ofNat

theorem required_codeReader (depth : Nat) (o : Option Value) :
    Reader.required codeReader depth o =
      (Reader.required (Reader.natural (2 ^ 16)) depth o).map UInt16.ofNat := by
  cases o <;> rfl

theorem shallow_ofFields? (depth : Nat) (hd : 2 ≤ depth) : ofFields? depth = ofFields? 2 := by
  have text := (Reader.shallow_text.mono (Nat.zero_le 2)).required hd
  have code := ((Reader.shallow_natural (2 ^ 16)).mono (Nat.zero_le 2)).required hd
  have headers := Headers.shallow_reader.orElse .empty hd
  have body := (shallow_bodyReader.mono (Nat.le_succ 1)).orElse [] hd
  funext values
  unfold ofFields?
  split
  next => simp only [text, code, headers, body]
  next => rfl

theorem shallow_reader : Shallow 3 reader := Reader.shallow_fields shallow_ofFields?

/-- The members of an object give these five fields. -/
structure WrittenAs (r : Response) (members : List Member) : Prop where
  proto : Gives members "proto" Reader.text r.proto
  statusCode : Gives members "status_code" codeReader r.statusCode
  statusReason : Gives members "status_reason" Reader.text r.statusReason
  headers : GivesOr members "headers" Headers.reader .empty r.headers
  body : GivesOr members "body" bodyReader [] r.body

theorem WrittenAs.of_perm {r : Response} {members members' : List Member} (h : r.WrittenAs members)
    (perm : (Member.known names members).Perm (Member.known names members')) :
    r.WrittenAs members' where
  proto := h.proto.of_perm (by decide) perm
  statusCode := h.statusCode.of_perm (by decide) perm
  statusReason := h.statusReason.of_perm (by decide) perm
  headers := h.headers.of_perm (by decide) perm
  body := h.body.of_perm (by decide) perm

theorem read?_eq_some_iff {text : String} {members : List Member} (h : IsObjectOf text members)
    (r : Response) : Json.read? reader text = some r ↔ r.WrittenAs members := by
  have proto : _ ↔ Gives members "proto" _ r.proto := Reader.shallow_text.required_iff (by decide)
  have code : _ ↔ Gives members "status_code" _ r.statusCode :=
    shallow_codeReader.required_iff (by decide)
  have reason : _ ↔ Gives members "status_reason" _ r.statusReason :=
    Reader.shallow_text.required_iff (by decide)
  have headers : _ ↔ GivesOr members "headers" _ .empty r.headers :=
    Headers.shallow_reader.orElse_iff (by decide) .defaulted (by decide)
  have body : _ ↔ GivesOr members "body" _ [] r.body :=
    shallow_bodyReader.orElse_iff (by decide) .defaulted (by decide)
  simp only [required_codeReader, Option.map_eq_some_iff] at code
  rw [reader, Reader.read?_fields_eq_some_iff h]
  constructor
  · rintro ⟨values, each, made⟩
    match values, each, made with
    | _, .cons p (.cons c (.cons s (.cons hs (.cons b .nil)))), made =>
      simp only [ofFields?, Option.bind_eq_bind, Option.bind_eq_some_iff] at made
      obtain ⟨_, p', _, c', _, s', _, hs', _, b', ⟨⟩⟩ := made
      exact ⟨proto.1 ⟨_, p, p'⟩, code.1 ⟨_, c, _, c', rfl⟩, reason.1 ⟨_, s, s'⟩,
        headers.1 ⟨_, hs, hs'⟩, body.1 ⟨_, b, b'⟩⟩
  · intro w
    obtain ⟨_, p, p'⟩ := proto.2 w.proto
    obtain ⟨_, c, n, c', same⟩ := code.2 w.statusCode
    obtain ⟨_, s, s'⟩ := reason.2 w.statusReason
    obtain ⟨_, hs, hs'⟩ := headers.2 w.headers
    obtain ⟨_, b, b'⟩ := body.2 w.body
    refine ⟨_, .cons p (.cons c (.cons s (.cons hs (.cons b .nil)))), ?_⟩
    simp only [ofFields?, p', c', s', hs', b', same, Option.bind_eq_bind, Option.bind_some]

end Response

namespace Exchange

def names : List String := ["id", "proto", "method", "url", "headers", "body", "response"]

theorem shallow_ofFields? (depth : Nat) (hd : 3 ≤ depth) : ofFields? depth = ofFields? 3 := by
  have id := (ExchangeId.shallow_reader.mono (Nat.zero_le 3)).required hd
  have text := (Reader.shallow_text.mono (Nat.zero_le 3)).required hd
  have url := (Url.shallow_reader.optional.mono (Nat.zero_le 3)).orElse none hd
  have headers := (Headers.shallow_reader.mono (Nat.le_succ 2)).orElse .empty hd
  have body := (shallow_bodyReader.mono (by decide : 1 ≤ 3)).orElse [] hd
  have response := Response.shallow_reader.optional.orElse none hd
  funext values
  unfold ofFields?
  split
  next => simp only [id, text, url, headers, body, response]
  next => rfl

theorem shallow_reader : Shallow 4 reader := Reader.shallow_fields shallow_ofFields?

/-- The members of an object give these seven fields. -/
structure WrittenAs (e : Exchange) (members : List Member) : Prop where
  id : Gives members "id" ExchangeId.reader e.id
  proto : Gives members "proto" Reader.text e.proto
  method : Gives members "method" Reader.text e.method
  url : GivesOr members "url" (Reader.optional Url.reader) none e.url
  headers : GivesOr members "headers" Headers.reader .empty e.headers
  body : GivesOr members "body" bodyReader [] e.body
  response : GivesOr members "response" (Reader.optional Response.reader) none e.response

theorem WrittenAs.of_perm {e : Exchange} {members members' : List Member} (h : e.WrittenAs members)
    (perm : (Member.known names members).Perm (Member.known names members')) :
    e.WrittenAs members' where
  id := h.id.of_perm (by decide) perm
  proto := h.proto.of_perm (by decide) perm
  method := h.method.of_perm (by decide) perm
  url := h.url.of_perm (by decide) perm
  headers := h.headers.of_perm (by decide) perm
  body := h.body.of_perm (by decide) perm
  response := h.response.of_perm (by decide) perm

theorem read?_eq_some_iff {text : String} {members : List Member} (h : IsObjectOf text members)
    (e : Exchange) : Json.read? reader text = some e ↔ e.WrittenAs members := by
  have id : _ ↔ Gives members "id" _ e.id := ExchangeId.shallow_reader.required_iff (by decide)
  have proto : _ ↔ Gives members "proto" _ e.proto := Reader.shallow_text.required_iff (by decide)
  have method : _ ↔ Gives members "method" _ e.method := Reader.shallow_text.required_iff (by decide)
  have url : _ ↔ GivesOr members "url" _ none e.url :=
    Url.shallow_reader.optional.orElse_iff (by decide) .defaultedInObject (by decide)
  have headers : _ ↔ GivesOr members "headers" _ .empty e.headers :=
    Headers.shallow_reader.orElse_iff (by decide) .defaulted (by decide)
  have body : _ ↔ GivesOr members "body" _ [] e.body :=
    shallow_bodyReader.orElse_iff (by decide) .defaulted (by decide)
  have response : _ ↔ GivesOr members "response" _ none e.response :=
    Response.shallow_reader.optional.orElse_iff (by decide) .defaulted (by decide)
  rw [reader, Reader.read?_fields_eq_some_iff h]
  constructor
  · rintro ⟨values, each, made⟩
    match values, each, made with
    | _, .cons i (.cons p (.cons m (.cons u (.cons hs (.cons b (.cons r .nil)))))), made =>
      simp only [ofFields?, Option.bind_eq_bind, Option.bind_eq_some_iff] at made
      obtain ⟨_, i', _, p', _, m', _, u', _, hs', _, b', _, r', ⟨⟩⟩ := made
      exact ⟨id.1 ⟨_, i, i'⟩, proto.1 ⟨_, p, p'⟩, method.1 ⟨_, m, m'⟩, url.1 ⟨_, u, u'⟩,
        headers.1 ⟨_, hs, hs'⟩, body.1 ⟨_, b, b'⟩, response.1 ⟨_, r, r'⟩⟩
  · intro w
    obtain ⟨_, i, i'⟩ := id.2 w.id
    obtain ⟨_, p, p'⟩ := proto.2 w.proto
    obtain ⟨_, m, m'⟩ := method.2 w.method
    obtain ⟨_, u, u'⟩ := url.2 w.url
    obtain ⟨_, hs, hs'⟩ := headers.2 w.headers
    obtain ⟨_, b, b'⟩ := body.2 w.body
    obtain ⟨_, r, r'⟩ := response.2 w.response
    refine ⟨_, .cons i (.cons p (.cons m (.cons u (.cons hs (.cons b (.cons r .nil)))))), ?_⟩
    simp only [ofFields?, i', p', m', u', hs', b', r', Option.bind_eq_bind, Option.bind_some]

/-- A response that cannot be read makes the exchange around it unreadable. -/
theorem read?_eq_none_of_response {text : String} {members : List Member}
    (h : IsObjectOf text members) {m : Member} (hm : m ∈ members) (key : m.key = "response")
    (unreadable : Json.read? (Reader.optional Response.reader) m.text = none) :
    Json.read? reader text = none := by
  cases read : Json.read? reader text with
  | none => rfl
  | some e =>
    have written := (read?_eq_some_iff h e).1 read
    rcases written.response with ⟨given, only, readable⟩ | ⟨absent, _⟩
    · have kept : m ∈ members.filter (·.key = "response") := List.mem_filter.2 ⟨hm, by simp [key]⟩
      rw [only, List.mem_singleton] at kept
      subst kept
      rw [unreadable] at readable
      cases readable
    · exact absurd key (absent m hm)

/--
An exchange is read from what its object gives for each of the seven fields, in any order and
spelling and among unknown members, or from the seven values in order; and so is a response from its
five. A field given twice and a field that must be there but is missing are errors, at both levels.
A file is read exchange by exchange.
-/
theorem read?_arranged :
    Reader.AcceptsAlike ["id", "proto", "method", "url", "headers", "body", "response"]
      ["id", "proto", "method"] Exchange.reader Exchange.WrittenAs ∧
    Reader.AcceptsAlike ["proto", "status_code", "status_reason", "headers", "body"]
      ["proto", "status_code", "status_reason"] Response.reader Response.WrittenAs ∧
    (∀ text members, IsObjectOf text members ∨ IsArrayOf text members →
      Json.read? (Reader.optional Response.reader) text =
        (Json.read? Response.reader text).map some) ∧
    (∀ text members, IsObjectOf text members → ∀ m ∈ members, m.key = "response" →
      Json.read? (Reader.optional Response.reader) m.text = none → read? text = none) ∧
    (∀ members, IsObjectOf (objectText members) members ∧
      IsArrayOf (arrayText (members.map Member.text)) members) ∧
    (∀ texts, (∀ text ∈ texts, (Value.parse? text).isSome = true) →
      readAll? (arrayText texts) = texts.mapM read?) := by
  refine ⟨?_, ?_, ?_, ?_, ?_, ?_⟩
  · exact Reader.acceptsAlike_fields rfl (by decide) rfl read?_eq_some_iff
      fun perm h => h.of_perm perm
  · exact Reader.acceptsAlike_fields rfl (by decide) rfl Response.read?_eq_some_iff
      fun perm h => h.of_perm perm
  · rintro text members (h | h) <;> exact Reader.read?_optional h (by simp)
  · exact fun text members h m hm => read?_eq_none_of_response h hm
  · exact fun members => ⟨isObjectOf_objectText members, isArrayOf_arrayText members⟩
  · exact fun texts => shallow_reader.read?_arrayText (by decide)

/--
The members are shuffled, the URL and the body are left out, a key is spelt with an escape, an
unknown member holds half of a surrogate pair, and the response is shuffled too.
-/
theorem read?_arranged_shuffled :
    let code : Member :=
      ⟨"status_code", "\"status\\u005fcode\"", " 404", by decide +kernel, by decide +kernel⟩
    let reason : Member :=
      ⟨"status_reason", "\"status_reason\"", "\"\"", by decide +kernel, by decide +kernel⟩
    let proto : Member :=
      ⟨"proto", "\"proto\" ", "\"HTTP/2\"", by decide +kernel, by decide +kernel⟩
    let response : Member :=
      ⟨"response", "\"response\"", objectText [code, proto, reason], by decide +kernel,
        by decide +kernel⟩
    let unknown : Member :=
      ⟨"Proto", "\"Proto\"", "[\x7b\"proto\":1\x7d,\"\\ud800\"]", by decide +kernel,
        by decide +kernel⟩
    let method : Member :=
      ⟨"method", "\"method\"", "\"GET\"", by decide +kernel, by decide +kernel⟩
    let headers : Member :=
      ⟨"headers", "\"headers\"", "\x7b\"b\":[\"2\"],\"B\":[\"1\"]\x7d", by decide +kernel,
        by decide +kernel⟩
    let id : Member :=
      ⟨"id", "\"id\"", "\"000000000000000000000000000000FF\"", by decide +kernel, by decide +kernel⟩
    let e := (((Exchange.new ⟨255, by decide⟩ "GET" none).withProto "HTTP/2").withHeader
      "B" "1").withHeader "b" "2"
    read? (objectText [response, unknown, method, headers, id, proto]) =
      some (e.withResponse ((Response.new 404 "").withProto "HTTP/2")) := by
  intro code reason proto response unknown method headers id e
  have composed := (read?_arranged.2.2.2.2.1 [response, unknown, method, headers, id, proto]).1
  apply (read?_arranged.1.object composed _).2
  exact
    { id := ⟨id, by decide +kernel, by decide +kernel⟩
      proto := ⟨proto, by decide +kernel, by decide +kernel⟩
      method := ⟨method, by decide +kernel, by decide +kernel⟩
      url := .inr ⟨by decide +kernel, rfl⟩
      headers := .inl ⟨headers, by decide +kernel, by decide +kernel⟩
      body := .inr ⟨by decide +kernel, rfl⟩
      response := .inl ⟨response, by decide +kernel, by decide +kernel⟩ }

end Exchange

end CapturedTraffic
