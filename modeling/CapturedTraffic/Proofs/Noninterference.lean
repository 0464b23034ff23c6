import CapturedTraffic.Query.Evaluation
import CapturedTraffic.Scope.Basic

/-!
# What decisions depend on

A search sees an exchange through its fields, so it cannot tell apart exchanges whose fields have
the same texts; headers are no fields. A scope sees the URL, the headers and the body of the
request, and nothing of the response.
-/
namespace CapturedTraffic

/-- Responses that a search cannot tell apart: headers and bytes that are no text may differ. -/
structure Response.SameTexts (r q : Response) : Prop where
  proto : r.proto = q.proto
  statusCode : r.statusCode = q.statusCode
  statusReason : r.statusReason = q.statusReason
  bodyText : r.bodyText = q.bodyText

namespace Exchange

/-- Exchanges that a search cannot tell apart. -/
structure SameTexts (e d : Exchange) : Prop where
  id : e.id = d.id
  proto : e.proto = d.proto
  method : e.method = d.method
  urlText : e.urlText = d.urlText
  bodyText : e.bodyText = d.bodyText
  response : Option.Rel Response.SameTexts e.response d.response

/-- Exchanges that a scope cannot tell apart. -/
structure SameRequest (e d : Exchange) : Prop where
  url : e.url = d.url
  headers : e.headers = d.headers
  body : e.body = d.body

end Exchange

namespace Query

variable {e d : Exchange} {r q : Response}

namespace Field

theorem request_congr (h : e.SameTexts d) : ∀ field ∈ request, field.2 e = field.2 d := by
  have timestamp : timestampText e = timestampText d := by rw [timestampText, timestampText, h.id]
  simp only [request, List.forall_mem_cons]
  have id : e.id.text = d.id.text := by rw [h.id]
  exact ⟨id, h.proto, h.urlText, h.method, h.bodyText, timestamp, by simp⟩

theorem response_congr (h : r.SameTexts q) : ∀ field ∈ response, field.2 r = field.2 q := by
  have statusCode : statusCodeText r = statusCodeText q := by
    rw [statusCodeText, statusCodeText, h.statusCode]
  simp only [response, List.forall_mem_cons]
  exact ⟨h.proto, statusCode, h.statusReason, h.bodyText, by simp⟩

/-- A field that is looked up by name is one of the fields. -/
theorem find?_map_congr {α : Type} {fields : List (String × (α → String))} {a b : α}
    (h : ∀ field ∈ fields, field.2 a = field.2 b) (name : String) :
    (fields.find? (·.1 = name)).map (fun field => field.2 a) =
      (fields.find? (·.1 = name)).map fun field => field.2 b := by
  apply Option.map_congr
  intro field found
  exact h field (List.mem_of_find?_eq_some found)

theorem requestValue?_congr (h : e.SameTexts d) (name : String) :
    requestValue? e name = requestValue? d name := find?_map_congr (request_congr h) name

theorem responseValue?_congr (h : r.SameTexts q) (name : String) :
    responseValue? r name = responseValue? q name := find?_map_congr (response_congr h) name

theorem requestValues_congr (h : e.SameTexts d) : requestValues e = requestValues d :=
  List.map_congr_left (request_congr h)

theorem responseValues_congr (h : r.SameTexts q) : responseValues r = responseValues q :=
  List.map_congr_left (response_congr h)

theorem resolve_congr (h : e.SameTexts d) (operand : String) :
    resolve e operand = resolve d operand := by
  have response : (e.response.bind fun r => responseValue? r operand) =
      d.response.bind fun r => responseValue? r operand := by
    have same := h.response
    generalize e.response = a, d.response = b at same ⊢
    cases same with
    | none => rfl
    | some same => exact responseValue?_congr same operand
  rw [resolve, resolve, requestValue?_congr h, response]

end Field

theorem foundInFields_congr (h : e.SameTexts d) (text : String) :
    foundInFields e text = foundInFields d text := by
  have response : (e.response.any fun r => (Field.responseValues r).any (foundIn text)) =
      d.response.any fun r => (Field.responseValues r).any (foundIn text) := by
    have same := h.response
    generalize e.response = a, d.response = b at same ⊢
    cases same with
    | none => rfl
    | some same => simp only [Option.any_some, Field.responseValues_congr same]
  rw [foundInFields, foundInFields, Field.requestValues_congr h, response]

theorem relate_congr (h : e.SameTexts d) (op : Operator) (x y : Expression) :
    relate e op x y = relate d op x y := by
  cases x with
  | literal a => cases y <;> simp only [relate, Field.resolve_congr h]
  | prefixOp | infixOp | regex => rfl

theorem Expression.evaluate_congr (h : e.SameTexts d) (x : Expression) :
    x.evaluate e = x.evaluate d := by
  induction x with
  | prefixOp op x ih => rw [evaluate, evaluate, ih]
  | infixOp op x y ihx ihy => rw [evaluate, evaluate, ihx, ihy, relate_congr h]
  | literal text => rw [evaluate, evaluate, foundInFields_congr h]
  | regex p => rfl

end Query

namespace Scope

variable {e d : Exchange}

theorem Rule.reason?_congr (h : e.SameRequest d) (r : Rule) : r.reason? e = r.reason? d := by
  have url : r.urlHolds e = r.urlHolds d := by rw [urlHolds, urlHolds, h.url]
  have header : r.headerHolds e = r.headerHolds d := by rw [headerHolds, headerHolds, h.headers]
  have body : r.bodyHolds e = r.bodyHolds d := by rw [bodyHolds, bodyHolds, h.body]
  rw [reason?, reason?, url, header, body]

theorem hitFrom_congr (h : e.SameRequest d) (first : Nat) (rules : List Rule) :
    hitFrom e first rules = hitFrom d first rules := by
  induction rules generalizing first with
  | nil => rfl
  | cons r rest ih => rw [hitFrom, hitFrom, r.reason?_congr h, ih]

theorem hit?_congr (h : e.SameRequest d) (s : Scope) : s.hit? e = s.hit? d :=
  hitFrom_congr h 0 s.rules

end Scope

/-- Headers are no texts of an exchange, neither the request's nor the response's. -/
theorem Exchange.sameTexts_of_headers (e : Exchange) (headers answered : Headers) :
    SameTexts { e with
      headers := headers
      response := e.response.map fun r => { r with headers := answered } } e := by
  refine ⟨rfl, rfl, rfl, rfl, rfl, ?_⟩
  cases given : e.response with
  | none => exact .none
  | some r => exact .some ⟨rfl, rfl, rfl, rfl⟩

/--
What is the same to a search is answered the same, faults included, so headers never matter to it.
What is the same to a scope has the same hit, so the response, the identifier, the method and the
protocol never matter to it.
-/
theorem noninterference (e d : Exchange) :
    (e.SameTexts d → ∀ x : Query.Expression, x.evaluate e = x.evaluate d) ∧
      (∀ (headers answered : Headers) (x : Query.Expression),
        x.evaluate { e with
          headers := headers
          response := e.response.map fun r => { r with headers := answered } } = x.evaluate e) ∧
      (e.SameRequest d → ∀ s : Scope, s.hit? e = s.hit? d) ∧
      (∀ (id : ExchangeId) (proto method : String) (response : Option Response) (s : Scope),
        s.hit? { e with id := id, proto := proto, method := method, response := response } =
          s.hit? e) := by
  refine ⟨fun h x => x.evaluate_congr h, fun headers answered x => ?_, fun h s => s.hit?_congr h,
    fun id proto method response s => ?_⟩
  · exact x.evaluate_congr (e.sameTexts_of_headers headers answered)
  · have same : Exchange.SameRequest
        { e with id := id, proto := proto, method := method, response := response } e :=
      ⟨rfl, rfl, rfl⟩
    exact s.hit?_congr same

/--
Two bytes that are no text read alike, so a search takes the first two exchanges for the same one,
headers aside. The first and the third are the same request with different answers.
-/
theorem noninterference_unreadable :
    let e := (((Exchange.new ⟨7, by decide⟩ "GET" none).withHeader "Host" "a.test").withBody
      [0xFF]).withResponse ((Response.new 200 "OK").withBody [0xC0])
    let d := ((Exchange.new ⟨7, by decide⟩ "GET" none).withBody [0xFE]).withResponse
      (((Response.new 200 "OK").withHeader "Age" "0").withBody [0xC1])
    let other := { e with id := ⟨8, by decide⟩, method := "PUT", response := none }
    e.SameTexts d ∧ e ≠ d ∧ (∀ x : Query.Expression, x.evaluate e = x.evaluate d) ∧
      e.SameRequest other ∧ ∀ s : Scope, s.hit? e = s.hit? other := by
  intro e d other
  have texts : e.SameTexts d :=
    ⟨rfl, rfl, rfl, rfl, by decide, .some ⟨rfl, rfl, rfl, by decide⟩⟩
  have request : e.SameRequest other := ⟨rfl, rfl, rfl⟩
  obtain ⟨search, _, _, _⟩ := noninterference e d
  obtain ⟨_, _, scope, _⟩ := noninterference e other
  exact ⟨texts, by decide, search texts, request, scope request⟩

end CapturedTraffic
