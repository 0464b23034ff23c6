import CapturedTraffic.Exchange.Basic
import CapturedTraffic.Json.Printer
import CapturedTraffic.Json.Reader

/-!
# Exchanges in JSON

Every field is written. Headers, bodies and responses may be left out of what is read, and so may
the URL of an object.
-/
namespace CapturedTraffic

open Json

namespace ExchangeId

def toJson (id : ExchangeId) : Value := .text (some id.text)

def reader : Reader ExchangeId := fun depth v => (Reader.text depth v).bind parse?

end ExchangeId

namespace Url

def toJson (url : Url) : Value := .text (some url.text)

def reader : Reader Url := fun depth v => (Reader.text depth v).bind parse?

end Url

namespace Headers

def toJson (h : Headers) : Value :=
  .object (h.entries.map fun (name, values) =>
    (some name, .array (values.map fun s => .text (some s))))

def reader : Reader Headers := fun depth v =>
  (Reader.table (Reader.list Reader.text) depth v).map ofTable

end Headers

def bodyJson (body : List UInt8) : Value := .array (body.map fun b => .natural b.toNat)

def bodyReader : Reader (List UInt8) :=
  Reader.list fun depth v => (Reader.natural 256 depth v).map UInt8.ofNat

namespace Response

def fields : List (String × Reader.Absence) :=
  [("proto", .forbidden), ("status_code", .forbidden), ("status_reason", .forbidden),
    ("headers", .defaulted), ("body", .defaulted)]

def toJson (r : Response) : Value :=
  .object [(some "proto", .text (some r.proto)),
    (some "status_code", .natural r.statusCode.toNat),
    (some "status_reason", .text (some r.statusReason)),
    (some "headers", r.headers.toJson),
    (some "body", bodyJson r.body)]

def ofFields? (depth : Nat) : List (Option Value) → Option Response
  | [proto, code, reason, headers, body] => do
    let proto ← Reader.required Reader.text depth proto
    let code ← Reader.required (Reader.natural (2 ^ 16)) depth code
    let reason ← Reader.required Reader.text depth reason
    let headers ← Reader.orElse Headers.reader .empty depth headers
    let body ← Reader.orElse bodyReader [] depth body
    some ⟨proto, UInt16.ofNat code, reason, headers, body⟩
  | _ => none

def reader : Reader Response := Reader.fields fields ofFields?

end Response

namespace Exchange

def fields : List (String × Reader.Absence) :=
  [("id", .forbidden), ("proto", .forbidden), ("method", .forbidden), ("url", .defaultedInObject),
    ("headers", .defaulted), ("body", .defaulted), ("response", .defaulted)]

def toJson (e : Exchange) : Value :=
  .object [(some "id", e.id.toJson),
    (some "proto", .text (some e.proto)),
    (some "method", .text (some e.method)),
    (some "url", (e.url.map Url.toJson).getD .null),
    (some "headers", e.headers.toJson),
    (some "body", bodyJson e.body),
    (some "response", (e.response.map Response.toJson).getD .null)]

def ofFields? (depth : Nat) : List (Option Value) → Option Exchange
  | [id, proto, method, url, headers, body, response] => do
    let id ← Reader.required ExchangeId.reader depth id
    let proto ← Reader.required Reader.text depth proto
    let method ← Reader.required Reader.text depth method
    let url ← Reader.orElse (Reader.optional Url.reader) none depth url
    let headers ← Reader.orElse Headers.reader .empty depth headers
    let body ← Reader.orElse bodyReader [] depth body
    let response ← Reader.orElse (Reader.optional Response.reader) none depth response
    some ⟨id, proto, method, url, headers, body, response⟩
  | _ => none

def reader : Reader Exchange := Reader.fields fields ofFields?

def read? (text : String) : Option Exchange := Json.read? reader text

def readAll? (text : String) : Option (List Exchange) := Json.read? (Reader.list reader) text

end Exchange

end CapturedTraffic
