import CapturedTraffic.Exchange.Headers
import CapturedTraffic.Exchange.Id
import CapturedTraffic.Text.Utf8
import CapturedTraffic.Url.Basic

/-!
# Exchanges

A captured request, and its response once one has arrived.
-/
namespace CapturedTraffic

open Text

structure Response where
  proto : String
  statusCode : UInt16
  statusReason : String
  headers : Headers
  body : List UInt8
  deriving DecidableEq, Repr

structure Exchange where
  id : ExchangeId
  proto : String
  method : String
  /-- Absent where the target of the request was no URL. -/
  url : Option Url
  headers : Headers
  body : List UInt8
  response : Option Response
  deriving DecidableEq, Repr

def defaultProto : String := "HTTP/1.1"

namespace Response

/-- A response without headers and body. -/
def new (statusCode : UInt16) (statusReason : String) : Response :=
  ⟨defaultProto, statusCode, statusReason, .empty, []⟩

def withProto (r : Response) (proto : String) : Response := { r with proto := proto }

def withHeader (r : Response) (name value : String) : Response :=
  { r with headers := r.headers.append name value }

def withBody (r : Response) (body : List UInt8) : Response := { r with body := body }

def bodyText (r : Response) : String := Utf8.decodeLossy r.body

end Response

namespace Exchange

/-- A request without headers and body that awaits its response. -/
def new (id : ExchangeId) (method : String) (url : Option Url) : Exchange :=
  ⟨id, defaultProto, method, url, .empty, [], none⟩

def withProto (e : Exchange) (proto : String) : Exchange := { e with proto := proto }

def withHeader (e : Exchange) (name value : String) : Exchange :=
  { e with headers := e.headers.append name value }

def withBody (e : Exchange) (body : List UInt8) : Exchange := { e with body := body }

def withResponse (e : Exchange) (response : Response) : Exchange :=
  { e with response := some response }

/-- The text of the URL, empty where there is none. -/
def urlText (e : Exchange) : String := (e.url.map Url.text).getD ""

/-- The body as text, with a replacement character for what is not well formed. -/
def bodyText (e : Exchange) : String := Utf8.decodeLossy e.body

end Exchange

end CapturedTraffic
