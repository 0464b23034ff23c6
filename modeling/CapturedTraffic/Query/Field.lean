import CapturedTraffic.Exchange.Basic
import CapturedTraffic.Text.Decimal
import CapturedTraffic.Text.Quoted

/-!
# Fields

The parts of an exchange that a query can name. The names of the request are known for every
exchange; those of the response stand for the empty text while there is no response.
-/
namespace CapturedTraffic.Query

open Text Time

namespace Field

def timestampText (e : Exchange) : String := (e.id.timestamp.map Instant.text).getD ""

def statusCodeText (r : Response) : String := String.ofList (Decimal.digits r.statusCode.toNat)

/-- The fields of a request, in the order in which they are listed and searched. -/
def request : List (String × (Exchange → String)) :=
  [("req.id", fun e => e.id.text),
    ("req.proto", Exchange.proto),
    ("req.url", Exchange.urlText),
    ("req.method", Exchange.method),
    ("req.body", Exchange.bodyText),
    ("req.timestamp", timestampText)]

/-- The fields of a response, in the order in which they are listed and searched. -/
def response : List (String × (Response → String)) :=
  [("res.proto", Response.proto),
    ("res.statusCode", statusCodeText),
    ("res.statusReason", Response.statusReason),
    ("res.body", Response.bodyText)]

def requestNames : List String := request.map Prod.fst

def responseNames : List String := response.map Prod.fst

def requestValue? (e : Exchange) (name : String) : Option String :=
  (request.find? (·.1 = name)).map fun field => field.2 e

def responseValue? (r : Response) (name : String) : Option String :=
  (response.find? (·.1 = name)).map fun field => field.2 r

def requestValues (e : Exchange) : List String := request.map fun field => field.2 e

def responseValues (r : Response) : List String := response.map fun field => field.2 r

/-- What an operand stands for: the value of the field that it names, or else itself. -/
def resolve (e : Exchange) (operand : String) : String :=
  match requestValue? e operand with
  | some value => value
  | none =>
    if operand ∈ responseNames then
      (e.response.bind fun r => responseValue? r operand).getD ""
    else operand

def quotedList (names : List String) : List Char :=
  '[' :: ((names.map fun s => Quoted.write s.toList).intersperse [',', ' ']).flatten ++ [']']

/-- One line that lists the names. -/
def summary : String :=
  String.ofList ("FieldRegistry \x7b request: ".toList ++ quotedList requestNames
    ++ ", response: ".toList ++ quotedList responseNames ++ " \x7d".toList)

end Field

end CapturedTraffic.Query
