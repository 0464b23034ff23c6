import CapturedTraffic.Json.Token

/-!
# JSON values

A text as a tree. Objects keep every entry in the order written, repeated keys included, because
their readers must tell a repeated key from a single one. The tree is built from the tokens with
an explicit stack of open containers, so nesting is not limited here; readers limit what they enter.
-/
namespace CapturedTraffic.Json

inductive Value
  | null
  | boolean (b : Bool)
  | natural (n : Nat)
  | otherNumber
  | text (s : Option String)
  | array (items : List Value)
  | object (entries : List (Option String × Value))
  deriving Inhabited, Repr

/-- A container whose end has not been seen, with what it holds so far, last first. -/
inductive Frame
  | array (items : List Value)
  | object (entries : List (Option String × Value)) (key : Option String)

/-- What the next token must be. -/
inductive Expected
  | value
  | valueOrEnd
  | key (entries : List (Option String × Value))
  | keyOrEnd
  | colon (entries : List (Option String × Value)) (key : Option String)
  | continuation (done : Value)

namespace Value

def ofScalar? : Token → Option Value
  | .null => some .null
  | .boolean b => some (.boolean b)
  | .natural n => some (.natural n)
  | .otherNumber => some .otherNumber
  | .text s => some (.text s)
  | _ => none

/-- The step at a place where a value may start. -/
def begin? (stack : List Frame) (t : Token) : Option (Expected × List Frame) :=
  match t with
  | .openArray => some (.valueOrEnd, .array [] :: stack)
  | .openObject => some (.keyOrEnd, stack)
  | _ => (ofScalar? t).map fun v => (.continuation v, stack)

def step? : Expected → List Frame → Token → Option (Expected × List Frame)
  | .value, stack, t => begin? stack t
  | .valueOrEnd, .array _ :: stack, .closeArray => some (.continuation (.array []), stack)
  | .valueOrEnd, stack, t => begin? stack t
  | .keyOrEnd, stack, .closeObject => some (.continuation (.object []), stack)
  | .keyOrEnd, stack, .text key => some (.colon [] key, stack)
  | .key entries, stack, .text key => some (.colon entries key, stack)
  | .colon entries key, stack, .colon => some (.value, .object entries key :: stack)
  | .continuation v, .array items :: stack, .comma => some (.value, .array (v :: items) :: stack)
  | .continuation v, .array items :: stack, .closeArray =>
    some (.continuation (.array (v :: items).reverse), stack)
  | .continuation v, .object entries key :: stack, .comma => some (.key ((key, v) :: entries), stack)
  | .continuation v, .object entries key :: stack, .closeObject =>
    some (.continuation (.object ((key, v) :: entries).reverse), stack)
  | _, _, _ => none

/-- Runs over the tokens; they must end exactly when the outermost value does. -/
def build? : Expected → List Frame → List Token → Option Value
  | .continuation v, [], [] => some v
  | _, _, [] => none
  | expected, stack, t :: rest => (step? expected stack t).bind fun (e, s) => build? e s rest

def ofTokens? (tokens : List Token) : Option Value := build? .value [] tokens

/-- The value that a text denotes, if the text is well formed. -/
def parse? (text : String) : Option Value := (Token.all [] text.toList).bind ofTokens?

end Value

end CapturedTraffic.Json
