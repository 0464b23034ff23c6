import CapturedTraffic.Exchange.Basic
import CapturedTraffic.Scope.Matcher

/-!
# Scope rules

A rule holds of an exchange through its URL, one of the request's headers or the request's body.
What is absent from the exchange, or not set in the rule, never holds.
-/
namespace CapturedTraffic

namespace Scope

/-- The test of a rule that held. -/
inductive Reason
  | url
  | header
  | body
  deriving DecidableEq, Repr

def Reason.text : Reason → String
  | url => "url"
  | header => "header"
  | body => "body"

structure Rule where
  url : Option Pattern
  header : HeaderMatcher
  body : Option BodyMatcher

namespace Rule

/-- The rule that never holds. -/
def empty : Rule := ⟨none, .empty, none⟩

def withUrl (r : Rule) (p : Pattern) : Rule := { r with url := some p }

def withHeaderKey (r : Rule) (p : Pattern) : Rule := { r with header := ⟨some p, r.header.value⟩ }

def withHeaderValue (r : Rule) (p : Pattern) : Rule := { r with header := ⟨r.header.key, some p⟩ }

def withBody (r : Rule) (m : BodyMatcher) : Rule := { r with body := some m }

def isEmpty (r : Rule) : Bool := r.url.isNone && r.header.isEmpty && r.body.isNone

def urlHolds (r : Rule) (e : Exchange) : Bool :=
  r.url.any fun p => e.url.any fun url => p.matchesText url.text

def headerHolds (r : Rule) (e : Exchange) : Bool :=
  e.headers.entries.any fun (name, values) => r.header.accepts name values

def bodyHolds (r : Rule) (e : Exchange) : Bool := r.body.any fun m => m.accepts e.body

/-- The first test that holds, in the order URL, headers, body. -/
def reason? (r : Rule) (e : Exchange) : Option Reason :=
  if r.urlHolds e then some .url
  else if r.headerHolds e then some .header
  else if r.bodyHolds e then some .body
  else none

def holds (r : Rule) (e : Exchange) : Bool := (r.reason? e).isSome

end Rule

end Scope

end CapturedTraffic
