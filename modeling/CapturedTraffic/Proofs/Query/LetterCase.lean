import CapturedTraffic.Proofs.Query.Meaning
import CapturedTraffic.Proofs.Text.LetterCase

/-!
# Searching whatever the letter case

A literal that stands alone is sought whatever the case of its ASCII letters and of those in the
exchange, in texts of any characters: both are compared in lower case, and the lower-case form of a
text does not depend on the case of these letters.
-/
namespace CapturedTraffic

open Text

/-- Responses that differ at most in the letter case of the protocol and the reason of the status. -/
structure Response.Recased (r q : Response) : Prop where
  proto : sameIgnoringCase r.proto q.proto = true
  statusCode : r.statusCode = q.statusCode
  statusReason : sameIgnoringCase r.statusReason q.statusReason = true
  body : r.body = q.body

/--
Exchanges that differ at most in letter case, and there in the protocols, the method and the reason
of the status alone. Headers are not searched, so nothing is asked of them.
-/
structure Exchange.Recased (e d : Exchange) : Prop where
  id : e.id = d.id
  proto : sameIgnoringCase e.proto d.proto = true
  method : sameIgnoringCase e.method d.method = true
  url : e.url = d.url
  body : e.body = d.body
  response : Option.Rel Response.Recased e.response d.response

theorem Exchange.Recased.refl (e : Exchange) : e.Recased e := by
  refine ⟨rfl, sameIgnoringCase_self _, sameIgnoringCase_self _, rfl, rfl, ?_⟩
  cases e.response with
  | none => exact .none
  | some r => exact .some ⟨sameIgnoringCase_self _, rfl, sameIgnoringCase_self _, rfl⟩

namespace Query

variable {e d : Exchange} {r q : Response}

namespace Field

theorem request_recased (h : e.Recased d) :
    ∀ field ∈ request, sameIgnoringCase (field.2 e) (field.2 d) = true := by
  have id : e.id.text = d.id.text := by rw [h.id]
  have urlText : e.urlText = d.urlText := by rw [Exchange.urlText, Exchange.urlText, h.url]
  have bodyText : e.bodyText = d.bodyText := by rw [Exchange.bodyText, Exchange.bodyText, h.body]
  have timestamp : timestampText e = timestampText d := by rw [timestampText, timestampText, h.id]
  simp only [request, List.forall_mem_cons]
  exact ⟨sameIgnoringCase_of_eq id, h.proto, sameIgnoringCase_of_eq urlText, h.method,
    sameIgnoringCase_of_eq bodyText, sameIgnoringCase_of_eq timestamp, by simp⟩

theorem response_recased (h : r.Recased q) :
    ∀ field ∈ response, sameIgnoringCase (field.2 r) (field.2 q) = true := by
  have statusCode : statusCodeText r = statusCodeText q := by
    rw [statusCodeText, statusCodeText, h.statusCode]
  have bodyText : r.bodyText = q.bodyText := by rw [Response.bodyText, Response.bodyText, h.body]
  simp only [response, List.forall_mem_cons]
  exact ⟨h.proto, sameIgnoringCase_of_eq statusCode, h.statusReason,
    sameIgnoringCase_of_eq bodyText, by simp⟩

end Field

theorem mentions_congr {value other s t : String} (values : sameIgnoringCase value other = true)
    (texts : sameIgnoringCase s t = true) : Mentions value s ↔ Mentions other t := by
  rw [Mentions, Mentions, Unicode.lowercase_congr values, Unicode.lowercase_congr texts]

theorem exists_mentions_congr {α : Type} {fields : List (String × (α → String))} {a b : α}
    (values : ∀ field ∈ fields, sameIgnoringCase (field.2 a) (field.2 b) = true) {s t : String}
    (texts : sameIgnoringCase s t = true) :
    (∃ field ∈ fields, Mentions (field.2 a) s) ↔ ∃ field ∈ fields, Mentions (field.2 b) t :=
  exists_congr fun field =>
    and_congr_right fun mem => mentions_congr (values field mem) texts

namespace Expression

variable {s t : String}

theorem holds_literal_recased (recased : e.Recased d) (texts : sameIgnoringCase s t = true) :
    (literal s).Holds e ↔ (literal t).Holds d := by
  refine or_congr (exists_mentions_congr (Field.request_recased recased) texts) ?_
  have responses := recased.response
  generalize e.response = a, d.response = b at responses ⊢
  cases responses with
  | none => simp
  | some same =>
    simpa using exists_mentions_congr (Field.response_recased same) texts

theorem evaluate_literal_congr (recased : e.Recased d) (texts : sameIgnoringCase s t = true) :
    (literal s).evaluate e = (literal t).evaluate d := by
  have found : foundInFields e s = foundInFields d t := by
    rw [Bool.eq_iff_iff, foundInFields_iff, foundInFields_iff]
    exact holds_literal_recased recased texts
  rw [evaluate, evaluate, found]

/--
A literal that stands alone is found or missed whatever the case of its ASCII letters, and whatever
the case of those in the protocols, the method and the reason of the status.
-/
theorem evaluate_literal_recased :
    (∀ (e : Exchange) (s t : String), sameIgnoringCase s t = true →
        (literal s).evaluate e = (literal t).evaluate e) ∧
      ∀ e d : Exchange, e.Recased d → ∀ s, (literal s).evaluate e = (literal s).evaluate d :=
  ⟨fun e _ _ texts => evaluate_literal_congr (.refl e) texts,
    fun _ _ recased s => evaluate_literal_congr recased (sameIgnoringCase_self s)⟩

/-- The sigma ends a word that begins with a letter of either case, in both texts. -/
theorem evaluate_literal_recased_sigma :
    let e := (Exchange.new ⟨0, by decide⟩ "-AΣ." none).withResponse (.new 404 "Not Found")
    let d := ((Exchange.new ⟨0, by decide⟩ "-aΣ." none).withProto "http/1.1").withResponse
      (.new 404 "NOT FOUND")
    sameIgnoringCase "aΣ" "AΣ" = true ∧ e.Recased d ∧ (literal "aΣ").evaluate e = .ok true ∧
      (literal "AΣ").evaluate e = .ok true ∧ (literal "aΣ").evaluate d = .ok true := by
  intro e d
  have texts : sameIgnoringCase "aΣ" "AΣ" = true := by decide
  have recased : e.Recased d :=
    ⟨rfl, by decide, by decide, rfl, rfl, .some ⟨by decide, rfl, by decide, rfl⟩⟩
  have fields : foundInFields e "aΣ" = true := by decide +kernel
  have found : (literal "aΣ").evaluate e = .ok true := congrArg Except.ok fields
  obtain ⟨sought, searched⟩ := evaluate_literal_recased
  exact ⟨texts, recased, found, (sought e _ _ texts).symm.trans found,
    (searched e d recased _).symm.trans found⟩

end Expression

end Query

end CapturedTraffic
