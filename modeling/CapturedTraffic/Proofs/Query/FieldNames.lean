import CapturedTraffic.Proofs.Query.Meaning

/-!
# Operands that name fields

An operand that is the name of a field stands for the value of that field, and every other operand
for itself, even if it begins like a name. There are several ways to a value: by the operand, by the
name in one of the two tables, by the place in the list of all values, and behind a test of how the
name begins. All agree. Values are not names again: whatever a field holds is compared as it is.
-/
namespace CapturedTraffic.Query

namespace Field

section Table

variable {α : Type} {fields : List (String × (α → String))} {x : α} {name : String}

theorem find?_of_mem (distinct : (fields.map Prod.fst).Nodup) {field : String × (α → String)}
    (h : field ∈ fields) : fields.find? (·.1 = field.1) = some field := by
  induction fields with
  | nil => simp at h
  | cons first rest ih =>
    obtain ⟨unlike, distinct⟩ := List.nodup_cons.1 distinct
    rcases List.mem_cons.1 h with rfl | h
    · simp
    · have other : first.1 ≠ field.1 := by
        intro same
        exact unlike (same ▸ List.mem_map_of_mem h)
      rw [List.find?_cons_of_neg (by simpa using other), ih distinct h]

theorem isSome_find?_iff :
    (fields.find? (·.1 = name)).isSome = true ↔ name ∈ fields.map Prod.fst := by
  rw [List.find?_isSome, List.mem_map]
  simp only [decide_eq_true_eq]

/-- The place of a name is the place of the value. -/
theorem getElem?_values_of_names (distinct : (fields.map Prod.fst).Nodup) {i : Nat}
    (h : (fields.map Prod.fst)[i]? = some name) :
    (fields.map fun field => field.2 x)[i]? =
      (fields.find? (·.1 = name)).map fun field => field.2 x := by
  rw [List.getElem?_map, Option.map_eq_some_iff] at h
  obtain ⟨field, at_i, rfl⟩ := h
  rw [List.getElem?_map, at_i, find?_of_mem distinct (List.mem_of_getElem? at_i)]

end Table

/-- What a name of a field stands for. -/
inductive Denotes (e : Exchange) : String → String → Prop
  | request {field : String × (Exchange → String)} (h : field ∈ Field.request) :
      Denotes e field.1 (field.2 e)
  | response {field : String × (Response → String)} {r : Response} (h : field ∈ Field.response)
      (given : e.response = some r) : Denotes e field.1 (field.2 r)
  | awaited {field : String × (Response → String)} (h : field ∈ Field.response)
      (awaits : e.response = none) : Denotes e field.1 ""

/-- Looks an operand up only in the table that goes with how it begins. -/
def resolveByPrefix (e : Exchange) (operand : String) : String :=
  if "req.".toList.isPrefixOf operand.toList then (requestValue? e operand).getD operand
  else if "res.".toList.isPrefixOf operand.toList && responseNames.contains operand then
    match e.response with
    | some r => (responseValue? r operand).getD ""
    | none => ""
  else operand

variable {e : Exchange} {r : Response} {name value operand : String}

theorem nodup_names : (requestNames ++ responseNames).Nodup := by decide

theorem begins_of_mem_requestNames :
    ∀ name ∈ requestNames, "req.".toList.isPrefixOf name.toList = true := by decide

theorem begins_of_mem_responseNames : ∀ name ∈ responseNames,
    "res.".toList.isPrefixOf name.toList = true ∧
      "req.".toList.isPrefixOf name.toList = false := by decide

theorem requestValue?_of_mem {field : String × (Exchange → String)} (h : field ∈ request) :
    requestValue? e field.1 = some (field.2 e) := by
  rw [requestValue?, find?_of_mem (List.nodup_append.1 nodup_names).1 h, Option.map_some]

theorem responseValue?_of_mem {field : String × (Response → String)} (h : field ∈ response) :
    responseValue? r field.1 = some (field.2 r) := by
  rw [responseValue?, find?_of_mem (List.nodup_append.1 nodup_names).2.1 h, Option.map_some]

theorem requestValue?_isSome_iff : (requestValue? e name).isSome = true ↔ name ∈ requestNames := by
  rw [requestValue?, Option.isSome_map, isSome_find?_iff, requestNames]

theorem responseValue?_isSome_iff :
    (responseValue? r name).isSome = true ↔ name ∈ responseNames := by
  rw [responseValue?, Option.isSome_map, isSome_find?_iff, responseNames]

theorem requestValue?_eq_none (h : name ∉ requestNames) : requestValue? e name = none := by
  rwa [← Option.not_isSome_iff_eq_none, requestValue?_isSome_iff]

theorem resolve_of_not_mem (e : Exchange) {operand : String}
    (h : operand ∉ requestNames ++ responseNames) : resolve e operand = operand := by
  rw [List.mem_append, not_or] at h
  rw [resolve, requestValue?_eq_none h.1]
  exact if_neg h.2

/-- No name stands in both tables. -/
theorem not_mem_requestNames (h : name ∈ responseNames) : name ∉ requestNames := by
  intro both
  have begins := begins_of_mem_requestNames name both
  rw [(begins_of_mem_responseNames name h).2] at begins
  cases begins

theorem resolve_of_mem_responseNames (h : name ∈ responseNames) :
    resolve e name = (e.response.bind fun r => responseValue? r name).getD "" := by
  rw [resolve, requestValue?_eq_none (not_mem_requestNames h)]
  exact if_pos h

theorem Denotes.resolve (h : Denotes e name value) : resolve e name = value := by
  cases h with
  | request h => rw [Field.resolve, requestValue?_of_mem h]
  | response h given =>
    rw [resolve_of_mem_responseNames (List.mem_map_of_mem h), given, Option.bind_some,
      responseValue?_of_mem h, Option.getD_some]
  | awaited h awaits =>
    rw [resolve_of_mem_responseNames (List.mem_map_of_mem h), awaits, Option.bind_none,
      Option.getD_none]

theorem exists_denotes_iff :
    (∃ value, Denotes e name value) ↔ name ∈ requestNames ++ responseNames := by
  constructor
  · rintro ⟨value, denotes⟩
    cases denotes with
    | request h => exact List.mem_append_left _ (List.mem_map_of_mem h)
    | response h _ => exact List.mem_append_right _ (List.mem_map_of_mem h)
    | awaited h _ => exact List.mem_append_right _ (List.mem_map_of_mem h)
  · intro named
    rcases List.mem_append.1 named with named | named
    · obtain ⟨field, h, rfl⟩ := List.mem_map.1 named
      exact ⟨_, .request h⟩
    · obtain ⟨field, h, rfl⟩ := List.mem_map.1 named
      cases arrived : e.response with
      | none => exact ⟨_, .awaited h arrived⟩
      | some r => exact ⟨_, .response h arrived⟩

/-- An operand stands for what it denotes, and for itself if it denotes nothing. -/
theorem resolve_eq_iff : resolve e operand = value ↔
    Denotes e operand value ∨ operand ∉ requestNames ++ responseNames ∧ value = operand := by
  by_cases named : operand ∈ requestNames ++ responseNames
  · obtain ⟨own, denotes⟩ : ∃ own, Denotes e operand own := exists_denotes_iff.2 named
    constructor
    · rintro rfl
      rw [denotes.resolve]
      exact .inl denotes
    · rintro (other | ⟨unnamed, _⟩)
      · exact other.resolve
      · exact absurd named unnamed
  · rw [resolve_of_not_mem e named]
    constructor
    · rintro rfl
      exact .inr ⟨named, rfl⟩
    · rintro (denotes | ⟨_, rfl⟩)
      · exact absurd (exists_denotes_iff.1 ⟨_, denotes⟩) named
      · rfl

/-- How a name begins keeps no name out. -/
theorem resolveByPrefix_eq (e : Exchange) (operand : String) :
    resolveByPrefix e operand = resolve e operand := by
  unfold resolveByPrefix
  split
  next begins =>
    cases own : requestValue? e operand with
    | some value => rw [resolve, own, Option.getD_some]
    | none =>
      -- what begins like a name of the request can be none of the response
      have unnamed : operand ∉ responseNames := by
        intro named
        rw [(begins_of_mem_responseNames operand named).2] at begins
        cases begins
      rw [resolve, own, Option.getD_none]
      exact (if_neg unnamed).symm
  next begins =>
    have unnamed : operand ∉ requestNames := fun named =>
      begins (begins_of_mem_requestNames operand named)
    by_cases named : operand ∈ responseNames
    · have second : ("res.".toList.isPrefixOf operand.toList &&
          responseNames.contains operand) = true := by
        rw [(begins_of_mem_responseNames operand named).1, List.contains_iff_mem.2 named]
        rfl
      rw [if_pos second, resolve_of_mem_responseNames named]
      cases e.response <;> rfl
    · rw [if_neg (by simp [named]), resolve_of_not_mem e (by simp [unnamed, named])]

theorem getElem?_requestValues {i : Nat} (h : requestNames[i]? = some name) :
    requestValue? e name = some (resolve e name) ∧
      (requestValues e)[i]? = some (resolve e name) := by
  have named : name ∈ requestNames := List.mem_of_getElem? h
  obtain ⟨value, own⟩ := Option.isSome_iff_exists.1 (requestValue?_isSome_iff (e := e).2 named)
  have whole : requestValue? e name = some (resolve e name) := by rw [resolve, own]
  have place : (requestValues e)[i]? = requestValue? e name :=
    getElem?_values_of_names (List.nodup_append.1 nodup_names).1 h
  exact ⟨whole, place.trans whole⟩

theorem getElem?_responseValues {i : Nat} (h : responseNames[i]? = some name) :
    (responseValues r)[i]? = responseValue? r name ∧
      (e.response = some r → responseValue? r name = some (resolve e name)) := by
  have named : name ∈ responseNames := List.mem_of_getElem? h
  refine ⟨getElem?_values_of_names (List.nodup_append.1 nodup_names).2.1 h, ?_⟩
  intro given
  obtain ⟨value, own⟩ := Option.isSome_iff_exists.1 (responseValue?_isSome_iff (r := r).2 named)
  rw [resolve_of_mem_responseNames named, given, Option.bind_some, own, Option.getD_some]

end Field

open Query.Field

/-- What a field holds is compared as it is with an operand that is no name. -/
theorem Expression.evaluate_comparison_of_denotes {e : Exchange} {name value s : String}
    {op : Operator} (hop : op ∈ Operator.comparisons) (denotes : Denotes e name value)
    (unnamed : s ∉ requestNames ++ responseNames) :
    ∃ b, (infixOp op (literal name) (literal s)).evaluate e = .ok b ∧
      (b = true ↔ op.Relates value s) := by
  obtain ⟨b, evaluated, relates⟩ := evaluate_comparison hop e name s
  rw [denotes.resolve, resolve_of_not_mem e unnamed] at relates
  exact ⟨b, evaluated, relates⟩

/--
An operand stands for the value of the field that it names, with the empty text for a response that
has not arrived, and for itself if it is no name. The tables, the lists of values and the test of
how a name begins give the same. A value that happens to be a name is compared as a text.
-/
theorem Field.resolve_characterised (e : Exchange) (s : String) :
    (∀ value, resolve e s = value ↔
        Denotes e s value ∨ s ∉ requestNames ++ responseNames ∧ value = s) ∧
      resolveByPrefix e s = resolve e s ∧
      ((requestValue? e s).isSome = true ↔ s ∈ requestNames) ∧
      (∀ r, (responseValue? r s).isSome = true ↔ s ∈ responseNames) ∧
      (∀ i : Nat, requestNames[i]? = some s → requestValue? e s = some (resolve e s) ∧
        (requestValues e)[i]? = some (resolve e s)) ∧
      (∀ (i : Nat) (r : Response), responseNames[i]? = some s →
        (responseValues r)[i]? = responseValue? r s ∧
          (e.response = some r → responseValue? r s = some (resolve e s))) ∧
      (s ∉ requestNames ++ responseNames → ∀ name value, Denotes e name value →
        ∀ op ∈ Operator.comparisons,
          ∃ b, (Expression.infixOp op (.literal name) (.literal s)).evaluate e = .ok b ∧
            (b = true ↔ op.Relates value s)) := by
  refine ⟨fun _ => resolve_eq_iff, resolveByPrefix_eq e s, requestValue?_isSome_iff,
    fun _ => responseValue?_isSome_iff, fun _ => getElem?_requestValues,
    fun _ _ => getElem?_responseValues, ?_⟩
  intro unnamed name value denotes op hop
  exact Expression.evaluate_comparison_of_denotes hop denotes unnamed

/-- The method is the name of a field, and so is the reason of the response. -/
theorem Field.resolve_characterised_nameful :
    let r : Response := .new 200 "req.url"
    let e : Exchange := (Exchange.new ⟨0, by decide⟩ "req.proto" none).withResponse r
    requestNames[3]? = some "req.method" ∧ requestValue? e "req.method" = some "req.proto" ∧
      (requestValues e)[3]? = some "req.proto" ∧ responseNames[2]? = some "res.statusReason" ∧
      (responseValues r)[2]? = responseValue? r "res.statusReason" ∧
      responseValue? r "res.statusReason" = some "req.url" ∧
      Denotes e "req.method" "req.proto" ∧ Denotes e "res.statusReason" "req.url" ∧
      "req.headers" ∉ requestNames ++ responseNames ∧ resolve e "req.headers" = "req.headers" ∧
      (Expression.infixOp .greater (.literal "req.method") (.literal "req.headers")).evaluate e =
        .ok true := by
  intro r e
  have method : resolve e "req.method" = "req.proto" := by decide +kernel
  have reason : resolve e "res.statusReason" = "req.url" := by decide +kernel
  have place : requestNames[3]? = some "req.method" := by decide
  have second : responseNames[2]? = some "res.statusReason" := by decide
  have unnamed : "req.headers" ∉ requestNames ++ responseNames := by decide
  have hop : Operator.greater ∈ Operator.comparisons := by decide
  obtain ⟨stands, _, _, _, requests, _, _⟩ := resolve_characterised e "req.method"
  obtain ⟨answers, _, _, _, _, responses, _⟩ := resolve_characterised e "res.statusReason"
  obtain ⟨itself, _, _, _, _, _, compared⟩ := resolve_characterised e "req.headers"
  have first : Denotes e "req.method" "req.proto" :=
    ((stands "req.proto").1 method).resolve_right fun other => other.1 (by decide)
  have other : Denotes e "res.statusReason" "req.url" :=
    ((answers "req.url").1 reason).resolve_right fun other => other.1 (by decide)
  obtain ⟨value, listed⟩ := requests 3 place
  obtain ⟨same, given⟩ := responses 2 r second
  obtain ⟨b, evaluated, relates⟩ := compared unnamed _ _ first .greater hop
  have greater : b = true := relates.2 (by decide +kernel : "req.headers" < "req.proto")
  rw [method] at value listed
  rw [reason] at given
  rw [greater] at evaluated
  exact ⟨place, value, listed, second, same, given rfl, first, other, unnamed,
    (itself _).2 (.inr ⟨unnamed, rfl⟩), evaluated⟩

end CapturedTraffic.Query
