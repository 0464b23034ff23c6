import CapturedTraffic.Json.Reader
import Mathlib.Data.List.Forall2

/-!
# What a record is read from

A value has a field under its name if it is an object, and at its place if it is an array. Whatever
is read as a record has each of its fields read from there, and a field that is optional is absent
exactly if the value lacks it or says null.
-/
namespace CapturedTraffic.Json

namespace Value

/-- What a value gives for a field. -/
def field? (name : String) (place : Nat) : Value → Option Value
  | .object entries => (entries.find? (·.1 = some name)).map Prod.snd
  | .array items => items[place]?
  | _ => none

/-- Whether a value leaves a field out, or gives null for it. -/
def Lacks (v : Value) (name : String) (place : Nat) : Prop :=
  v.field? name place = none ∨ v.field? name place = some .null

end Value

namespace Reader

variable {α β : Type}

theorem forall₂_of_mapM {read : α → Option β} {l : List α} {r : List β} (h : l.mapM read = some r) :
    List.Forall₂ (fun a b => read a = some b) l r := by
  induction l generalizing r with
  | nil =>
    cases h
    exact .nil
  | cons a l ih =>
    simp only [List.mapM_cons, Option.bind_eq_bind, Option.bind_eq_some_iff, Option.pure_def] at h
    obtain ⟨b, first, rest, tail, ⟨⟩⟩ := h
    exact .cons first (ih tail)

theorem mapM_of_forall₂ {read : α → Option β} {l : List α} {r : List β}
    (h : List.Forall₂ (fun a b => read a = some b) l r) : l.mapM read = some r := by
  induction h with
  | nil => rfl
  | cons first _ ih => simp only [List.mapM_cons, first, ih, Option.pure_def, Option.bind_eq_bind,
      Option.bind_some]

theorem find?_of_entries? {entries : List (Option String × Value)} {known : List (String × Value)}
    (h : entries? entries = some known) (name : String) :
    (known.find? (·.1 = name)).map Prod.snd = (entries.find? (·.1 = some name)).map Prod.snd := by
  have each := forall₂_of_mapM h
  clear h
  induction each with
  | nil => rfl
  | cons first tail ih =>
    obtain ⟨key, given, rfl⟩ := Option.map_eq_some_iff.1 first
    rw [List.find?_cons, List.find?_cons, given]
    by_cases same : key = name
    · simp [same]
    · simpa [same] using ih

theorem eq_find?_of_unique? {known : List (String × Value)} {name : String} {absence : Absence}
    {o : Option Value} (h : unique? known name absence = some o) :
    o = (known.find? (·.1 = name)).map Prod.snd := by
  rw [← List.head?_filter]
  unfold unique? at h
  split at h
  next missing =>
    rw [missing]
    split at h
    · cases h
    · exact (Option.some.inj h).symm
  next name v single =>
    rw [single]
    exact (Option.some.inj h).symm
  next => cases h

theorem getElem?_of_positional? {names : List (String × Absence)} {items : List Value}
    {values : List (Option Value)} (h : positional? names items = some values) (i : Nat) :
    values[i]? = names[i]?.map fun _ => items[i]? := by
  induction names generalizing items values i with
  | nil =>
    cases items with
    | nil => cases h; rfl
    | cons v items => cases h
  | cons f names ih =>
    cases items with
    | nil =>
      rw [positional?] at h
      split at h
      · obtain ⟨rest, tail, rfl⟩ := Option.map_eq_some_iff.1 h
        cases i with
        | zero => rfl
        | succ i => exact ih tail i
      · cases h
    | cons v items =>
      rw [positional?] at h
      obtain ⟨rest, tail, rfl⟩ := Option.map_eq_some_iff.1 h
      cases i with
      | zero => rfl
      | succ i => exact ih tail i

theorem getElem?_of_record? {names : List (String × Absence)} {v : Value}
    {values : List (Option Value)} (h : record? names v = some values) (i : Nat) :
    values[i]? = names[i]?.map fun f => v.field? f.1 i := by
  cases v with
  | null | boolean | natural | otherNumber | text => cases h
  | array items => exact getElem?_of_positional? h i
  | object entries =>
    obtain ⟨known, readable, all⟩ := Option.bind_eq_some_iff.1 h
    have each := forall₂_of_mapM all
    have length := each.length_eq
    by_cases hi : i < names.length
    · have unique := each.get hi (length ▸ hi)
      rw [List.get_eq_getElem, List.get_eq_getElem] at unique
      rw [List.getElem?_eq_getElem hi, List.getElem?_eq_getElem (length ▸ hi),
        eq_find?_of_unique? unique, find?_of_entries? readable]
      rfl
    · rw [List.getElem?_eq_none (by omega), List.getElem?_eq_none (by omega)]
      rfl

/-- The fields of a record are those of the value that it is read from. -/
theorem eq_of_record? {names : List (String × Absence)} {v : Value} {values : List (Option Value)}
    (h : record? names v = some values) :
    values = names.zipIdx.map fun f => v.field? f.1.1 f.2 := by
  apply List.ext_getElem?
  intro i
  rw [getElem?_of_record? h, List.getElem?_map, List.getElem?_zipIdx, Option.map_map, Nat.zero_add]
  rfl

theorem exists_of_fields {names : List (String × Absence)}
    {inner : Nat → List (Option Value) → Option α} {depth : Nat} {v : Value} {a : α}
    (h : fields names inner depth v = some a) :
    ∃ below, inner below (names.zipIdx.map fun f => v.field? f.1.1 f.2) = some a := by
  cases depth with
  | zero => cases h
  | succ below =>
    obtain ⟨values, read, made⟩ := Option.bind_eq_some_iff.1 h
    exact ⟨below, eq_of_record? read ▸ made⟩

theorem exists_of_list {reader : Reader α} {depth : Nat} {v : Value} {l : List α}
    (h : list reader depth v = some l) :
    ∃ below items, v = .array items ∧ List.Forall₂ (fun w a => reader below w = some a) items l := by
  unfold list at h
  split at h
  next below items => exact ⟨below, items, rfl, forall₂_of_mapM h⟩
  next => cases h

/-- An optional field is absent exactly if it is left out or null. -/
theorem eq_none_iff_of_orElse_optional {reader : Reader α} {depth : Nat} {v : Value} {name : String}
    {place : Nat} {o : Option α}
    (h : orElse (optional reader) none depth (v.field? name place) = some o) :
    o = none ↔ v.Lacks name place := by
  unfold Value.Lacks
  cases given : v.field? name place with
  | none =>
    rw [given] at h
    exact ⟨fun _ => .inl rfl, fun _ => (Option.some.inj h).symm⟩
  | some w =>
    rw [given, orElse] at h
    unfold optional at h
    split at h
    next => exact ⟨fun _ => .inr rfl, fun _ => (Option.some.inj h).symm⟩
    next visible =>
      obtain ⟨a, _, rfl⟩ := Option.map_eq_some_iff.1 h
      simpa using visible

/-- An optional field that is there is read from what the value gives for it. -/
theorem exists_field?_of_orElse_optional {reader : Reader α} {depth : Nat} {v : Value}
    {name : String} {place : Nat} {a : α}
    (h : orElse (optional reader) none depth (v.field? name place) = some (some a)) :
    ∃ w, v.field? name place = some w ∧ reader depth w = some a := by
  cases given : v.field? name place with
  | none => rw [given] at h; cases h
  | some w =>
    rw [given, orElse] at h
    unfold optional at h
    split at h
    next => cases h
    next =>
      obtain ⟨b, read, same⟩ := Option.map_eq_some_iff.1 h
      exact ⟨w, rfl, read.trans same⟩

end Reader

end CapturedTraffic.Json
