import CapturedTraffic.Exchange.Headers

/-!
# Headers and their tables

Headers are rebuilt from their table. The names come in their order, so each new one is put behind
those before it, and the further values of a name meet it in last place.
-/
namespace CapturedTraffic.Headers

open Text

variable {h : Headers} {name : String} {before : List (String × List String)}

theorem eq_of_entries {a b : Headers} (same : a.entries = b.entries) : a = b := by
  cases a
  cases b
  cases same
  rfl

theorem entries_append_of_knows (known : knows h.entries name = true) (value : String) :
    (h.append name value).entries = extend h.entries name value := by
  rw [append, dif_pos known]

theorem entries_append_of_new (new : knows h.entries name = false) (value : String) :
    (h.append name value).entries = insert name value h.entries := by
  rw [append, dif_neg (by simp [new])]

theorem insert_last (value : String) {entries : List (String × List String)}
    (later : ∀ e ∈ entries, e.1 < name) :
    insert name value entries = entries ++ [(name, [value])] := by
  induction entries with
  | nil => rfl
  | cons e rest ih =>
    have tail := ih fun d hd => later d (List.mem_cons_of_mem e hd)
    rw [insert, if_pos (later e List.mem_cons_self), tail, List.cons_append]

theorem append_behind (value : String) (later : ∀ e ∈ h.entries, e.1 < name)
    (new : ∀ e ∈ h.entries, sameIgnoringCase e.1 name = false) :
    (h.append name value).entries = h.entries ++ [(name, [value])] := by
  rw [entries_append_of_new (not_knows_iff.2 new)]
  exact insert_last value later

theorem extend_of_not_knows (value : String) {entries : List (String × List String)}
    (new : ∀ e ∈ entries, sameIgnoringCase e.1 name = false) :
    extend entries name value = entries := by
  have same : ∀ e ∈ entries,
      (if sameIgnoringCase e.1 name then (e.1, e.2 ++ [value]) else e) = e := by
    intro e he
    rw [if_neg (by simp [new e he])]
  rw [extend, List.map_congr_left same, List.map_id']

theorem append_last {values : List String} (last : h.entries = before ++ [(name, values)])
    (value : String) : (h.append name value).entries = before ++ [(name, values ++ [value])] := by
  have distinct := h.distinct
  rw [last, List.pairwise_append] at distinct
  have others : ∀ e ∈ before, sameIgnoringCase e.1 name = false := by
    intro e he
    exact distinct.2.2 e he (name, values) (by simp)
  have known : knows h.entries name = true := by
    simp [knows, last, sameIgnoringCase_self]
  have extended : extend (before ++ [(name, values)]) name value =
      extend before name value ++ [(name, values ++ [value])] := by
    simp [extend, sameIgnoringCase_self]
  rw [entries_append_of_knows known, last, extended, extend_of_not_knows value others]

/-- Adds fields in the order listed. -/
def appendAll (h : Headers) (fields : List (String × String)) : Headers :=
  fields.foldl (fun h (name, value) => h.append name value) h

theorem appendAll_append (h : Headers) (a b : List (String × String)) :
    h.appendAll (a ++ b) = (h.appendAll a).appendAll b := List.foldl_append

theorem appendAll_last {values : List String} (last : h.entries = before ++ [(name, values)])
    (more : List String) :
    (h.appendAll (more.map (name, ·))).entries = before ++ [(name, values ++ more)] := by
  induction more generalizing h values with
  | nil => rw [List.append_nil]; exact last
  | cons value more ih =>
    have step := ih (append_last last value)
    rw [List.append_assoc, List.singleton_append] at step
    exact step

theorem appendAll_entry {values : List String} (later : ∀ e ∈ h.entries, e.1 < name)
    (new : ∀ e ∈ h.entries, sameIgnoringCase e.1 name = false) (filled : values ≠ []) :
    (h.appendAll (values.map (name, ·))).entries = h.entries ++ [(name, values)] := by
  cases values with
  | nil => exact absurd rfl filled
  | cons value more => exact appendAll_last (append_behind value later new) more

/-- The fields of entries, in arrival order for each name. -/
def fieldsOf (entries : List (String × List String)) : List (String × String) :=
  entries.flatMap fun (name, values) => values.map (name, ·)

theorem appendAll_fieldsOf {rest : List (String × List String)}
    (sorted : (h.entries ++ rest).Pairwise fun a b => a.1 < b.1)
    (distinct : (h.entries ++ rest).Pairwise fun a b => sameIgnoringCase a.1 b.1 = false)
    (filled : ∀ e ∈ rest, e.2 ≠ []) :
    (h.appendAll (fieldsOf rest)).entries = h.entries ++ rest := by
  induction rest generalizing h with
  | nil => rw [List.append_nil]; rfl
  | cons e rest ih =>
    obtain ⟨name, values⟩ := e
    have first : (h.appendAll (values.map (name, ·))).entries = h.entries ++ [(name, values)] := by
      apply appendAll_entry
      · exact fun d hd => (List.pairwise_append.1 sorted).2.2 d hd _ List.mem_cons_self
      · exact fun d hd => (List.pairwise_append.1 distinct).2.2 d hd _ List.mem_cons_self
      · exact filled _ List.mem_cons_self
    have split : h.entries ++ (name, values) :: rest = h.entries ++ [(name, values)] ++ rest := by
      simp
    rw [split, ← first] at sorted distinct
    have others := ih sorted distinct fun d hd => filled d (List.mem_cons_of_mem _ hd)
    rw [fieldsOf, List.flatMap_cons, appendAll_append, split, ← first]
    exact others

theorem ofTable_toTable (h : Headers) : ofTable h.toTable = h := by
  apply eq_of_entries
  exact appendAll_fieldsOf (h := empty) h.sorted h.distinct h.filled

end CapturedTraffic.Headers
