import CapturedTraffic.Proofs.Exchange.Arrival

/-!
# Headers of tables

Headers made of a table. Names that differ only in case are merged into one entry, which has the
values of all of them in the order of the table and stands under the first of them that has any
values. Headers are the tables that this leaves as they are.
-/
namespace CapturedTraffic.Headers

open Text

variable {entries : List (String × List String)} {t : Table (List String)} {name : String}

/-- The values of a name in all its spellings, in the order of the entries. -/
def merged (entries : List (String × List String)) (name : String) : List String :=
  (entries.filter fun e => sameIgnoringCase e.1 name).flatMap Prod.snd

/-- Whether an entry is one of the name that has values. -/
def bears (name : String) (e : String × List String) : Bool :=
  sameIgnoringCase e.1 name && !e.2.isEmpty

theorem bears_iff {e : String × List String} :
    bears name e = true ↔ sameIgnoringCase e.1 name = true ∧ e.2 ≠ [] := by
  simp [bears]

theorem ofTable_eq (t : Table (List String)) : ofTable t = ofFields (fieldsOf t.entries) := rfl

theorem valuesUnder_fieldsOf (entries : List (String × List String)) (name : String) :
    valuesUnder (fieldsOf entries) name = merged entries name := by
  induction entries with
  | nil => rfl
  | cons e rest ih =>
    unfold valuesUnder merged at ih ⊢
    rw [fieldsOf_cons, List.filter_append, List.map_append, ih, List.filter_map]
    cases same : sameIgnoringCase e.1 name <;> simp [Function.comp_def, same]

theorem spelling?_fieldsOf (entries : List (String × List String)) (name : String) :
    spelling? (fieldsOf entries) name = (entries.find? (bears name)).map Prod.fst := by
  induction entries with
  | nil => rfl
  | cons e rest ih =>
    unfold spelling? at ih ⊢
    rw [fieldsOf_cons, List.find?_append, Option.map_or, ih, List.find?_cons, bears]
    obtain ⟨spelling, values⟩ := e
    cases same : sameIgnoringCase spelling name with
    | true =>
      cases values with
      | nil => rfl
      | cons value others =>
        rw [List.map_cons, List.find?_cons_of_pos (by exact same)]
        rfl
    | false =>
      have missing : (values.map (spelling, ·)).find? (fun f => sameIgnoringCase f.1 name) = none :=
        List.find?_eq_none.2 (by simp [same])
      rw [missing]
      rfl

/-- What is found first in a sorted list is the least that could be found. -/
theorem find?_fst_eq_some_iff {p : String × List String → Bool}
    (sorted : entries.Pairwise fun a b => a.1 < b.1) :
    (entries.find? p).map Prod.fst = some name ↔
      (∃ e ∈ entries, p e = true ∧ e.1 = name) ∧
        ∀ e ∈ entries, p e = true → ¬ e.1 < name := by
  induction entries with
  | nil => simp
  | cons d rest ih =>
    obtain ⟨first, sorted⟩ := List.pairwise_cons.1 sorted
    rw [List.find?_cons]
    cases hd : p d with
    | true =>
      rw [Option.map_some, Option.some_inj]
      constructor
      · rintro rfl
        refine ⟨⟨d, List.mem_cons_self, hd, rfl⟩, ?_⟩
        intro e he _ less
        rcases List.mem_cons.1 he with rfl | he
        · exact String.lt_irrefl _ less
        · exact String.lt_asymm less (first e he)
      · rintro ⟨⟨e, he, _, rfl⟩, least⟩
        rcases List.mem_cons.1 he with rfl | he
        · rfl
        · exact absurd (first e he) (least d List.mem_cons_self hd)
    | false => simp [hd, ih sorted]

/--
Whether a name of a table is the first one in byte order, among those that are the same ignoring
case, that has any values.
-/
def Leads (t : Table (List String)) (name : String) : Prop :=
  (∃ e ∈ t.entries, e.1 = name ∧ e.2 ≠ []) ∧
    ∀ e ∈ t.entries, sameIgnoringCase e.1 name = true → e.2 ≠ [] →
      Utf8.encode name ≤ Utf8.encode e.1

theorem spelling?_eq_self_iff_leads (t : Table (List String)) (name : String) :
    spelling? (fieldsOf t.entries) name = some name ↔ Leads t name := by
  rw [spelling?_fieldsOf, find?_fst_eq_some_iff t.sorted, Leads]
  simp only [bears_iff, ← Utf8.encode_lt_encode_iff, List.not_lt]
  constructor
  · rintro ⟨⟨e, he, ⟨_, filled⟩, spelt⟩, least⟩
    exact ⟨⟨e, he, spelt, filled⟩, fun d hd same given => least d hd ⟨same, given⟩⟩
  · rintro ⟨⟨e, he, rfl, filled⟩, least⟩
    exact ⟨⟨e, he, ⟨sameIgnoringCase_self _, filled⟩, rfl⟩,
      fun d hd ⟨same, given⟩ => least d hd same given⟩

theorem mem_ofTable_iff {e : String × List String} :
    e ∈ (ofTable t).entries ↔ Leads t e.1 ∧ e.2 = merged t.entries e.1 := by
  rw [ofTable_eq, collects_ofFields, spelling?_eq_self_iff_leads, valuesUnder_fieldsOf]

theorem getAll_ofTable (t : Table (List String)) (name : String) :
    (ofTable t).getAll name = merged t.entries name := by
  rw [ofTable_eq, (collects_ofFields _).getAll, valuesUnder_fieldsOf]

/-- A name has an entry exactly if some spelling of it has values. -/
theorem knows_ofTable_iff (t : Table (List String)) (name : String) :
    knows (ofTable t).entries name = true ↔
      ∃ e ∈ t.entries, sameIgnoringCase e.1 name = true ∧ e.2 ≠ [] := by
  rw [ofTable_eq, (collects_ofFields _).knows_iff, spelling?_fieldsOf]
  simp only [Option.map_eq_some_iff, exists_comm (α := String), exists_eq_right', ← bears_iff]
  rw [← Option.isSome_iff_exists, List.find?_isSome]

/--
Headers made of a table, whose names are in byte order. Any spelling of a name finds the values of
all its spellings, in the order of the table. They are in one entry, under the first spelling in
byte order that has any values; a name whose spellings have none has no entry. Headers are made
again from their own table, so doing it twice to a table is doing it once.
-/
theorem ofTable_characterised (t : Table (List String)) :
    t.entries.Pairwise (fun a b => Utf8.encode a.1 < Utf8.encode b.1) ∧
      (∀ name, (ofTable t).getAll name =
        (t.entries.filter fun e => sameIgnoringCase e.1 name).flatMap Prod.snd) ∧
      (∀ e, e ∈ (ofTable t).entries ↔ Leads t e.1 ∧
        e.2 = (t.entries.filter fun d => sameIgnoringCase d.1 e.1).flatMap Prod.snd) ∧
      (ofTable t).entries.Pairwise (fun a b => sameIgnoringCase a.1 b.1 = false) ∧
      (∀ name, (∃ e ∈ (ofTable t).entries, sameIgnoringCase e.1 name = true) ↔
        ∃ e ∈ t.entries, sameIgnoringCase e.1 name = true ∧ e.2 ≠ []) ∧
      (∀ h : Headers, ofTable h.toTable = h) ∧
      ofTable (ofTable t).toTable = ofTable t := by
  refine ⟨t.sorted.imp Utf8.encode_lt_encode_iff.2, getAll_ofTable t, fun e => mem_ofTable_iff,
    (ofTable t).distinct, fun name => ?_, ofTable_toTable, ofTable_toTable _⟩
  rw [← knows_ofTable_iff, knows, List.any_eq_true]

/-- The first spelling of one name has no values, and no spelling of another has any. -/
theorem ofTable_characterised_emptied :
    let t : Table (List String) := .ofEntries
      [("set-cookie", ["c"]), ("Set-Cookie", ["b", "a"]), ("SET-COOKIE", []), ("Host", []),
        ("host", [])]
    t.entries.map Prod.fst = ["Host", "SET-COOKIE", "Set-Cookie", "host", "set-cookie"] ∧
      (ofTable t).getAll "set-Cookie" = ["b", "a", "c"] ∧
      ("Set-Cookie", ["b", "a", "c"]) ∈ (ofTable t).entries ∧ Leads t "Set-Cookie" ∧
      ¬ (∃ e ∈ (ofTable t).entries, sameIgnoringCase e.1 "HOST" = true) ∧
      ofTable (ofTable t).toTable = ofTable t := by
  intro t
  obtain ⟨_, values, entries, _, bearers, _, twice⟩ := ofTable_characterised t
  have held : ("Set-Cookie", ["b", "a", "c"]) ∈ (ofTable t).entries := by decide +kernel
  have unborne : ¬ ∃ e ∈ t.entries, sameIgnoringCase e.1 "HOST" = true ∧ e.2 ≠ [] := by
    decide +kernel
  exact ⟨by decide +kernel, (values _).trans (by decide +kernel), held, ((entries _).1 held).1,
    fun given => unborne ((bearers _).1 given), twice⟩

end CapturedTraffic.Headers
