import CapturedTraffic.Proofs.Json.Fields
import CapturedTraffic.Proofs.Json.Printing

/-!
# Reading written records

Readers are undone by writers: a list is read item by item, a table from its own entries, and a
record from an object that holds its fields in order, those without a value left out.
-/
namespace CapturedTraffic

open Text

namespace Text.Table

variable {α : Type}

theorem putIn_last {key : String} (v : α) {entries : List (String × α)}
    (later : ∀ e ∈ entries, e.1 < key) : putIn key v entries = entries ++ [(key, v)] := by
  induction entries with
  | nil => rfl
  | cons e rest ih =>
    have first := later e List.mem_cons_self
    have tail := ih fun d hd => later d (List.mem_cons_of_mem e hd)
    have differ : key ≠ e.1 := fun same => String.lt_irrefl key (same ▸ first)
    rw [putIn, if_neg (String.lt_asymm first), if_neg differ, tail, List.cons_append]

theorem foldl_put {t : Table α} {rest : List (String × α)}
    (sorted : (t.entries ++ rest).Pairwise fun a b => a.1 < b.1) :
    (rest.foldl (fun t (key, v) => t.put key v) t).entries = t.entries ++ rest := by
  induction rest generalizing t with
  | nil => rw [List.append_nil]; rfl
  | cons e rest ih =>
    have first : (t.put e.1 e.2).entries = t.entries ++ [e] :=
      putIn_last e.2 fun d hd => (List.pairwise_append.1 sorted).2.2 d hd e List.mem_cons_self
    have split : t.entries ++ e :: rest = t.entries ++ [e] ++ rest := by simp
    rw [split, ← first] at sorted
    rw [List.foldl_cons, split, ← first]
    exact ih sorted

theorem ofEntries_entries (t : Table α) : ofEntries t.entries = t := by
  have same := foldl_put (t := empty) t.sorted
  obtain ⟨entries, sorted⟩ := t
  rw [ofEntries, mk.injEq, same]
  rfl

end Text.Table

namespace Json

/-- Entries under known keys. -/
def keyed (known : List (String × Value)) : List (Option String × Value) :=
  known.map fun (name, v) => (some name, v)

theorem Value.plain_keyed (known : List (String × Value)) (each : ∀ e ∈ known, e.2.Plain) :
    (object (keyed known)).Plain := by
  apply Plain.object
  · intro e he
    obtain ⟨d, _, rfl⟩ := List.mem_map.1 he
    rfl
  · intro e he
    obtain ⟨d, hd, rfl⟩ := List.mem_map.1 he
    exact each d hd

theorem Value.plain_entry (name : String) {v : Value} (h : v.Plain) :
    (object [(some name, v)]).Plain :=
  plain_keyed [(name, v)] (List.forall_mem_cons.2 ⟨h, by simp⟩)

theorem Value.plain_getD_null {α : Type} {write : α → Value} (o : Option α)
    (each : ∀ a, (write a).Plain) : ((o.map write).getD .null).Plain := by
  cases o with
  | none => exact .null
  | some a => exact each a

namespace Reader

variable {α β γ : Type}

theorem mapM_map_eq_some {read : β → Option γ} {f : α → β} {g : α → γ} {l : List α}
    (h : ∀ a ∈ l, read (f a) = some (g a)) : (l.map f).mapM read = some (l.map g) := by
  apply mapM_of_forall₂
  rw [List.forall₂_map_left_iff, List.forall₂_map_right_iff, List.forall₂_same]
  exact h

theorem mapM_written {read : β → Option α} {write : α → β} {l : List α}
    (back : ∀ a ∈ l, read (write a) = some a) : (l.map write).mapM read = some l := by
  have all := mapM_map_eq_some (g := id) back
  rw [List.map_id] at all
  exact all

theorem entries?_keyed (known : List (String × Value)) : entries? (keyed known) = some known :=
  mapM_written fun _ _ => rfl

theorem list_array {reader : Reader α} {write : α → Value} {items : List α} {depth : Nat}
    (back : ∀ a ∈ items, reader depth (write a) = some a) :
    list reader (depth + 1) (.array (items.map write)) = some items := mapM_written back

theorem table_keyed {reader : Reader α} {write : α → Value} {depth : Nat} (t : Table α)
    (back : ∀ e ∈ t.entries, reader depth (write e.2) = some e.2) :
    table reader (depth + 1) (.object (keyed (t.entries.map fun e => (e.1, write e.2)))) =
      some t := by
  have each : ∀ e ∈ t.entries, (reader depth (write e.2)).map (e.1, ·) = some e := by
    intro e he
    rw [back e he, Option.map_some]
  rw [table, entries?_keyed, Option.bind_some, mapM_written each, Option.map_some,
    Table.ofEntries_entries]

theorem optional_written {reader : Reader α} {depth : Nat} {v : Value} {a : α} (visible : v ≠ .null)
    (back : reader depth v = some a) : optional reader depth v = some (some a) := by
  rw [optional, back, Option.map_some]
  exact visible

theorem optional_getD_null {reader : Reader α} {write : α → Value} {o : Option α} {depth : Nat}
    (visible : ∀ a, write a ≠ .null) (back : ∀ a ∈ o, reader depth (write a) = some a) :
    optional reader depth ((o.map write).getD .null) = some o := by
  cases o with
  | none => rfl
  | some a => exact optional_written (visible a) (back a rfl)

/-- A field that may be left out is read back whether it is there or not. -/
theorem orElse_optional {reader : Reader α} {write : α → Value} {o : Option α} {depth : Nat}
    (visible : ∀ a, write a ≠ .null) (back : ∀ a ∈ o, reader depth (write a) = some a) :
    orElse (optional reader) none depth (o.map write) = some o := by
  cases o with
  | none => rfl
  | some a => exact optional_written (visible a) (back a rfl)

/-- What is written for a record: its fields with their values, those without a value left out. -/
def written (names : List (String × Absence)) (values : List (Option Value)) :
    List (String × Value) :=
  (names.zip values).filterMap fun (field, v) => v.map (field.1, ·)

theorem plain_written {names : List (String × Absence)} {values : List (Option Value)}
    (each : ∀ v ∈ values, ∀ w ∈ v, w.Plain) :
    (Value.object (keyed (written names values))).Plain := by
  apply Value.plain_keyed
  intro e he
  obtain ⟨⟨field, v⟩, hf, found⟩ := List.mem_filterMap.1 he
  obtain ⟨w, given, rfl⟩ := Option.map_eq_some_iff.1 found
  exact each v (List.of_mem_zip hf).2 w given

theorem filter_filterMap_of_ne {fields : List ((String × Absence) × Option Value)} {name : String}
    (other : ∀ f ∈ fields, f.1.1 ≠ name) :
    (fields.filterMap fun (field, v) => v.map (field.1, ·)).filter (·.1 = name) = [] := by
  rw [List.filter_eq_nil_iff]
  intro e he
  obtain ⟨⟨field, v⟩, hf, found⟩ := List.mem_filterMap.1 he
  obtain ⟨w, _, rfl⟩ := Option.map_eq_some_iff.1 found
  simpa using other _ hf

theorem filter_filterMap {fields : List ((String × Absence) × Option Value)}
    (nodup : (fields.map fun f => f.1.1).Nodup) {f : (String × Absence) × Option Value}
    (hf : f ∈ fields) :
    (fields.filterMap fun (field, v) => v.map (field.1, ·)).filter (·.1 = f.1.1) =
      (f.2.map (f.1.1, ·)).toList := by
  induction fields with
  | nil => cases hf
  | cons d rest ih =>
    obtain ⟨apart, nodup⟩ := List.nodup_cons.1 nodup
    rcases List.mem_cons.1 hf with rfl | hf
    · have others : ∀ e ∈ rest, e.1.1 ≠ f.1.1 := fun e he same =>
        apart (List.mem_map.2 ⟨e, he, same⟩)
      have none_left := filter_filterMap_of_ne others
      cases given : f.2 <;> simp [given, none_left]
    · have differ : d.1.1 ≠ f.1.1 := fun same => apart (List.mem_map.2 ⟨f, hf, same.symm⟩)
      cases given : d.2 <;> simp [given, differ, ih nodup hf]

/-- The fields of a record are told apart by their names, so each is found with its own value. -/
theorem record?_written (names : List (String × Absence)) (values : List (Option Value))
    (length : names.length = values.length) (nodup : (names.map Prod.fst).Nodup)
    (given : ∀ f ∈ names.zip values, f.1.2 = .forbidden → f.2.isSome = true) :
    record? names (.object (keyed (written names values))) = some values := by
  have fst : (names.zip values).map Prod.fst = names := List.map_fst_zip (by omega)
  have snd : (names.zip values).map Prod.snd = values := List.map_snd_zip (by omega)
  have apart : ((names.zip values).map fun f => f.1.1).Nodup := by
    rw [← fst, List.map_map] at nodup
    exact nodup
  have found : ∀ f ∈ names.zip values,
      unique? (written names values) f.1.1 f.1.2 = some f.2 := by
    intro f hf
    rw [unique?, written, filter_filterMap apart hf]
    cases absent : f.2 with
    | some v => rfl
    | none =>
      have allowed : f.1.2 ≠ .forbidden := fun h => by simpa [absent] using given f hf h
      simp [allowed]
  rw [record?, entries?_keyed, Option.bind_some]
  calc names.mapM (fun field => unique? (written names values) field.1 field.2)
    _ = ((names.zip values).map Prod.fst).mapM
          (fun field => unique? (written names values) field.1 field.2) := by rw [fst]
    _ = some ((names.zip values).map Prod.snd) := mapM_map_eq_some found
    _ = some values := by rw [snd]

theorem fields_written (names : List (String × Absence)) (values : List (Option Value))
    (inner : Nat → List (Option Value) → Option α) (depth : Nat)
    (length : names.length = values.length) (nodup : (names.map Prod.fst).Nodup)
    (given : ∀ f ∈ names.zip values, f.1.2 = .forbidden → f.2.isSome = true) :
    fields names inner (depth + 1) (.object (keyed (written names values))) =
      inner depth values := by
  rw [fields, record?_written names values length nodup given, Option.bind_some]

end Reader

end Json

end CapturedTraffic
