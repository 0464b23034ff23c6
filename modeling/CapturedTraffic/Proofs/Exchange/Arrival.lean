import CapturedTraffic.Proofs.Exchange.HeaderTable
import CapturedTraffic.Proofs.Text.ByteOrder
import Mathlib.Data.List.Dedup

/-!
# What headers hold

Headers put together field by field. Each name that arrived in some spelling has one entry, under
the spelling that came first, with the values of all its spellings in the order of their arrival.
Every field that arrives keeps this so, and from it follows what is found under a name, how many
entries there are, and that no value has been lost, doubled or moved.
-/
namespace CapturedTraffic

namespace Text

theorem sameIgnoringCase_congr_right {a b : String} (h : sameIgnoringCase a b = true) (c : String) :
    sameIgnoringCase c a = sameIgnoringCase c b := by
  rw [sameIgnoringCase_comm c a, sameIgnoringCase_comm c b, sameIgnoringCase_congr h]

end Text

namespace Headers

open Text

variable {h : Headers} {fields : List (String × String)} {name value : String}

/-- The values that arrived under a name, in any spelling of it. -/
def valuesUnder (fields : List (String × String)) (name : String) : List String :=
  (fields.filter fun f => sameIgnoringCase f.1 name).map Prod.snd

/-- The spelling in which a name arrived first. -/
def spelling? (fields : List (String × String)) (name : String) : Option String :=
  (fields.find? fun f => sameIgnoringCase f.1 name).map Prod.fst

theorem valuesUnder_congr {a b : String} (same : sameIgnoringCase a b = true)
    (fields : List (String × String)) : valuesUnder fields a = valuesUnder fields b := by
  simp only [valuesUnder, sameIgnoringCase_congr_right same]

theorem spelling?_congr {a b : String} (same : sameIgnoringCase a b = true)
    (fields : List (String × String)) : spelling? fields a = spelling? fields b := by
  simp only [spelling?, sameIgnoringCase_congr_right same]

theorem sameIgnoringCase_of_spelling? {first : String} (h : spelling? fields name = some first) :
    sameIgnoringCase first name = true := by
  obtain ⟨f, found, rfl⟩ := Option.map_eq_some_iff.1 h
  have held := List.find?_some found
  exact held

theorem spelling?_spelling {first : String} (h : spelling? fields name = some first) :
    spelling? fields first = some first := by
  rw [spelling?_congr (sameIgnoringCase_of_spelling? h), h]

theorem spelling?_eq_none_iff :
    spelling? fields name = none ↔ ∀ f ∈ fields, sameIgnoringCase f.1 name = false := by
  simp [spelling?]

theorem valuesUnder_eq_nil (new : spelling? fields name = none) : valuesUnder fields name = [] := by
  rw [spelling?_eq_none_iff] at new
  simpa [valuesUnder] using new

theorem valuesUnder_concat (fields : List (String × String)) (name value other : String) :
    valuesUnder (fields ++ [(name, value)]) other =
      valuesUnder fields other ++ if sameIgnoringCase name other then [value] else [] := by
  rw [valuesUnder, List.filter_append, List.map_append, List.filter_singleton]
  cases sameIgnoringCase name other <;> rfl

theorem spelling?_concat (fields : List (String × String)) (name value other : String) :
    spelling? (fields ++ [(name, value)]) other =
      (spelling? fields other).or (if sameIgnoringCase name other then some name else none) := by
  rw [spelling?, List.find?_append, Option.map_or, List.find?_singleton]
  cases sameIgnoringCase name other <;> rfl

/-- A name that has arrived before brings no new spelling. -/
theorem spelling?_concat_of_some {first : String} (spelt : spelling? fields name = some first)
    (value other : String) :
    spelling? (fields ++ [(name, value)]) other = spelling? fields other := by
  rw [spelling?_concat]
  cases same : sameIgnoringCase name other with
  | true => rw [← spelling?_congr same, spelt, Option.some_or]
  | false => exact Option.or_none

/--
Every entry is under the first spelling of its name and has all values of that name, and every name
has its entry.
-/
def Collects (h : Headers) (fields : List (String × String)) : Prop :=
  ∀ e, e ∈ h.entries ↔ spelling? fields e.1 = some e.1 ∧ e.2 = valuesUnder fields e.1

theorem Collects.knows_iff (collects : h.Collects fields) :
    knows h.entries name = true ↔ ∃ first, spelling? fields name = some first := by
  rw [knows, List.any_eq_true]
  constructor
  · rintro ⟨e, he, same⟩
    exact ⟨e.1, spelling?_congr same fields ▸ ((collects e).1 he).1⟩
  · rintro ⟨first, spelt⟩
    exact ⟨(first, valuesUnder fields first), (collects _).2 ⟨spelling?_spelling spelt, rfl⟩,
      sameIgnoringCase_of_spelling? spelt⟩

theorem Collects.spelling?_of_new (collects : h.Collects fields)
    (new : knows h.entries name = false) : spelling? fields name = none := by
  rw [Option.eq_none_iff_forall_ne_some]
  intro first spelt
  rw [collects.knows_iff.2 ⟨first, spelt⟩] at new
  cases new

theorem Collects.append_of_knows (collects : h.Collects fields) (known : knows h.entries name = true)
    (value : String) : (h.append name value).Collects (fields ++ [(name, value)]) := by
  obtain ⟨first, spelt⟩ := collects.knows_iff.1 known
  intro e
  rw [entries_append_of_knows known, extend, List.mem_map, spelling?_concat_of_some spelt,
    valuesUnder_concat]
  constructor
  · rintro ⟨d, hd, rfl⟩
    obtain ⟨spelling, values⟩ := (collects d).1 hd
    rw [sameIgnoringCase_comm d.1 name]
    cases same : sameIgnoringCase name d.1 with
    | true => exact ⟨spelling, by simp [values, same]⟩
    | false => exact ⟨spelling, by simp [values, same]⟩
  · rintro ⟨spelling, values⟩
    refine ⟨(e.1, valuesUnder fields e.1), (collects _).2 ⟨spelling, rfl⟩, ?_⟩
    rw [sameIgnoringCase_comm e.1 name]
    cases same : sameIgnoringCase name e.1 with
    | true => exact Prod.ext rfl (by simp [values, same])
    | false => exact Prod.ext rfl (by simp [values, same])

theorem Collects.append_of_new (collects : h.Collects fields) (new : knows h.entries name = false)
    (value : String) : (h.append name value).Collects (fields ++ [(name, value)]) := by
  have unspelt := collects.spelling?_of_new new
  intro e
  rw [entries_append_of_new new, mem_insert, spelling?_concat, valuesUnder_concat]
  constructor
  · rintro (rfl | he)
    · rw [unspelt, valuesUnder_eq_nil unspelt, sameIgnoringCase_self]
      exact ⟨rfl, rfl⟩
    · obtain ⟨spelling, values⟩ := (collects e).1 he
      have other : sameIgnoringCase name e.1 = false := by
        rw [sameIgnoringCase_comm]
        exact not_knows_iff.1 new e he
      rw [spelling, other, values]
      exact ⟨rfl, (List.append_nil _).symm⟩
  · cases same : sameIgnoringCase name e.1 with
    | true =>
      rw [← spelling?_congr same, ← valuesUnder_congr same, unspelt, valuesUnder_eq_nil unspelt]
      rintro ⟨spelling, values⟩
      exact .inl (Prod.ext (Option.some.inj spelling).symm values)
    | false =>
      rintro ⟨spelling, values⟩
      exact .inr ((collects e).2 ⟨by simpa using spelling, by simpa using values⟩)

theorem Collects.append (collects : h.Collects fields) (name value : String) :
    (h.append name value).Collects (fields ++ [(name, value)]) := by
  cases known : knows h.entries name with
  | true => exact collects.append_of_knows known value
  | false => exact collects.append_of_new known value

theorem collects_empty : empty.Collects [] := by
  intro e
  simp [empty, spelling?]

theorem Collects.appendAll (collects : h.Collects fields) (more : List (String × String)) :
    (h.appendAll more).Collects (fields ++ more) := by
  induction more generalizing h fields with
  | nil => rwa [List.append_nil]
  | cons f more ih =>
    have step := ih (collects.append f.1 f.2)
    rwa [List.append_assoc, List.singleton_append] at step

theorem collects_ofFields (fields : List (String × String)) : (ofFields fields).Collects fields :=
  collects_empty.appendAll fields

theorem Collects.getAll (collects : h.Collects fields) (name : String) :
    h.getAll name = valuesUnder fields name := by
  rw [Headers.getAll]
  cases found : h.entries.find? fun e => sameIgnoringCase e.1 name with
  | some e =>
    have values := ((collects e).1 (List.mem_of_find?_eq_some found)).2
    have same := List.find?_some found
    rw [Option.map_some, Option.getD_some, values, valuesUnder_congr same]
  | none =>
    have new : knows h.entries name = false :=
      not_knows_iff.2 (by simpa using List.find?_eq_none.1 found)
    rw [valuesUnder_eq_nil (collects.spelling?_of_new new)]
    rfl

theorem exists_spelling?_of_mem {f : String × String} (hf : f ∈ fields) :
    ∃ first, spelling? fields f.1 = some first := by
  rw [← Option.ne_none_iff_exists', Ne, spelling?_eq_none_iff]
  intro new
  have other := new f hf
  rw [sameIgnoringCase_self] at other
  cases other

theorem exists_mem_of_spelling? {first : String} (h : spelling? fields name = some first) :
    ∃ f ∈ fields, f.1 = first := by
  obtain ⟨f, found, same⟩ := Option.map_eq_some_iff.1 h
  exact ⟨f, List.mem_of_find?_eq_some found, same⟩

theorem Collects.existsUnique (collects : h.Collects fields) {f : String × String}
    (hf : f ∈ fields) : ∃! e, e ∈ h.entries ∧ sameIgnoringCase e.1 f.1 = true := by
  obtain ⟨first, spelt⟩ := exists_spelling?_of_mem hf
  refine ⟨(first, valuesUnder fields first), ⟨?_, sameIgnoringCase_of_spelling? spelt⟩, ?_⟩
  · exact (collects _).2 ⟨spelling?_spelling spelt, rfl⟩
  · rintro e ⟨he, same⟩
    obtain ⟨spelling, values⟩ := (collects e).1 he
    rw [spelling?_congr same, spelt] at spelling
    rw [← Option.some.inj spelling] at values
    exact Prod.ext (Option.some.inj spelling).symm values

/-- Entries and classes of names stand in one-to-one correspondence. -/
theorem Collects.size (collects : h.Collects fields) :
    h.size = (fields.map fun f => asciiFold f.1).dedup.length := by
  have distinct : (h.entries.map fun e => asciiFold e.1).Nodup := by
    apply List.pairwise_map.2
    apply h.distinct.imp
    intro a b differ same
    rw [sameIgnoringCase_iff.2 same] at differ
    cases differ
  have names : ∀ k, k ∈ h.entries.map (fun e => asciiFold e.1) ↔
      k ∈ (fields.map fun f => asciiFold f.1).dedup := by
    intro k
    rw [List.mem_dedup, List.mem_map, List.mem_map]
    constructor
    · rintro ⟨e, he, rfl⟩
      obtain ⟨f, hf, same⟩ := exists_mem_of_spelling? ((collects e).1 he).1
      exact ⟨f, hf, by rw [same]⟩
    · rintro ⟨f, hf, rfl⟩
      obtain ⟨e, ⟨he, same⟩, _⟩ := collects.existsUnique hf
      exact ⟨e, he, sameIgnoringCase_iff.1 same⟩
  have matched := (List.perm_ext_iff_of_nodup distinct (List.nodup_dedup _)).2 names
  rw [Headers.size, ← matched.length_eq, List.length_map]

/-- A field with its name taken up to ASCII case. -/
def folded (f : String × String) : List Char × String := (asciiFold f.1, f.2)

theorem insert_perm (name value : String) (entries : List (String × List String)) :
    (insert name value entries).Perm ((name, [value]) :: entries) := by
  induction entries with
  | nil => exact .refl _
  | cons e rest ih =>
    unfold insert
    split
    · exact (ih.cons e).trans (.swap ..)
    · exact .refl _

theorem fieldsOf_cons (e : String × List String) (rest : List (String × List String)) :
    fieldsOf (e :: rest) = e.2.map (e.1, ·) ++ fieldsOf rest := rfl

/-- Extending reaches one entry only, so it adds one field. -/
theorem fieldsOf_extend_perm {entries : List (String × List String)}
    (distinct : entries.Pairwise fun a b => sameIgnoringCase a.1 b.1 = false)
    (known : knows entries name = true) (value : String) :
    ((fieldsOf (extend entries name value)).map folded).Perm
      (folded (name, value) :: (fieldsOf entries).map folded) := by
  induction entries with
  | nil => cases known
  | cons e rest ih =>
    obtain ⟨apart, distinct⟩ := List.pairwise_cons.1 distinct
    rw [fieldsOf_cons, List.map_append, extend, List.map_cons, ← extend]
    cases same : sameIgnoringCase e.1 name with
    | true =>
      have others : ∀ d ∈ rest, sameIgnoringCase d.1 name = false := by
        intro d hd
        rw [← sameIgnoringCase_congr_right same, sameIgnoringCase_comm]
        exact apart d hd
      have fold : asciiFold e.1 = asciiFold name := sameIgnoringCase_iff.1 same
      rw [if_pos rfl, extend_of_not_knows value others, fieldsOf_cons]
      simp only [List.map_append, List.map_cons, List.map_nil, List.append_assoc,
        List.singleton_append, folded, fold]
      exact List.perm_middle
    | false =>
      have known : knows rest name = true := by simpa [knows, same] using known
      rw [if_neg (by simp), fieldsOf_cons, List.map_append]
      exact ((ih distinct known).append_left _).trans List.perm_middle

theorem fieldsOf_append_perm (h : Headers) (name value : String) :
    ((fieldsOf (h.append name value).entries).map folded).Perm
      (folded (name, value) :: (fieldsOf h.entries).map folded) := by
  cases known : knows h.entries name with
  | true =>
    rw [entries_append_of_knows known]
    exact fieldsOf_extend_perm h.distinct known value
  | false =>
    rw [entries_append_of_new known]
    exact ((insert_perm name value h.entries).flatMap_right _).map folded

theorem fieldsOf_appendAll_perm (h : Headers) (more : List (String × String)) :
    ((fieldsOf (h.appendAll more).entries).map folded).Perm
      ((fieldsOf h.entries).map folded ++ more.map folded) := by
  induction more generalizing h with
  | nil => rw [List.map_nil, List.append_nil]; rfl
  | cons f more ih =>
    have step := (fieldsOf_append_perm h f.1 f.2).append_right (more.map folded)
    exact ((ih (h.append f.1 f.2)).trans step).trans List.perm_middle.symm

/--
Headers put together from any fields: the entries are in the order of the bytes of their names, no
two names are the same ignoring case, and no entry is without values. Each name that arrived has one
entry, under its first spelling and with its values in arrival order, and any spelling finds them.
There are as many entries as there are names up to case, and every field is in them once.
-/
theorem ofFields_characterised (fields : List (String × String)) :
    (ofFields fields).entries.Pairwise (fun a b => Utf8.encode a.1 < Utf8.encode b.1) ∧
      (ofFields fields).entries.Pairwise (fun a b => sameIgnoringCase a.1 b.1 = false) ∧
      (∀ e ∈ (ofFields fields).entries, e.2 ≠ []) ∧
      (∀ f ∈ fields, ∃! e, e ∈ (ofFields fields).entries ∧ sameIgnoringCase e.1 f.1 = true) ∧
      (∀ e, e ∈ (ofFields fields).entries ↔
        spelling? fields e.1 = some e.1 ∧ e.2 = valuesUnder fields e.1) ∧
      (ofFields fields).size = (fields.map fun f => asciiFold f.1).dedup.length ∧
      (∀ name, (ofFields fields).getAll name = valuesUnder fields name) ∧
      ((fieldsOf (ofFields fields).entries).map folded).Perm (fields.map folded) := by
  have collects := collects_ofFields fields
  refine ⟨?_, (ofFields fields).distinct, (ofFields fields).filled, fun f => collects.existsUnique,
    collects, collects.size, collects.getAll, fieldsOf_appendAll_perm empty fields⟩
  exact (ofFields fields).sorted.imp Utf8.encode_lt_encode_iff.2

/-- Two names arrive in turns and in three spellings. -/
theorem ofFields_characterised_interleaved :
    let fields := [("é", "1"), ("Set-Cookie", "a"), ("É", "2"), ("set-cookie", "b"), ("é", "3"),
      ("SET-COOKIE", "a")]
    (ofFields fields).entries =
        [("Set-Cookie", ["a", "b", "a"]), ("É", ["2"]), ("é", ["1", "3"])] ∧
      (ofFields fields).size = 3 ∧ (ofFields fields).getAll "sEt-cOOkie" = ["a", "b", "a"] ∧
      (ofFields fields).getAll "accept" = [] ∧
      ∃! e, e ∈ (ofFields fields).entries ∧ sameIgnoringCase e.1 "set-cookie" = true := by
  intro fields
  obtain ⟨_, _, _, unique, _, size, values, _⟩ := ofFields_characterised fields
  refine ⟨by decide +kernel, size.trans (by decide +kernel), (values _).trans (by decide +kernel),
    (values _).trans (by decide +kernel), unique ("set-cookie", "b") (by decide)⟩

end Headers

end CapturedTraffic
