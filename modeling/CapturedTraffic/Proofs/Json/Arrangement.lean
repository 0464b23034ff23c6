import CapturedTraffic.Proofs.Json.Composing
import CapturedTraffic.Proofs.Json.Depth
import CapturedTraffic.Proofs.Json.Records

/-!
# Arrangements of a record

The members of an object, each in its own spelling, may stand in any order and among members that the
record does not know. What is read depends only on what the members give for each field, and the
values alone, in the order of the fields, are read like the object that names them. Depth does not
matter for records, which enter only a fixed number of containers.
-/
namespace CapturedTraffic.Json

/-- A member of an object as it is written: a key in some spelling, and a text for its value. -/
structure Member where
  key : String
  keyText : String
  text : String
  spelt : Token.all [] keyText.toList = some [.text (some key)]
  wellFormed : (Value.parse? text).isSome = true
  deriving DecidableEq

namespace Member

def value (m : Member) : Value := (Value.parse? m.text).get m.wellFormed

theorem parse?_text (m : Member) : Value.parse? m.text = some m.value := (Option.some_get _).symm

def entry (m : Member) : String × Value := (m.key, m.value)

/-- The members with the keys of a record's fields. -/
def known (names : List String) (members : List Member) : List Member :=
  members.filter fun m => m.key ∈ names

end Member

def objectText (members : List Member) : String :=
  "\x7b" ++ ",".intercalate (members.map fun m => m.keyText ++ ":" ++ m.text) ++ "\x7d"

def arrayText (texts : List String) : String := "[" ++ ",".intercalate texts ++ "]"

/-- The text is an object of these members, with any blanks between and around them. -/
def IsObjectOf (text : String) (members : List Member) : Prop :=
  Value.parse? text = some (.object (keyed (members.map Member.entry)))

/-- The text is an array of the values of these members. -/
def IsArrayOf (text : String) (members : List Member) : Prop :=
  Value.parse? text = some (.array (members.map Member.value))

theorem parse?_arrayText {texts : List String} {values : List Value}
    (each : List.Forall₂ (fun text v => Value.parse? text = some v) texts values) :
    Value.parse? (arrayText texts) = some (.array values) := by
  rw [Value.parse?_eq_some_iff, arrayText]
  simp only [String.toList_append, String.toList_intercalate]
  apply Value.denotes_array
  rw [List.forall₂_map_left_iff]
  exact each.imp fun _ _ => Value.parse?_eq_some_iff.1

theorem isArrayOf_arrayText (members : List Member) :
    IsArrayOf (arrayText (members.map Member.text)) members := by
  apply parse?_arrayText
  rw [List.forall₂_map_left_iff, List.forall₂_map_right_iff, List.forall₂_same]
  exact fun m _ => m.parse?_text

theorem isObjectOf_objectText (members : List Member) : IsObjectOf (objectText members) members := by
  rw [IsObjectOf, Value.parse?_eq_some_iff, objectText]
  simp only [String.toList_append, String.toList_intercalate]
  apply Value.denotes_object
  rw [List.map_map, keyed, List.map_map, List.forall₂_map_left_iff, List.forall₂_map_right_iff,
    List.forall₂_same]
  intro m _
  refine ⟨m.keyText.toList, m.text.toList, ?_, Token.all_eq_some_iff.1 m.spelt,
    Value.parse?_eq_some_iff.1 m.parse?_text⟩
  simp

/-- The members give a value for a key: the one that is read from the only member of that key. -/
def Gives {α : Type} (members : List Member) (name : String) (reader : Reader α) (a : α) : Prop :=
  ∃ m, members.filter (·.key = name) = [m] ∧ read? reader m.text = some a

/-- The members give a value for a key, or leave the key out and the value is the default. -/
def GivesOr {α : Type} (members : List Member) (name : String) (reader : Reader α) (default a : α) :
    Prop :=
  Gives members name reader a ∨ (∀ m ∈ members, m.key ≠ name) ∧ a = default

section Giving

variable {α : Type} {members members' : List Member} {names : List String} {name : String}
  {reader : Reader α} {default a : α}

theorem Member.filter_known (h : name ∈ names) (members : List Member) :
    (known names members).filter (·.key = name) = members.filter (·.key = name) := by
  rw [known, List.filter_filter]
  apply List.filter_congr
  intro m _
  by_cases same : m.key = name
  · simp [same, h]
  · simp [same]

theorem Gives.of_perm (given : Gives members name reader a) (h : name ∈ names)
    (perm : (Member.known names members).Perm (Member.known names members')) :
    Gives members' name reader a := by
  obtain ⟨m, only, read⟩ := given
  have same := perm.filter (·.key = name)
  rw [Member.filter_known h, Member.filter_known h, only] at same
  exact ⟨m, (List.singleton_perm.1 same).symm, read⟩

theorem GivesOr.of_perm (given : GivesOr members name reader default a) (h : name ∈ names)
    (perm : (Member.known names members).Perm (Member.known names members')) :
    GivesOr members' name reader default a := by
  rcases given with given | ⟨absent, value⟩
  · exact .inl (given.of_perm h perm)
  · refine .inr ⟨fun m hm same => ?_, value⟩
    have kept : m ∈ Member.known names members' := List.mem_filter.2 ⟨hm, by simpa [same] using h⟩
    exact absent m (List.mem_of_mem_filter (perm.mem_iff.2 kept)) same

end Giving

namespace Reader

section Found

variable {α : Type} {members : List Member} {name : String} {reader : Reader α} {default a : α}

theorem filter_entry (members : List Member) (name : String) :
    (members.map Member.entry).filter (·.1 = name) =
      (members.filter (·.key = name)).map Member.entry := List.filter_map

/-- A text is read by itself like its value inside the outermost container. -/
theorem Shallow.read?_eq {n : Nat} (shallow : Shallow n reader) (hn : n ≤ 126) {text : String}
    {v : Value} (parsed : Value.parse? text = some v) : read? reader text = reader 126 v := by
  rw [read?, parsed, Option.bind_some]
  exact shallow.eq (Nat.le_succ_of_le hn) hn v

/-- An array is read by reading the texts that it is composed of. -/
theorem Shallow.read?_arrayText {n : Nat} (shallow : Shallow n reader) (hn : n ≤ 126)
    {texts : List String} (wellFormed : ∀ text ∈ texts, (Value.parse? text).isSome = true) :
    read? (Reader.list reader) (arrayText texts) = texts.mapM (read? reader) := by
  have each : List.Forall₂ (fun text v => Value.parse? text = some v) texts
      (texts.map fun text => (Value.parse? text).getD .null) := by
    rw [List.forall₂_map_right_iff, List.forall₂_same]
    intro text ht
    obtain ⟨v, parsed⟩ := Option.isSome_iff_exists.1 (wellFormed text ht)
    rw [parsed, Option.getD_some]
  generalize texts.map (fun text => (Value.parse? text).getD .null) = values at each
  rw [read?, parse?_arrayText each, Option.bind_some, maxDepth, Reader.list]
  clear wellFormed
  induction each with
  | nil => rfl
  | cons parsed _ ih => rw [List.mapM_cons, List.mapM_cons, shallow.read?_eq hn parsed, ih]

/-- A field has the value of the only member of its name, or none where that is allowed. -/
theorem exists_unique?_iff {absence : Absence} {P : Option Value → Prop} :
    (∃ o, unique? (members.map Member.entry) name absence = some o ∧ P o) ↔
      (∃ m, members.filter (·.key = name) = [m] ∧ P (some m.value)) ∨
        (∀ m ∈ members, m.key ≠ name) ∧ absence ≠ .forbidden ∧ P none := by
  have absent : (∀ m ∈ members, m.key ≠ name) ↔ members.filter (·.key = name) = [] := by
    rw [List.filter_eq_nil_iff]
    simp
  rw [absent]
  unfold unique?
  rw [filter_entry]
  generalize members.filter (·.key = name) = found
  match found with
  | [] => by_cases allowed : absence = .forbidden <;> simp [allowed]
  | [m] => simp [Member.entry]
  | _ :: _ :: _ => simp

theorem Shallow.required_iff {n : Nat} (shallow : Shallow n reader) (hn : n ≤ 126) :
    (∃ o, unique? (members.map Member.entry) name .forbidden = some o ∧
      Reader.required reader 126 o = some a) ↔ Gives members name reader a := by
  have same (m : Member) := shallow.read?_eq hn m.parse?_text
  rw [exists_unique?_iff]
  simp [Gives, same, Reader.required]

theorem Shallow.orElse_iff {n : Nat} (shallow : Shallow n reader) (hn : n ≤ 126) (absence : Absence)
    (allowed : absence ≠ .forbidden) :
    (∃ o, unique? (members.map Member.entry) name absence = some o ∧
      Reader.orElse reader default 126 o = some a) ↔ GivesOr members name reader default a := by
  have same (m : Member) := shallow.read?_eq hn m.parse?_text
  rw [exists_unique?_iff]
  simp [GivesOr, Gives, same, Reader.orElse, allowed, eq_comm (a := a)]

end Found

section Records

variable {α : Type} {text text' : String} {members : List Member} {fields : List (String × Absence)}
  {inner : Nat → List (Option Value) → Option α}

theorem positional?_of_length {values : List Value} (length : fields.length = values.length) :
    positional? fields values = some (values.map some) := by
  induction fields generalizing values with
  | nil =>
    rw [List.eq_nil_of_length_eq_zero length.symm]
    rfl
  | cons f fields ih =>
    cases values with
    | nil => cases length
    | cons v values =>
      rw [positional?, ih (Nat.succ.inj length)]
      rfl

theorem written_map_some (fields : List (String × Absence)) (values : List Value) :
    written fields (values.map some) = (fields.map Prod.fst).zip values := by
  rw [written, List.zip_map_right, List.filterMap_map, List.zip_map_left, ← List.filterMap_eq_map]
  rfl

/-- The values in the order of the fields are the object that names them. -/
theorem record?_array (nodup : (fields.map Prod.fst).Nodup) {values : List Value}
    (length : fields.length = values.length) :
    record? fields (.array values) =
      record? fields (.object (keyed ((fields.map Prod.fst).zip values))) := by
  have given : ∀ f ∈ fields.zip (values.map some), f.1.2 = .forbidden → f.2.isSome = true := by
    intro f hf _
    obtain ⟨v, _, same⟩ := List.mem_map.1 (List.of_mem_zip hf).2
    rw [← same]
    rfl
  rw [← written_map_some, record?_written fields _ (by simpa using length) nodup given]
  exact positional?_of_length length

theorem record?_of_keys (nodup : (fields.map Prod.fst).Nodup)
    (keys : members.map Member.key = fields.map Prod.fst) :
    record? fields (.array (members.map Member.value)) =
      record? fields (.object (keyed (members.map Member.entry))) := by
  have length : fields.length = (members.map Member.value).length := by
    have same := congrArg List.length keys
    simpa using same.symm
  rw [record?_array nodup length, ← keys, List.zip_map']
  rfl

/-- An array may only leave out fields at its end whose absence has a meaning. -/
theorem defaulted_of_positional? {items : List Value} {values : List (Option Value)}
    (h : positional? fields items = some values) {i : Nat} (left : items.length ≤ i)
    {f : String × Absence} (hf : fields[i]? = some f) : f.2 = .defaulted := by
  induction fields generalizing items values i with
  | nil => cases hf
  | cons d fields ih =>
    cases items with
    | nil =>
      rw [positional?] at h
      split at h
      next defaulted =>
        obtain ⟨rest, tail, _⟩ := Option.map_eq_some_iff.1 h
        cases i with
        | zero =>
          cases hf
          exact defaulted
        | succ i => exact ih tail (Nat.zero_le i) hf
      next => cases h
    | cons v items =>
      rw [positional?] at h
      obtain ⟨rest, tail, _⟩ := Option.map_eq_some_iff.1 h
      cases i with
      | zero => cases left
      | succ i => exact ih tail (Nat.le_of_succ_le_succ left) hf

theorem countP_of_entries? {entries : List (Option String × Value)} {known : List (String × Value)}
    (h : entries? entries = some known) (name : String) :
    known.countP (·.1 = name) = entries.countP (·.1 = some name) := by
  have each := forall₂_of_mapM h
  clear h
  induction each with
  | nil => rfl
  | cons first _ ih =>
    obtain ⟨key, given, rfl⟩ := Option.map_eq_some_iff.1 first
    simp [List.countP_cons, given, ih]

theorem countP_of_unique? {known : List (String × Value)} {name : String} {absence : Absence}
    {o : Option Value} (h : unique? known name absence = some o) :
    known.countP (·.1 = name) ≤ 1 ∧ (absence = .forbidden → known.countP (·.1 = name) = 1) := by
  rw [List.countP_eq_length_filter]
  unfold unique? at h
  split at h
  next missing =>
    rw [missing]
    split at h
    next => cases h
    next allowed => exact ⟨Nat.zero_le 1, fun forbidden => absurd forbidden allowed⟩
  next single =>
    rw [single]
    exact ⟨Nat.le_refl 1, fun _ => rfl⟩
  next => cases h

/-- Whatever is read as a record names no field twice, and each field that must be there once. -/
theorem countP_of_record? {entries : List (Option String × Value)} {values : List (Option Value)}
    (h : record? fields (.object entries) = some values) {f : String × Absence} (hf : f ∈ fields) :
    entries.countP (·.1 = some f.1) ≤ 1 ∧
      (f.2 = .forbidden → entries.countP (·.1 = some f.1) = 1) := by
  obtain ⟨known, readable, all⟩ := Option.bind_eq_some_iff.1 h
  have each := forall₂_of_mapM all
  obtain ⟨i, hi, rfl⟩ := List.getElem_of_mem hf
  have unique := each.get hi (each.length_eq ▸ hi)
  rw [← countP_of_entries? readable]
  exact countP_of_unique? unique

/-- Of an optional record only null is read otherwise than by the record's own reader. -/
theorem read?_optional {reader : Reader α} {v : Value} (h : Value.parse? text = some v)
    (visible : v ≠ .null) : read? (optional reader) text = (read? reader text).map some := by
  rw [read?, read?, h, Option.bind_some, Option.bind_some, optional]
  exact visible

theorem read?_fields {v : Value} (h : Value.parse? text = some v) :
    read? (Reader.fields fields inner) text = (record? fields v).bind (inner 126) := by
  rw [read?, h]
  rfl

/-- An object is read as a record from what its members give for each field. -/
theorem read?_fields_eq_some_iff (h : IsObjectOf text members) {a : α} :
    read? (Reader.fields fields inner) text = some a ↔
      ∃ values, List.Forall₂ (fun f o => unique? (members.map Member.entry) f.1 f.2 = some o)
        fields values ∧ inner 126 values = some a := by
  rw [read?_fields h, record?, entries?_keyed, Option.bind_some, Option.bind_eq_some_iff]
  constructor
  · rintro ⟨values, found, made⟩
    exact ⟨values, forall₂_of_mapM found, made⟩
  · rintro ⟨values, found, made⟩
    exact ⟨values, mapM_of_forall₂ found, made⟩

/-- A record is read alike from equivalent texts, and never if a field is missing or given twice. -/
structure AcceptsAlike (names required : List String) (reader : Reader α)
    (WrittenAs : α → List Member → Prop) : Prop where
  object {text : String} {members : List Member} : IsObjectOf text members →
    ∀ a, read? reader text = some a ↔ WrittenAs a members
  rearranged {text text' : String} {members members' : List Member} :
    IsObjectOf text members → IsObjectOf text' members' →
      (Member.known names members).Perm (Member.known names members') →
        read? reader text = read? reader text'
  array {text text' : String} {members : List Member} :
    IsArrayOf text members → IsObjectOf text' members → members.map Member.key = names →
      read? reader text = read? reader text'
  twice {text : String} {entries : List (Option String × Value)} :
    Value.parse? text = some (.object entries) →
      ∀ name ∈ names, 2 ≤ entries.countP (·.1 = some name) → read? reader text = none
  missing {text : String} {entries : List (Option String × Value)} :
    Value.parse? text = some (.object entries) →
      ∀ name ∈ required, (∀ e ∈ entries, e.1 ≠ some name) → read? reader text = none
  short {text : String} {items : List Value} :
    Value.parse? text = some (.array items) →
      items.length < required.length → read? reader text = none

theorem acceptsAlike_fields {names required : List String} {WrittenAs : α → List Member → Prop}
    (named : fields.map Prod.fst = names) (nodup : names.Nodup)
    (leading : fields.take required.length = required.map (·, .forbidden))
    (object : ∀ {text members}, IsObjectOf text members →
      ∀ a, read? (Reader.fields fields inner) text = some a ↔ WrittenAs a members)
    (perm : ∀ {members members' a}, (Member.known names members).Perm (Member.known names members') →
      WrittenAs a members → WrittenAs a members') :
    AcceptsAlike names required (Reader.fields fields inner) WrittenAs where
  object := object
  rearranged h h' same := by
    apply Option.ext
    intro a
    rw [object h, object h']
    exact ⟨perm same, perm same.symm⟩
  array h h' keys := by
    rw [read?_fields h, read?_fields h', record?_of_keys (named ▸ nodup) (keys.trans named.symm)]
  twice := by
    intro text entries h name hn twice
    obtain ⟨f, hf, rfl⟩ := List.mem_map.1 (named ▸ hn)
    rw [read?_fields h]
    cases read : record? fields (.object entries) with
    | none => rfl
    | some values =>
      have once := (countP_of_record? read hf).1
      omega
  missing := by
    intro text entries h name hn missing
    have hf : (name, Absence.forbidden) ∈ fields := by
      apply List.mem_of_mem_take
      rw [leading]
      exact List.mem_map_of_mem hn
    rw [read?_fields h]
    cases read : record? fields (.object entries) with
    | none => rfl
    | some values =>
      have once : entries.countP (·.1 = some name) = 1 := (countP_of_record? read hf).2 rfl
      have absent : entries.countP (·.1 = some name) = 0 := by
        rw [List.countP_eq_zero]
        simpa using missing
      rw [absent] at once
      cases once
  short := by
    intro text items h few
    rw [read?_fields h]
    cases read : record? fields (.array items) with
    | none => rfl
    | some values =>
      have place : fields[items.length]? = some (required[items.length], .forbidden) := by
        rw [← List.getElem?_take_of_lt few, leading]
        simp [few]
      have defaulted := defaulted_of_positional? read (Nat.le_refl _) place
      cases defaulted

end Records

end Reader

end CapturedTraffic.Json
