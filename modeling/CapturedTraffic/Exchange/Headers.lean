import CapturedTraffic.Text.AsciiCase
import CapturedTraffic.Text.Table

/-!
# Headers

The header fields of a message. Every value of a name is kept in arrival order, names that differ
only in ASCII case share the spelling seen first, and entries are listed in the order of their names.
-/
namespace CapturedTraffic

open Text

structure Headers where
  entries : List (String × List String)
  sorted : entries.Pairwise fun a b => a.1 < b.1
  distinct : entries.Pairwise fun a b => sameIgnoringCase a.1 b.1 = false
  filled : ∀ e ∈ entries, e.2 ≠ []
  deriving DecidableEq, Repr

namespace Headers

def empty : Headers := ⟨[], .nil, .nil, by simp⟩

instance : Inhabited Headers := ⟨empty⟩

/-- Whether some entry has this name in some spelling. -/
def knows (entries : List (String × List String)) (name : String) : Bool :=
  entries.any fun e => sameIgnoringCase e.1 name

/-- Adds a value to the entry of the name. -/
def extend (entries : List (String × List String)) (name value : String) :
    List (String × List String) :=
  entries.map fun e => if sameIgnoringCase e.1 name then (e.1, e.2 ++ [value]) else e

/-- Puts a new entry in front of the first later name. -/
def insert (name value : String) : List (String × List String) → List (String × List String)
  | [] => [(name, [value])]
  | e :: rest => if e.1 < name then e :: insert name value rest else (name, [value]) :: e :: rest

theorem mem_insert {name value : String} {e : String × List String}
    {entries : List (String × List String)} :
    e ∈ insert name value entries ↔ e = (name, [value]) ∨ e ∈ entries := by
  induction entries with
  | nil => simp [insert]
  | cons d rest ih =>
    unfold insert; split
    · simp only [List.mem_cons, ih]; grind
    · simp

theorem not_knows_iff {entries : List (String × List String)} {name : String} :
    knows entries name = false ↔ ∀ e ∈ entries, sameIgnoringCase e.1 name = false := by
  simp [knows]

theorem map_fst_extend (entries : List (String × List String)) (name value : String) :
    (extend entries name value).map Prod.fst = entries.map Prod.fst := by
  simp only [extend, List.map_map]
  apply List.map_congr_left
  intro e _
  simp only [Function.comp]
  split <;> rfl

theorem pairwise_extend {R : String → String → Prop} {entries : List (String × List String)}
    (h : entries.Pairwise fun a b => R a.1 b.1) (name value : String) :
    (extend entries name value).Pairwise fun a b => R a.1 b.1 := by
  rw [← List.pairwise_map (f := Prod.fst)] at h ⊢
  rwa [map_fst_extend]

theorem sorted_insert {entries : List (String × List String)} {name : String} (value : String)
    (h : entries.Pairwise fun a b => a.1 < b.1) (new : knows entries name = false) :
    (insert name value entries).Pairwise fun a b => a.1 < b.1 := by
  induction entries with
  | nil => simp [insert]
  | cons e rest ih =>
    rw [not_knows_iff] at new
    have tail : knows rest name = false :=
      not_knows_iff.2 fun d hd => new d (List.mem_cons_of_mem _ hd)
    have h' := List.pairwise_cons.1 h
    unfold insert
    split
    next before =>
      refine List.pairwise_cons.2 ⟨fun d hd => ?_, ih h'.2 tail⟩
      rcases mem_insert.1 hd with rfl | hd
      · exact before
      · exact h'.1 d hd
    next before =>
      have differ : e.1 ≠ name := by
        intro same
        have := new e (List.mem_cons_self ..)
        rw [same, sameIgnoringCase_self] at this
        cases this
      have after : name < e.1 := by
        rcases Std.lt_trichotomy e.1 name with h | h | h
        · exact absurd h before
        · exact absurd h differ
        · exact h
      refine List.pairwise_cons.2 ⟨fun d hd => ?_, h⟩
      rcases List.mem_cons.1 hd with rfl | hd
      · exact after
      · exact String.lt_trans after (h'.1 d hd)

theorem distinct_insert {entries : List (String × List String)} {name : String} (value : String)
    (h : entries.Pairwise fun a b => sameIgnoringCase a.1 b.1 = false)
    (new : knows entries name = false) :
    (insert name value entries).Pairwise fun a b => sameIgnoringCase a.1 b.1 = false := by
  induction entries with
  | nil => simp [insert]
  | cons e rest ih =>
    rw [not_knows_iff] at new
    have tail : knows rest name = false :=
      not_knows_iff.2 fun d hd => new d (List.mem_cons_of_mem _ hd)
    have h' := List.pairwise_cons.1 h
    unfold insert
    split
    · refine List.pairwise_cons.2 ⟨fun d hd => ?_, ih h'.2 tail⟩
      rcases mem_insert.1 hd with rfl | hd
      · exact new e (List.mem_cons_self ..)
      · exact h'.1 d hd
    · refine List.pairwise_cons.2 ⟨fun d hd => ?_, h⟩
      rw [sameIgnoringCase_comm]
      exact new d hd

def append (h : Headers) (name value : String) : Headers :=
  if known : knows h.entries name then
    { entries := extend h.entries name value
      sorted := pairwise_extend h.sorted name value
      distinct :=
        pairwise_extend (R := fun a b => sameIgnoringCase a b = false) h.distinct name value
      filled := by
        intro e he
        obtain ⟨d, hd, rfl⟩ := List.mem_map.1 he
        split
        · simp
        · exact h.filled d hd }
  else
    { entries := insert name value h.entries
      sorted := sorted_insert value h.sorted (by simpa using known)
      distinct := distinct_insert value h.distinct (by simpa using known)
      filled := by
        intro e he
        rcases mem_insert.1 he with rfl | he
        · simp
        · exact h.filled e he }

/-- Every value under the name, in any spelling of it. -/
def getAll (h : Headers) (name : String) : List String :=
  ((h.entries.find? fun e => sameIgnoringCase e.1 name).map (·.2)).getD []

def size (h : Headers) : Nat := h.entries.length

def isEmpty (h : Headers) : Bool := h.entries.isEmpty

/-- The headers of a list of fields in arrival order. -/
def ofFields (fields : List (String × String)) : Headers :=
  fields.foldl (fun h (name, value) => h.append name value) empty

/-- The headers of a table of value lists, taken in the order listed. -/
def ofTable (table : Table (List String)) : Headers :=
  ofFields (table.entries.flatMap fun (name, values) => values.map (name, ·))

def toTable (h : Headers) : Table (List String) := ⟨h.entries, h.sorted⟩

end Headers

end CapturedTraffic
