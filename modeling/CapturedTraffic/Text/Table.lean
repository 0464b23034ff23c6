/-!
# Tables

Values under text keys, listed in the order of the keys, each key once. Putting a value under a key
that is there replaces the value.
-/
namespace CapturedTraffic.Text

structure Table (α : Type) where
  entries : List (String × α)
  sorted : entries.Pairwise fun a b => a.1 < b.1
  deriving DecidableEq, Repr

namespace Table

variable {α : Type}

def empty : Table α := ⟨[], .nil⟩

instance : Inhabited (Table α) := ⟨empty⟩

def putIn (key : String) (v : α) : List (String × α) → List (String × α)
  | [] => [(key, v)]
  | e :: rest =>
    if key < e.1 then (key, v) :: e :: rest
    else if key = e.1 then (key, v) :: rest
    else e :: putIn key v rest

theorem mem_putIn {key : String} {v : α} {e : String × α} {entries : List (String × α)}
    (h : e ∈ putIn key v entries) : e = (key, v) ∨ e ∈ entries := by
  induction entries with
  | nil => simpa [putIn] using h
  | cons d rest ih => grind [putIn]

theorem sorted_putIn {entries : List (String × α)} (key : String) (v : α)
    (h : entries.Pairwise fun a b => a.1 < b.1) :
    (putIn key v entries).Pairwise fun a b => a.1 < b.1 := by
  induction entries with
  | nil => simp [putIn]
  | cons e rest ih =>
    have h' := List.pairwise_cons.1 h
    unfold putIn
    split
    next before =>
      refine List.pairwise_cons.2 ⟨fun d hd => ?_, h⟩
      rcases List.mem_cons.1 hd with rfl | hd
      · exact before
      · exact String.lt_trans before (h'.1 d hd)
    next before =>
      split
      next same => exact List.pairwise_cons.2 ⟨fun d hd => same ▸ h'.1 d hd, h'.2⟩
      next differ =>
        have after : e.1 < key := by
          rcases Std.lt_trichotomy key e.1 with h | h | h
          · exact absurd h before
          · exact absurd h differ
          · exact h
        refine List.pairwise_cons.2 ⟨fun d hd => ?_, ih h'.2⟩
        rcases mem_putIn hd with rfl | hd
        · exact after
        · exact h'.1 d hd

def put (t : Table α) (key : String) (v : α) : Table α :=
  ⟨putIn key v t.entries, sorted_putIn key v t.sorted⟩

/-- The table of a list of entries, where a repeated key keeps its last value. -/
def ofEntries (entries : List (String × α)) : Table α :=
  entries.foldl (fun t (key, v) => t.put key v) empty

end Table

end CapturedTraffic.Text
