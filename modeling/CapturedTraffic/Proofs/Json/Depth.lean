import CapturedTraffic.Json.Reader

/-!
# Readers that enter few containers

A reader is shallow if it enters no more than some number of containers, whatever it is given. So
the depth that is left does not matter to it: a value is read alike by itself and inside a record.
-/
namespace CapturedTraffic.Json.Reader

variable {α β : Type} {n : Nat}

/-- Any more than `n` containers make no difference. -/
def Shallow (n : Nat) (reader : Reader α) : Prop :=
  ∀ depth, n ≤ depth → ∀ v, reader depth v = reader n v

theorem Shallow.eq {reader : Reader α} (h : Shallow n reader) {a b : Nat} (ha : n ≤ a) (hb : n ≤ b)
    (v : Value) : reader a v = reader b v := (h a ha v).trans (h b hb v).symm

theorem shallow_text : Shallow 0 text := by
  intro depth _ v
  cases v <;> rfl

theorem shallow_natural (bound : Nat) : Shallow 0 (natural bound) := by
  intro depth _ v
  cases v <;> rfl

theorem Shallow.mono {reader : Reader α} (h : Shallow n reader) {m : Nat} (more : n ≤ m) :
    Shallow m reader := fun _ hd v => h.eq (Nat.le_trans more hd) more v

theorem Shallow.map {reader : Reader α} (h : Shallow n reader) (f : α → β) :
    Shallow n fun depth v => (reader depth v).map f := by
  intro depth hd v
  simp only [h depth hd]

theorem Shallow.bind {reader : Reader α} (h : Shallow n reader) (f : α → Option β) :
    Shallow n fun depth v => (reader depth v).bind f := by
  intro depth hd v
  simp only [h depth hd]

theorem Shallow.optional {reader : Reader α} (h : Shallow n reader) :
    Shallow n (optional reader) := by
  intro depth hd v
  cases v
  case null => rfl
  all_goals simp only [Reader.optional, h depth hd]

theorem Shallow.list {reader : Reader α} (h : Shallow n reader) :
    Shallow (n + 1) (list reader) := by
  intro depth hd v
  cases depth with
  | zero => cases hd
  | succ depth =>
    have each : reader depth = reader n := funext (h depth (Nat.le_of_succ_le_succ hd))
    cases v
    case array => simp only [Reader.list, each]
    all_goals rfl

theorem Shallow.table {reader : Reader α} (h : Shallow n reader) :
    Shallow (n + 1) (table reader) := by
  intro depth hd v
  cases depth with
  | zero => cases hd
  | succ depth =>
    have each : reader depth = reader n := funext (h depth (Nat.le_of_succ_le_succ hd))
    cases v
    case object => simp only [Reader.table, each]
    all_goals rfl

theorem Shallow.orElse {reader : Reader α} (h : Shallow n reader) (default : α) {depth : Nat}
    (hd : n ≤ depth) (o : Option Value) :
    orElse reader default depth o = orElse reader default n o := by
  cases o with
  | none => rfl
  | some v => exact h depth hd v

theorem Shallow.required {reader : Reader α} (h : Shallow n reader) {depth : Nat} (hd : n ≤ depth)
    (o : Option Value) : required reader depth o = required reader n o := by
  cases o with
  | none => rfl
  | some v => exact h depth hd v

theorem shallow_fields {names : List (String × Absence)}
    {inner : Nat → List (Option Value) → Option α} (h : ∀ depth, n ≤ depth → inner depth = inner n) :
    Shallow (n + 1) (fields names inner) := by
  intro depth hd v
  cases depth with
  | zero => cases hd
  | succ depth => rw [fields, fields, h depth (Nat.le_of_succ_le_succ hd)]

end CapturedTraffic.Json.Reader
