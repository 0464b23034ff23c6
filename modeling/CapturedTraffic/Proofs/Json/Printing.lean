import CapturedTraffic.Proofs.Json.Composing
import CapturedTraffic.Proofs.Json.Lexing

/-!
# Parsing what is printed

A value whose texts are all known is parsed back from its printed text, which is composed of the
printed texts of its parts.
-/
namespace CapturedTraffic.Json

open Text Printer

namespace Printer

/-- What follows the first part, written with a comma in front of each further part and a bracket. -/
theorem append_tail {α : Type} {part : α → List Char} (tail : List α → List Char) {c : Char}
    (last : tail [] = [c]) (next : ∀ a rest, tail (a :: rest) = ',' :: part a ++ tail rest) (a : α)
    (rest : List α) : part a ++ tail rest = [','].intercalate ((a :: rest).map part) ++ [c] := by
  induction rest generalizing a with
  | nil => rw [last, List.map_singleton, List.intercalate_singleton]
  | cons b rest ih =>
    rw [next, List.cons_append, ih]
    simp only [List.map_cons, List.intercalate_cons_cons, List.append_assoc, List.cons_append,
      List.nil_append]

theorem write_array (items : List Value) :
    write (.array items) = '[' :: ([','].intercalate (items.map write) ++ [']']) := by
  cases items with
  | nil => rfl
  | cons v rest =>
    rw [← append_tail writeItems rfl fun _ _ => rfl]
    rfl

def writeEntry (e : Option String × Value) : List Char :=
  writeText (e.1.getD "").toList ++ ':' :: write e.2

theorem write_object (entries : List (Option String × Value)) :
    write (.object entries) =
      '\x7b' :: ([','].intercalate (entries.map writeEntry) ++ ['\x7d']) := by
  cases entries with
  | nil => rfl
  | cons e rest =>
    rw [← append_tail writeEntries rfl fun d others => by simp [writeEntries, writeEntry]]
    simp [write, writeEntry]

end Printer

namespace Value

/-- A value in which every text and every key is known, and every number a natural one. -/
inductive Plain : Value → Prop
  | null : Plain .null
  | boolean (b : Bool) : Plain (.boolean b)
  | natural (n : Nat) : Plain (.natural n)
  | text (s : String) : Plain (.text (some s))
  | array {items : List Value} (each : ∀ v ∈ items, Plain v) : Plain (.array items)
  | object {entries : List (Option String × Value)} (known : ∀ e ∈ entries, e.1.isSome = true)
      (each : ∀ e ∈ entries, Plain e.2) : Plain (.object entries)

theorem denotesEntry_writeEntry {e : Option String × Value} (known : e.1.isSome = true)
    (h : Denotes (write e.2) e.2) : DenotesEntry (writeEntry e) e := by
  obtain ⟨key, v⟩ := e
  obtain ⟨name, rfl⟩ := Option.isSome_iff_exists.1 known
  exact ⟨_, _, rfl, Token.lexes_writeText name, h⟩

theorem denotes_write {v : Value} (h : v.Plain) : Denotes (write v) v := by
  induction h with
  | null => exact denotes_scalar (Token.lexes_singleton rfl rfl) rfl
  | boolean b => cases b <;> exact denotes_scalar (Token.lexes_singleton rfl rfl) rfl
  | natural n => exact denotes_scalar (Token.lexes_digits n) rfl
  | text s => exact denotes_scalar (Token.lexes_writeText s) rfl
  | array _ ih =>
    rw [write_array]
    exact denotes_array (List.forall₂_map_left_iff.2 (List.forall₂_same.2 ih))
  | object known _ ih =>
    rw [write_object]
    exact denotes_object (List.forall₂_map_left_iff.2 (List.forall₂_same.2 fun e he =>
      denotesEntry_writeEntry (known e he) (ih e he)))

theorem parse?_render {v : Value} (h : v.Plain) : parse? v.render = some v := by
  rw [parse?_eq_some_iff, render, String.toList_ofList]
  exact denotes_write h

end Value

end CapturedTraffic.Json
