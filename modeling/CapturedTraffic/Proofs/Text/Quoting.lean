import CapturedTraffic.Proofs.Text.Numerals
import CapturedTraffic.Text.Quoted

/-!
# Reading quoted text back

Every character of a quoted text is read back from what is written for it, whatever follows. A quote
that stands by itself is written for no character, so a quoted text ends at the first one.
-/
namespace CapturedTraffic.Text.Quoted

variable {c : Char} {a b r s : List Char}

/-- The character that a letter after a backslash stands for. -/
def unescape? (c : Char) : Option Char :=
  if c = '"' ∨ c = '\\' then some c
  else if c = '0' then some '\x00'
  else if c = 't' then some '\t'
  else if c = 'n' then some '\n'
  else if c = 'r' then some '\r'
  else none

/-- Reads what is written for one character; a quote by itself is the end. -/
def readChar? : List Char → Option (Char × List Char)
  | [] => none
  | '"' :: _ => none
  | '\\' :: 'u' :: '\x7b' :: rest =>
    (Hex.number? 0 (rest.takeWhile (· ≠ '\x7d'))).map fun code =>
      (Char.ofNat code, (rest.dropWhile (· ≠ '\x7d')).tail)
  | '\\' :: e :: rest => (unescape? e).map (·, rest)
  | c :: rest => some (c, rest)

theorem readChar?_code (c : Char) (rest : List Char) :
    readChar? ('\\' :: 'u' :: '\x7b' :: (Hex.digits c.toNat ++ '\x7d' :: rest)) =
      some (c, rest) := by
  have within : ∀ x ∈ Hex.digits c.toNat, (decide (x ≠ '\x7d')) = true := by
    intro x hx
    have lower : "0123456789abcdef".toList.all (· ≠ '\x7d') = true := by decide
    exact List.all_eq_true.1 lower x (Hex.mem_lowerDigits_of_mem_digits hx)
  have taken : (Hex.digits c.toNat ++ '\x7d' :: rest).takeWhile (· ≠ '\x7d') =
      Hex.digits c.toNat := by
    rw [List.takeWhile_append_of_pos within, List.takeWhile_cons_of_neg (by decide),
      List.append_nil]
  have left : (Hex.digits c.toNat ++ '\x7d' :: rest).dropWhile (· ≠ '\x7d') = '\x7d' :: rest := by
    rw [List.dropWhile_append_of_pos within, List.dropWhile_cons_of_neg (by decide)]
  rw [readChar?, taken, left, Hex.number?_digits, Option.map_some, Char.ofNat_toNat, List.tail_cons]

theorem readChar?_plain (quote : c ≠ '"') (backslash : c ≠ '\\') (rest : List Char) :
    readChar? (c :: rest) = some (c, rest) := by
  rw [readChar?]
  · exact quote
  · intro tail same _
    exact backslash same
  · intro e tail same _
    exact backslash same

theorem readChar?_writeChar (c : Char) (rest : List Char) :
    readChar? (writeChar c ++ rest) = some (c, rest) := by
  unfold writeChar
  iterate 6
    split
    next h =>
      subst h
      rfl
  next quote backslash _ _ _ _ =>
    split
    · simp only [List.cons_append, List.nil_append, List.append_assoc]
      exact readChar?_code c rest
    · exact readChar?_plain quote backslash rest

/-- What follows a quoted text is never taken for a part of it. -/
theorem flatMap_writeChar_inj
    (h : a.flatMap writeChar ++ '"' :: r = b.flatMap writeChar ++ '"' :: s) : a = b ∧ r = s := by
  induction a generalizing b with
  | nil =>
    cases b with
    | nil => exact ⟨rfl, (List.cons.inj h).2⟩
    | cons d b =>
      have read := congrArg readChar? h
      rw [List.flatMap_cons, List.append_assoc, readChar?_writeChar] at read
      cases read
  | cons c a ih =>
    have read := congrArg readChar? h
    rw [List.flatMap_cons, List.append_assoc, readChar?_writeChar] at read
    cases b with
    | nil => cases read
    | cons d b =>
      rw [List.flatMap_cons, List.append_assoc, readChar?_writeChar] at read
      obtain ⟨rfl, tail⟩ := Prod.mk.inj (Option.some.inj read)
      obtain ⟨rfl, rest⟩ := ih tail
      exact ⟨rfl, rest⟩

theorem write_append_inj (h : write a ++ r = write b ++ s) : a = b ∧ r = s := by
  simp only [write, List.cons_append, List.append_assoc, List.nil_append] at h
  exact flatMap_writeChar_inj (List.cons.inj h).2

end CapturedTraffic.Text.Quoted
