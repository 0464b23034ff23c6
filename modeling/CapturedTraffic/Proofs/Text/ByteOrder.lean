import CapturedTraffic.Proofs.Order
import CapturedTraffic.Proofs.Text.Utf8

/-!
# The order of bytes

Texts are ordered by their code points, and their bytes come in the same order: a smaller code
point never has more bytes than a greater one, and where they have as many, the first byte that
differs is the smaller one.
-/
namespace CapturedTraffic.Text.Utf8

variable {a b : Nat} {r s : List UInt8}

theorem byte_lt_byte (h : a < b) (hb : b < 256) : UInt8.ofNat a < UInt8.ofNat b := by
  rw [UInt8.lt_iff_toNat_lt, toNat_byte (by omega), toNat_byte hb]
  exact h

/-- A first byte that is smaller decides, whatever follows. -/
theorem byte_cons_lt (h : a < b) (hb : b < 256) : UInt8.ofNat a :: r < UInt8.ofNat b :: s :=
  List.cons_lt_cons_iff.2 (.inl (byte_lt_byte h hb))

/-- A first byte that is no greater leaves the decision to what follows if it is the same. -/
theorem byte_cons_lt_of_le (h : a ≤ b) (hb : b < 256) (rest : a = b → r < s) :
    UInt8.ofNat a :: r < UInt8.ofNat b :: s := by
  rcases Nat.lt_or_eq_of_le h with less | rfl
  · exact byte_cons_lt less hb
  · exact List.cons_lt_cons_iff.2 (.inr ⟨rfl, rest rfl⟩)

theorem utf8EncodeChar_append_lt {c d : Char} (h : c < d) (r s : List UInt8) :
    String.utf8EncodeChar c ++ r < String.utf8EncodeChar d ++ s := by
  have less : c.val.toNat < d.val.toNat := h
  have valid : d.val.toNat < 0xD800 ∨ 0xDFFF < d.val.toNat ∧ d.val.toNat < 0x110000 := d.valid
  unfold String.utf8EncodeChar
  dsimp only
  split
  next one =>
    split
    · exact byte_cons_lt less (by omega)
    · split
      · exact byte_cons_lt (by omega) (by omega)
      · split
        · exact byte_cons_lt (by omega) (by omega)
        · exact byte_cons_lt (by omega) (by omega)
  next more =>
    rw [if_neg (by omega : ¬ d.val.toNat ≤ 127)]
    split
    next two =>
      split
      · exact byte_cons_lt_of_le (by omega) (by omega) fun _ => byte_cons_lt (by omega) (by omega)
      · split
        · exact byte_cons_lt (by omega) (by omega)
        · exact byte_cons_lt (by omega) (by omega)
    next more =>
      rw [if_neg (by omega : ¬ d.val.toNat ≤ 2047)]
      split
      next three =>
        split
        · exact byte_cons_lt_of_le (by omega) (by omega) fun _ =>
            byte_cons_lt_of_le (by omega) (by omega) fun _ => byte_cons_lt (by omega) (by omega)
        · exact byte_cons_lt (by omega) (by omega)
      next four =>
        rw [if_neg (by omega : ¬ d.val.toNat ≤ 65535)]
        exact byte_cons_lt_of_le (by omega) (by omega) fun _ =>
          byte_cons_lt_of_le (by omega) (by omega) fun _ =>
            byte_cons_lt_of_le (by omega) (by omega) fun _ => byte_cons_lt (by omega) (by omega)

theorem flatMap_utf8EncodeChar_lt {l m : List Char} (h : l < m) :
    l.flatMap String.utf8EncodeChar < m.flatMap String.utf8EncodeChar := by
  induction l generalizing m with
  | nil =>
    cases m with
    | nil => exact absurd h (List.not_lt_nil [])
    | cons d m =>
      have some_byte : String.utf8EncodeChar d ≠ [] := String.utf8EncodeChar_ne_nil
      obtain ⟨first, rest, written⟩ := List.exists_cons_of_ne_nil some_byte
      rw [List.flatMap_nil, List.flatMap_cons, written, List.cons_append]
      exact List.nil_lt_cons first _
  | cons c l ih =>
    cases m with
    | nil => exact absurd h (List.not_lt_nil _)
    | cons d m =>
      rw [List.flatMap_cons, List.flatMap_cons]
      rcases List.cons_lt_cons_iff.1 h with less | ⟨rfl, less⟩
      · exact utf8EncodeChar_append_lt less _ _
      · exact List.append_left_lt (ih less)

theorem encode_lt_of_lt {s t : String} (h : s < t) : encode s < encode t :=
  flatMap_utf8EncodeChar_lt (String.lt_iff.1 h)

theorem sameOrder_encode (s t : String) : SameOrder s t (encode s) (encode t) :=
  .of_increasing (Std.lt_trichotomy s t) encode_lt_of_lt (congrArg encode) encode_lt_of_lt

theorem encode_lt_encode_iff {s t : String} : encode s < encode t ↔ s < t :=
  (sameOrder_encode s t).lt

end CapturedTraffic.Text.Utf8
