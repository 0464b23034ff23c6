import CapturedTraffic.Proofs.Text.Utf8

/-!
# Characters among bytes

The first byte of a character is told from its other bytes by itself. So where the bytes of one text
stand among those of another, they begin and end with characters.
-/
namespace CapturedTraffic.Text.Utf8

theorem utf8EncodeChar_eq_cons (c : Char) :
    ∃ b rest, String.utf8EncodeChar c = b :: rest ∧ ∀ x ∈ rest, ¬ x.IsUTF8FirstByte := by
  obtain ⟨b, rest, written⟩ := List.exists_cons_of_ne_nil (String.utf8EncodeChar_ne_nil (c := c))
  refine ⟨b, rest, written, fun x hx first => ?_⟩
  obtain ⟨i, hi, rfl⟩ := List.getElem_of_mem hx
  have inside : i + 1 < (String.utf8EncodeChar c).length := by simp [written, hi]
  have later : (String.utf8EncodeChar c)[i + 1].IsUTF8FirstByte := by simpa [written] using first
  exact Nat.succ_ne_zero i (UInt8.isUTF8FirstByte_getElem_utf8EncodeChar.1 later)

/-- Bytes at which a character may begin, or the text end. -/
def AtBoundary (bytes : List UInt8) : Prop := ∀ b ∈ bytes.head?, b.IsUTF8FirstByte

theorem atBoundary_utf8EncodeChar_append (c : Char) (rest : List UInt8) :
    AtBoundary (String.utf8EncodeChar c ++ rest) := by
  intro b hb
  have first := UInt8.isUTF8FirstByte_getElem_zero_utf8EncodeChar (c := c)
  obtain ⟨d, tail, written⟩ := List.exists_cons_of_ne_nil (String.utf8EncodeChar_ne_nil (c := c))
  simp only [written, List.cons_append, List.head?_cons, Option.mem_some,
    List.getElem_cons_zero] at hb first
  exact hb ▸ first

/-- A character is not cut by what may begin one. -/
theorem eq_nil_or_of_utf8EncodeChar_eq_append {c : Char} {p s rest : List UInt8}
    (h : String.utf8EncodeChar c = p ++ s) (boundary : AtBoundary (s ++ rest)) :
    p = [] ∨ s = [] := by
  obtain ⟨b, tail, written, later⟩ := utf8EncodeChar_eq_cons c
  rw [written] at h
  cases p with
  | nil => exact .inl rfl
  | cons x p =>
    cases s with
    | nil => exact .inr rfl
    | cons y s =>
      have mem : y ∈ tail := by simp [(List.cons.inj h).2]
      exact absurd (boundary y rfl) (later y mem)

theorem exists_of_flatMap_eq_append {chars : List Char} {p s : List UInt8}
    (h : chars.flatMap String.utf8EncodeChar = p ++ s) (boundary : AtBoundary s) :
    ∃ before after, chars = before ++ after ∧ p = before.flatMap String.utf8EncodeChar ∧
      s = after.flatMap String.utf8EncodeChar := by
  induction chars generalizing p with
  | nil =>
    obtain ⟨rfl, rfl⟩ := List.append_eq_nil_iff.1 h.symm
    exact ⟨[], [], rfl, rfl, rfl⟩
  | cons c rest ih =>
    rw [List.flatMap_cons] at h
    rcases List.append_eq_append_iff.1 h with ⟨more, rfl, tail⟩ | ⟨cut, whole, rfl⟩
    · obtain ⟨before, after, rfl, rfl, rfl⟩ := ih tail
      exact ⟨c :: before, after, rfl, rfl, rfl⟩
    · rcases eq_nil_or_of_utf8EncodeChar_eq_append whole boundary with rfl | rfl
      · exact ⟨[], c :: rest, rfl, rfl, by rw [List.flatMap_cons, whole]; rfl⟩
      · refine ⟨[c], rest, rfl, ?_, rfl⟩
        rw [List.flatMap_singleton, whole, List.append_nil]

theorem eq_of_utf8EncodeChar_append {c d : Char} {r s : List UInt8}
    (h : String.utf8EncodeChar c ++ r = String.utf8EncodeChar d ++ s) : c = d ∧ r = s := by
  have read := congrArg (scan none) h
  rw [scan_char, scan_char] at read
  obtain rfl : c = d := Option.some.inj (List.cons.inj read).1
  exact ⟨rfl, List.append_cancel_left h⟩

theorem exists_of_flatMap_eq_flatMap_append {chars sought : List Char} {q : List UInt8}
    (h : chars.flatMap String.utf8EncodeChar = sought.flatMap String.utf8EncodeChar ++ q) :
    ∃ after, chars = sought ++ after ∧ q = after.flatMap String.utf8EncodeChar := by
  induction sought generalizing chars with
  | nil => exact ⟨chars, rfl, h.symm⟩
  | cons c sought ih =>
    rw [List.flatMap_cons, List.append_assoc] at h
    cases chars with
    | nil =>
      have empty := (List.append_eq_nil_iff.1 h.symm).1
      exact absurd empty String.utf8EncodeChar_ne_nil
    | cons d chars =>
      rw [List.flatMap_cons] at h
      obtain ⟨rfl, tail⟩ := eq_of_utf8EncodeChar_append h
      obtain ⟨after, rfl, rfl⟩ := ih tail
      exact ⟨after, rfl, rfl⟩

theorem encode_append (s t : String) : encode (s ++ t) = encode s ++ encode t := by
  rw [encode, String.toList_append, List.flatMap_append, encode, encode]

/-- The bytes of a text that is not empty stand nowhere but at its characters. -/
theorem exists_of_encode_eq_append {s t : String} {p q : List UInt8} (visible : s ≠ "")
    (h : encode t = p ++ encode s ++ q) :
    ∃ before after, p = encode before ∧ q = encode after ∧ t = before ++ s ++ after := by
  obtain ⟨c, rest, chars⟩ := List.exists_cons_of_ne_nil (mt String.toList_eq_nil_iff.1 visible)
  have boundary : AtBoundary (encode s ++ q) := by
    rw [encode, chars, List.flatMap_cons, List.append_assoc]
    exact atBoundary_utf8EncodeChar_append c _
  rw [List.append_assoc] at h
  obtain ⟨before, others, cut, rfl, found⟩ := exists_of_flatMap_eq_append h boundary
  obtain ⟨after, rfl, rfl⟩ := exists_of_flatMap_eq_flatMap_append found.symm
  refine ⟨String.ofList before, String.ofList after, ?_, ?_, ?_⟩
  · rw [encode, String.toList_ofList]
  · rw [encode, String.toList_ofList]
  · apply String.toList_inj.1
    simp only [String.toList_append, String.toList_ofList, cut, List.append_assoc]

theorem encode_infix_encode_iff {s t : String} :
    encode s <:+: encode t ↔ ∃ before after, t = before ++ s ++ after := by
  constructor
  · rintro ⟨p, q, h⟩
    by_cases visible : s = ""
    · exact ⟨"", t, by simp [visible]⟩
    · obtain ⟨before, after, _, _, stands⟩ := exists_of_encode_eq_append visible h.symm
      exact ⟨before, after, stands⟩
  · rintro ⟨before, after, rfl⟩
    exact ⟨encode before, encode after, by rw [encode_append, encode_append]⟩

end CapturedTraffic.Text.Utf8
