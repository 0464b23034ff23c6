import CapturedTraffic.Text.Utf8

/-!
# Reading UTF-8 back

The bytes of a text are read as that text. A character is read byte by byte: its first byte says
how many follow and bounds the next one, and every further byte brings six bits.
-/
namespace CapturedTraffic.Text.Utf8

theorem scan_cons (state : Option Pending) (b : UInt8) (rest : List UInt8) :
    scan state (b :: rest) = (step state b.toNat).1 ++ scan (step state b.toNat).2 rest := by
  cases state <;> rfl

theorem start_one {b : Nat} (h : b < 0x80) : start b = ([some (Char.ofNat b)], none) := if_pos h

theorem start_two {x : Nat} (low : 2 ≤ x) (high : x < 0x20) :
    start (x + 0xC0) = ([], some ⟨x, 1, 0x80, 0xBF⟩) := by
  have bits : (x + 0xC0) % 0x20 = x := by omega
  rw [start, if_neg (by omega), if_neg (by omega), if_pos (by omega), bits]

theorem start_three {x : Nat} (high : x < 0x10) :
    start (x + 0xE0) =
      ([], some ⟨x, 2, if x = 0 then 0xA0 else 0x80, if x = 0xD then 0x9F else 0xBF⟩) := by
  have bits : (x + 0xE0) % 0x10 = x := by omega
  have first : x + 0xE0 = 0xE0 ↔ x = 0 := by omega
  have surrogate : x + 0xE0 = 0xED ↔ x = 0xD := by omega
  rw [start, if_neg (by omega), if_neg (by omega), if_neg (by omega), if_pos (by omega), bits]
  simp only [first, surrogate]

theorem start_four {x : Nat} (high : x < 5) :
    start (x + 0xF0) =
      ([], some ⟨x, 3, if x = 0 then 0x90 else 0x80, if x = 4 then 0x8F else 0xBF⟩) := by
  have bits : (x + 0xF0) % 0x08 = x := by omega
  have first : x + 0xF0 = 0xF0 ↔ x = 0 := by omega
  have last : x + 0xF0 = 0xF4 ↔ x = 4 := by omega
  rw [start, if_neg (by omega), if_neg (by omega), if_neg (by omega), if_neg (by omega),
    if_pos (by omega), bits]
  simp only [first, last]

theorem step_more {bits missing low high x : Nat} (hx : x < 64) (hlow : low ≤ x + 0x80)
    (hhigh : x + 0x80 ≤ high) :
    step (some ⟨bits, missing + 2, low, high⟩) (x + 0x80) =
      ([], some ⟨0x40 * bits + x, missing + 1, 0x80, 0xBF⟩) := by
  have value : (x + 0x80) % 0x40 = x := by omega
  simp only [step, if_pos (And.intro hlow hhigh), value]
  rw [if_neg (by omega)]
  rfl

theorem step_last {bits low high x : Nat} (hx : x < 64) (hlow : low ≤ x + 0x80)
    (hhigh : x + 0x80 ≤ high) :
    step (some ⟨bits, 1, low, high⟩) (x + 0x80) = ([some (Char.ofNat (0x40 * bits + x))], none) := by
  have value : (x + 0x80) % 0x40 = x := by omega
  simp only [step, if_pos (And.intro hlow hhigh), value]
  rfl

/-- A byte that is written for a number below 256 is read as that number. -/
theorem toNat_byte {n : Nat} (h : n < 256) : (UInt8.ofNat n).toNat = n := by
  rw [UInt8.toNat_ofNat', Nat.mod_eq_of_lt h]

theorem scan_one {a : Nat} (h : a < 0x80) (rest : List UInt8) :
    scan none (UInt8.ofNat a :: rest) = some (Char.ofNat a) :: scan none rest := by
  rw [scan_cons, toNat_byte (by omega), step, start_one h]
  rfl

theorem scan_two {a b : Nat} (low : 2 ≤ a) (high : a < 0x20) (hb : b < 64) (rest : List UInt8) :
    scan none (UInt8.ofNat (a + 0xC0) :: UInt8.ofNat (b + 0x80) :: rest) =
      some (Char.ofNat (0x40 * a + b)) :: scan none rest := by
  rw [scan_cons, toNat_byte (by omega), step, start_two low high]
  rw [scan_cons, toNat_byte (by omega), step_last hb (by omega) (by omega)]
  rfl

theorem scan_three {a b c : Nat} (high : a < 0x10) (hb : b < 64) (hc : c < 64)
    (shortest : a = 0 → 0x20 ≤ b) (scalar : a = 0xD → b < 0x20) (rest : List UInt8) :
    scan none (UInt8.ofNat (a + 0xE0) :: UInt8.ofNat (b + 0x80) :: UInt8.ofNat (c + 0x80) :: rest) =
      some (Char.ofNat (0x40 * (0x40 * a + b) + c)) :: scan none rest := by
  rw [scan_cons, toNat_byte (by omega), step, start_three high]
  rw [scan_cons, toNat_byte (by omega), step_more hb]
  · rw [scan_cons, toNat_byte (by omega), step_last hc (by omega) (by omega)]
    rfl
  · split <;> omega
  · split <;> omega

theorem scan_four {a b c d : Nat} (high : a < 5) (hb : b < 64) (hc : c < 64) (hd : d < 64)
    (shortest : a = 0 → 0x10 ≤ b) (scalar : a = 4 → b < 0x10) (rest : List UInt8) :
    scan none (UInt8.ofNat (a + 0xF0) :: UInt8.ofNat (b + 0x80) :: UInt8.ofNat (c + 0x80) ::
        UInt8.ofNat (d + 0x80) :: rest) =
      some (Char.ofNat (0x40 * (0x40 * (0x40 * a + b) + c) + d)) :: scan none rest := by
  rw [scan_cons, toNat_byte (by omega), step, start_four high]
  rw [scan_cons, toNat_byte (by omega), step_more hb]
  · rw [scan_cons, toNat_byte (by omega), step_more hc (by omega) (by omega)]
    rw [scan_cons, toNat_byte (by omega), step_last hd (by omega) (by omega)]
    rfl
  · split <;> omega
  · split <;> omega

/-- Surrogates and numbers past the last plane are no characters, so every lead byte is in bounds. -/
theorem scan_char (c : Char) (rest : List UInt8) :
    scan none (String.utf8EncodeChar c ++ rest) = some c :: scan none rest := by
  have valid : c.val.toNat < 0xD800 ∨ 0xDFFF < c.val.toNat ∧ c.val.toNat < 0x110000 := c.valid
  have back (n : Nat) (h : n = c.val.toNat) : Char.ofNat n = c := h ▸ Char.ofNat_toNat c
  unfold String.utf8EncodeChar
  dsimp only
  split
  · rw [List.singleton_append, scan_one (by omega), back _ rfl]
  · split
    · rw [List.cons_append, List.singleton_append, scan_two (by omega) (by omega) (by omega),
        back _ (by omega)]
    · split
      · rw [List.cons_append, List.cons_append, List.singleton_append,
          scan_three (by omega) (by omega) (by omega) (by omega) (by omega), back _ (by omega)]
      · rw [List.cons_append, List.cons_append, List.cons_append, List.singleton_append,
          scan_four (by omega) (by omega) (by omega) (by omega) (by omega) (by omega),
          back _ (by omega)]

theorem scan_encode (s : String) : scan none (encode s) = s.toList.map some := by
  rw [encode]
  induction s.toList with
  | nil => rfl
  | cons c rest ih => rw [List.flatMap_cons, scan_char, ih, List.map_cons]

theorem mapM_id_some {α : Type} (l : List α) : (l.map some).mapM id = some l := by
  have each := List.mapM_pure (m := Option) (l := l) (f := id)
  rw [List.map_id] at each
  rw [List.mapM_map]
  exact each

theorem decode?_encode (s : String) : decode? (encode s) = some s := by
  rw [decode?, scan_encode, mapM_id_some, Option.map_some, String.ofList_toList]

end CapturedTraffic.Text.Utf8
