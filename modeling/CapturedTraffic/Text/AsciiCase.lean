/-!
# ASCII letter case
-/
namespace CapturedTraffic.Text

def asciiLower (c : Char) : Char :=
  if 'A' ≤ c ∧ c ≤ 'Z' then Char.ofNat (c.toNat + 32) else c

/-- The text with the letters A to Z in lower case and all else as it is. -/
def asciiFold (s : String) : List Char := s.toList.map asciiLower

/-- Whether two texts differ at most in the case of the letters A to Z. -/
def sameIgnoringCase (a b : String) : Bool := asciiFold a == asciiFold b

theorem sameIgnoringCase_iff {a b : String} :
    sameIgnoringCase a b = true ↔ asciiFold a = asciiFold b := beq_iff_eq

theorem sameIgnoringCase_self (a : String) : sameIgnoringCase a a = true := by
  simp [sameIgnoringCase_iff]

theorem sameIgnoringCase_comm (a b : String) : sameIgnoringCase a b = sameIgnoringCase b a := by
  rw [Bool.eq_iff_iff, sameIgnoringCase_iff, sameIgnoringCase_iff, eq_comm]

theorem sameIgnoringCase_congr {a b : String} (h : sameIgnoringCase a b = true) (c : String) :
    sameIgnoringCase a c = sameIgnoringCase b c := by
  rw [sameIgnoringCase_iff] at h
  simp [sameIgnoringCase, h]

end CapturedTraffic.Text
