import CapturedTraffic.Text.Decimal
import CapturedTraffic.Text.Hex

/-!
# JSON tokens

The lexical layer of JSON. Numbers are told apart only as far as readers need: those written with
digits alone carry their value, all others are kept as one kind. A string that names half of a
surrogate pair is a token without a text; it can be passed over but not read.
-/
namespace CapturedTraffic.Json

open Text

inductive Token
  | openObject
  | closeObject
  | openArray
  | closeArray
  | comma
  | colon
  | null
  | boolean (b : Bool)
  | natural (n : Nat)
  | otherNumber
  | text (s : Option String)
  deriving DecidableEq, Repr

namespace Token

def isBlank (c : Char) : Bool := c = ' ' || c = '\t' || c = '\n' || c = '\r'

/-- The character that a one-letter escape stands for. -/
def escape? (c : Char) : Option Char :=
  if c = '"' ∨ c = '\\' ∨ c = '/' then some c
  else if c = 'b' then some '\x08'
  else if c = 'f' then some '\x0c'
  else if c = 'n' then some '\n'
  else if c = 'r' then some '\r'
  else if c = 't' then some '\t'
  else none

def isLeading (unit : Nat) : Bool := 0xD800 ≤ unit && unit < 0xDC00

def isTrailing (unit : Nat) : Bool := 0xDC00 ≤ unit && unit < 0xE000

/-- The trailing half written next, with the rest of the input. -/
def trailing? : List Char → Option (Nat × List Char)
  | '\\' :: 'u' :: a :: b :: c :: d :: rest =>
    match Hex.number? 0 [a, b, c, d] with
    | some unit => if isTrailing unit then some (unit, rest) else none
    | none => none
  | _ => none

theorem trailing?_length {s rest : List Char} {unit : Nat} (h : trailing? s = some (unit, rest)) :
    rest.length < s.length := by
  unfold trailing? at h
  split at h
  · split at h
    · split at h
      · cases h; simp; omega
      · cases h
    · cases h
  · cases h

/--
Reads a string up to its closing quote. The characters so far are in `done`, last first; it is
`none` once half of a surrogate pair has been met.
-/
def string (done : Option (List Char)) (s : List Char) :
    Option (Option (List Char) × List Char) :=
  match s with
  | [] => none
  | '"' :: rest => some (done.map List.reverse, rest)
  | '\\' :: 'u' :: a :: b :: c :: d :: rest =>
    match Hex.number? 0 [a, b, c, d] with
    | none => none
    | some unit =>
      if isLeading unit then
        match h : trailing? rest with
        | some (second, rest') =>
          let code := 0x10000 + 0x400 * (unit - 0xD800) + (second - 0xDC00)
          string (done.map (Char.ofNat code :: ·)) rest'
        | none => string none rest
      else if isTrailing unit then string none rest
      else string (done.map (Char.ofNat unit :: ·)) rest
  | '\\' :: e :: rest =>
    match escape? e with
    | some c => string (done.map (c :: ·)) rest
    | none => none
  | c :: rest => if c < ' ' then none else string (done.map (c :: ·)) rest
termination_by s.length
decreasing_by
  all_goals simp only [List.length_cons]
  · have := trailing?_length h; omega
  all_goals omega

theorem string_length {done : Option (List Char)} {s rest : List Char}
    {text : Option (List Char)} (h : string done s = some (text, rest)) :
    rest.length < s.length := by
  fun_induction string done s with
  | case1 => cases h
  | case2 => cases h; simp
  | case3 => cases h
  | case4 done a b c d tail unit _ _ second rest' found code ih =>
    have := ih h; have := trailing?_length found; simp only [List.length_cons]; omega
  | case5 done a b c d tail unit _ _ _ ih => have := ih h; simp only [List.length_cons]; omega
  | case6 done a b c d tail unit _ _ _ ih => have := ih h; simp only [List.length_cons]; omega
  | case7 done a b c d tail unit _ _ _ ih => have := ih h; simp only [List.length_cons]; omega
  | case8 done e tail _ c _ ih => have := ih h; simp only [List.length_cons]; omega
  | case9 => cases h
  | case10 => cases h
  | case11 done c tail _ _ _ _ ih => have := ih h; simp only [List.length_cons]; omega

/-- Digits of which there must be at least one, and what follows them. -/
def digits? (s : List Char) : Option (List Char) :=
  match s with
  | [] => none
  | c :: rest => if Decimal.isDigit c then some (rest.dropWhile Decimal.isDigit) else none

/-- What follows the fraction and the exponent, and whether there were any. -/
def fraction? : List Char → Option (Bool × List Char)
  | '.' :: rest => (digits? rest).map (true, ·)
  | s => some (false, s)

def exponent? : List Char → Option (Bool × List Char)
  | [] => some (false, [])
  | e :: rest =>
    if e = 'e' ∨ e = 'E' then
      match rest with
      | '+' :: rest' => (digits? rest').map (true, ·)
      | '-' :: rest' => (digits? rest').map (true, ·)
      | _ => (digits? rest).map (true, ·)
    else some (false, e :: rest)

/-- The integer part of a number: a zero alone, or digits that do not start with one. -/
def integer? : List Char → Option (Nat × List Char)
  | '0' :: rest => some (0, rest)
  | s =>
    match s.takeWhile Decimal.isDigit with
    | [] => none
    | written => some (Decimal.value 0 written, s.dropWhile Decimal.isDigit)

def number? (s : List Char) : Option (Token × List Char) :=
  let (negative, body) := match s with
    | '-' :: rest => (true, rest)
    | _ => (false, s)
  (integer? body).bind fun (n, rest) =>
    (fraction? rest).bind fun (fractional, rest) =>
      (exponent? rest).map fun (scaled, rest) =>
        (if negative || fractional || scaled then otherNumber else natural n, rest)

/-- The token at the front of the input, which does not start with a blank. -/
def read? : List Char → Option (Token × List Char)
  | '\x7b' :: rest => some (openObject, rest)
  | '\x7d' :: rest => some (closeObject, rest)
  | '[' :: rest => some (openArray, rest)
  | ']' :: rest => some (closeArray, rest)
  | ',' :: rest => some (comma, rest)
  | ':' :: rest => some (colon, rest)
  | 'n' :: 'u' :: 'l' :: 'l' :: rest => some (null, rest)
  | 't' :: 'r' :: 'u' :: 'e' :: rest => some (boolean true, rest)
  | 'f' :: 'a' :: 'l' :: 's' :: 'e' :: rest => some (boolean false, rest)
  | '"' :: rest => (string (some []) rest).map fun (t, rest) => (text (t.map String.ofList), rest)
  | s => number? s

theorem digits?_length {s rest : List Char} (h : digits? s = some rest) :
    rest.length < s.length := by
  unfold digits? at h
  split at h
  · cases h
  · split at h
    · cases h
      have := (List.dropWhile_sublist (l := ‹List Char›) Decimal.isDigit).length_le
      simp only [List.length_cons]; omega
    · cases h

theorem fraction?_length {s rest : List Char} {b : Bool} (h : fraction? s = some (b, rest)) :
    rest.length ≤ s.length := by
  unfold fraction? at h
  split at h
  · obtain ⟨r, hr, he⟩ := Option.map_eq_some_iff.1 h
    cases he; have := digits?_length hr; simp only [List.length_cons]; omega
  · cases h; omega

theorem exponent?_length {s rest : List Char} {b : Bool} (h : exponent? s = some (b, rest)) :
    rest.length ≤ s.length := by
  unfold exponent? at h
  split at h
  · cases h; simp
  · split at h
    · split at h <;>
      · obtain ⟨r, hr, he⟩ := Option.map_eq_some_iff.1 h
        cases he; have := digits?_length hr; simp only [List.length_cons] at *; omega
    · cases h; simp

theorem integer?_length {s rest : List Char} {n : Nat} (h : integer? s = some (n, rest)) :
    rest.length < s.length := by
  unfold integer? at h
  split at h
  · cases h; simp
  · split at h
    · cases h
    · next written =>
      cases h
      have := congrArg List.length (List.takeWhile_append_dropWhile (p := Decimal.isDigit) (l := s))
      have : (s.takeWhile Decimal.isDigit).length ≠ 0 := by
        intro h0; exact written (List.eq_nil_of_length_eq_zero h0)
      simp only [List.length_append] at *; omega

theorem number?_length {s rest : List Char} {t : Token} (h : number? s = some (t, rest)) :
    rest.length < s.length := by
  unfold number? at h
  simp only [Option.bind_eq_some_iff, Option.map_eq_some_iff, Prod.exists] at h
  obtain ⟨n, r₁, h₁, b₂, r₂, h₂, b₃, r₃, h₃, he⟩ := h
  cases he
  have := integer?_length h₁; have := fraction?_length h₂; have := exponent?_length h₃
  split at * <;> simp_all <;> omega

theorem read?_length {s rest : List Char} {t : Token} (h : read? s = some (t, rest)) :
    rest.length < s.length := by
  unfold read? at h
  split at h
  case h_10 =>
    obtain ⟨⟨u, r⟩, hr, he⟩ := Option.map_eq_some_iff.1 h
    cases he; have := string_length hr; simp only [List.length_cons]; omega
  case h_11 => exact number?_length h
  all_goals (cases h; simp; try omega)

/-- All tokens of the input, given those before it with the last one first. -/
def all (before : List Token) (s : List Char) : Option (List Token) :=
  match s with
  | [] => some before.reverse
  | c :: rest =>
    if isBlank c then all before rest
    else
      match _found : read? (c :: rest) with
      | none => none
      | some (t, rest') => all (t :: before) rest'
termination_by s.length
decreasing_by
  · simp
  · exact read?_length _found

end Token

end CapturedTraffic.Json
