import CapturedTraffic.Json.Token

/-!
# Lexing is local

What is lexed at the front of a text does not depend on what follows it, except that digits go on a
number. So where a text is lexed by itself, it has the same tokens in front of a comma, a colon or a
closing bracket, and behind whatever was lexed before it.
-/
namespace CapturedTraffic.Json.Token

open Text

variable {s rest more : List Char} {t : Token}

/-- What can follow a number without being taken for a part of it. -/
def Ends (rest : List Char) : Prop :=
  ∀ c ∈ rest.head?, Decimal.isDigit c = false ∧ c ≠ '.' ∧ c ≠ 'e' ∧ c ≠ 'E'

theorem ends_nil : Ends [] := by
  intro c hc
  cases hc

theorem ends_cons {c : Char} (h : c ∈ [',', ':', ']', '\x7d']) (rest : List Char) :
    Ends (c :: rest) := by
  rintro d ⟨rfl⟩
  simp only [List.mem_cons, List.not_mem_nil, or_false] at h
  rcases h with rfl | rfl | rfl | rfl <;> decide

section Numbers

theorem fraction?_of_ends (h : Ends more) : fraction? more = some (false, more) := by
  cases more with
  | nil => rfl
  | cons c more =>
    have point := (h c rfl).2.1
    rw [fraction?]
    rintro tail ⟨rfl, rfl⟩
    exact point rfl

theorem exponent?_of_ends (h : Ends more) : exponent? more = some (false, more) := by
  cases more with
  | nil => rfl
  | cons c more =>
    obtain ⟨_, _, small, big⟩ := h c rfl
    exact if_neg (not_or.2 ⟨small, big⟩)

theorem takeWhile_append (h : Ends more) (s : List Char) :
    (s ++ more).takeWhile Decimal.isDigit = s.takeWhile Decimal.isDigit := by
  induction s with
  | nil =>
    cases more with
    | nil => rfl
    | cons c more => exact List.takeWhile_cons_of_neg (by simp [(h c rfl).1])
  | cons c s ih => rw [List.cons_append, List.takeWhile_cons, List.takeWhile_cons, ih]

theorem dropWhile_append (h : Ends more) (s : List Char) :
    (s ++ more).dropWhile Decimal.isDigit = s.dropWhile Decimal.isDigit ++ more := by
  induction s with
  | nil =>
    cases more with
    | nil => rfl
    | cons c more => exact List.dropWhile_cons_of_neg (by simp [(h c rfl).1])
  | cons c s ih =>
    rw [List.cons_append, List.dropWhile_cons, List.dropWhile_cons, ih]
    split <;> rfl

theorem digits?_append (found : digits? s = some rest) (h : Ends more) :
    digits? (s ++ more) = some (rest ++ more) := by
  unfold digits? at found
  split at found
  next => cases found
  next c tail =>
    split at found
    next digit =>
      cases found
      rw [List.cons_append, digits?, if_pos digit, dropWhile_append h]
    next => cases found

theorem integer?_append {n : Nat} (found : integer? s = some (n, rest)) (h : Ends more) :
    integer? (s ++ more) = some (n, rest ++ more) := by
  unfold integer? at found
  split at found
  next tail =>
    cases found
    rfl
  next other =>
    have filled : s ≠ [] := by
      rintro rfl
      cases found
    obtain ⟨c, s, rfl⟩ := List.exists_cons_of_ne_nil filled
    rw [List.cons_append, integer?]
    · rw [← List.cons_append, takeWhile_append h, dropWhile_append h]
      split at found
      next => cases found
      next written =>
        cases found
        rfl
    · rintro tail ⟨rfl, _⟩
      exact other s rfl

theorem fraction?_append {b : Bool} (found : fraction? s = some (b, rest)) (h : Ends more) :
    fraction? (s ++ more) = some (b, rest ++ more) := by
  unfold fraction? at found
  split at found
  next tail =>
    obtain ⟨after, digits, same⟩ := Option.map_eq_some_iff.1 found
    cases same
    rw [List.cons_append, fraction?, digits?_append digits h, Option.map_some]
  next other =>
    cases found
    cases s with
    | nil => exact fraction?_of_ends h
    | cons c s =>
      rw [List.cons_append, fraction?]
      rintro tail ⟨rfl, _⟩
      exact other s rfl

theorem unsigned_append (filled : s ≠ []) (more : List Char) :
    Decimal.unsigned (s ++ more) = Decimal.unsigned s ++ more := by
  obtain ⟨c, s, rfl⟩ := List.exists_cons_of_ne_nil filled
  by_cases plus : c = '+'
  · subst plus
    rfl
  by_cases minus : c = '-'
  · subst minus
    rfl
  have kept (tail) : Decimal.unsigned (c :: tail) = c :: tail := by
    rw [Decimal.unsigned]
    · exact fun _ same => plus (List.cons.inj same).1
    · exact fun _ same => minus (List.cons.inj same).1
  rw [List.cons_append, kept, kept, List.cons_append]

theorem exponent?_of_letter {e : Char} (letter : e = 'e' ∨ e = 'E') (s : List Char) :
    exponent? (e :: s) = (digits? (Decimal.unsigned s)).map (true, ·) := by
  unfold exponent?
  dsimp only
  rw [if_pos letter]
  split
  next => rfl
  next => rfl
  next plus minus =>
    rw [Decimal.unsigned]
    · exact plus
    · exact minus

theorem exponent?_append {b : Bool} (found : exponent? s = some (b, rest)) (h : Ends more) :
    exponent? (s ++ more) = some (b, rest ++ more) := by
  cases s with
  | nil =>
    cases found
    exact exponent?_of_ends h
  | cons e s =>
    by_cases letter : e = 'e' ∨ e = 'E'
    · rw [exponent?_of_letter letter] at found
      obtain ⟨after, digits, same⟩ := Option.map_eq_some_iff.1 found
      cases same
      have filled : s ≠ [] := by
        rintro rfl
        cases digits
      rw [List.cons_append, exponent?_of_letter letter, unsigned_append filled,
        digits?_append digits h, Option.map_some]
    · have skipped (tail) : exponent? (e :: tail) = some (false, e :: tail) := if_neg letter
      rw [skipped] at found
      cases found
      exact skipped _

/-- An unsigned number: its integer part, whether a fraction or an exponent follows, and the rest. -/
def magnitude? (s : List Char) : Option (Nat × Bool × List Char) :=
  (integer? s).bind fun (n, rest) =>
    (fraction? rest).bind fun (fractional, rest) =>
      (exponent? rest).map fun (scaled, rest) => (n, fractional || scaled, rest)

theorem magnitude?_append {n : Nat} {b : Bool} (found : magnitude? s = some (n, b, rest))
    (h : Ends more) : magnitude? (s ++ more) = some (n, b, rest ++ more) := by
  unfold magnitude? at found ⊢
  simp only [Option.bind_eq_some_iff, Option.map_eq_some_iff, Prod.exists, Prod.mk.injEq] at found ⊢
  obtain ⟨_, _, integer, fractional, _, fraction, scaled, _, exponent, rfl, rfl, rfl⟩ := found
  exact ⟨_, _, integer?_append integer h, fractional, _, fraction?_append fraction h, scaled, _,
    exponent?_append exponent h, rfl, rfl, rfl⟩

theorem number?_minus (s : List Char) :
    number? ('-' :: s) = (magnitude? s).map fun m => (otherNumber, m.2.2) := by
  simp [number?, magnitude?, Option.map_bind, Function.comp_def]

theorem number?_of_ne {c : Char} (h : c ≠ '-') (s : List Char) :
    number? (c :: s) =
      (magnitude? (c :: s)).map fun m => (if m.2.1 then otherNumber else natural m.1, m.2.2) := by
  unfold number?
  split
  next sign body same =>
    split at same
    next minus => exact absurd (List.cons.inj minus).1 h
    next =>
      cases same
      simp [magnitude?, Option.map_bind, Function.comp_def]

theorem number?_append (found : number? s = some (t, rest)) (h : Ends more) :
    number? (s ++ more) = some (t, rest ++ more) := by
  cases s with
  | nil => cases found
  | cons c s =>
    by_cases minus : c = '-'
    · subst minus
      rw [number?_minus] at found
      obtain ⟨⟨n, b, tail⟩, magnitude, same⟩ := Option.map_eq_some_iff.1 found
      cases same
      rw [List.cons_append, number?_minus, magnitude?_append magnitude h, Option.map_some]
    · rw [number?_of_ne minus] at found
      obtain ⟨⟨n, b, tail⟩, magnitude, same⟩ := Option.map_eq_some_iff.1 found
      cases same
      rw [List.cons_append, number?_of_ne minus, ← List.cons_append, magnitude?_append magnitude h,
        Option.map_some]

end Numbers

section Strings

theorem string_escape {e c : Char} (he : escape? e = some c) (done : Option (List Char))
    (rest : List Char) : string done ('\\' :: e :: rest) = string (done.map (c :: ·)) rest := by
  have letter : e ≠ 'u' := by
    rintro rfl
    cases he
  rw [string]
  · rw [he]
  · intro a b c d tail same _
    exact letter same

theorem string_plain {c : Char} (quote : c ≠ '"') (backslash : c ≠ '\\') (visible : ¬ c < ' ')
    (done : Option (List Char)) (rest : List Char) :
    string done (c :: rest) = string (done.map (c :: ·)) rest := by
  rw [string]
  · rw [if_neg visible]
  · exact quote
  · intro a b c d tail same _
    exact backslash same
  · intro e tail same _
    exact backslash same

theorem trailing?_append {unit : Nat} (h : trailing? s = some (unit, rest)) (more : List Char) :
    trailing? (s ++ more) = some (unit, rest ++ more) := by
  unfold trailing? at h
  split at h
  next a b c d tail =>
    split at h
    next found =>
      split at h
      next trails =>
        cases h
        simp only [List.cons_append, trailing?, found, if_pos trails]
      next => cases h
    next => cases h
  next => cases h

theorem trailing?_eq_none {c : Char} (h : c ≠ '\\') (rest : List Char) :
    trailing? (c :: rest) = none := by
  unfold trailing?
  split
  next same => exact absurd (List.cons.inj same).1 h
  next => rfl

theorem trailing?_letter_eq_none {e : Char} (h : e ≠ 'u') (rest : List Char) :
    trailing? ('\\' :: e :: rest) = none := by
  unfold trailing?
  split
  next same => exact absurd (List.cons.inj (List.cons.inj same).2).1 h
  next => rfl

theorem trailing?_code_eq_none {a b c d : Char}
    (h : trailing? ('\\' :: 'u' :: a :: b :: c :: d :: rest) = none) (more : List Char) :
    trailing? ('\\' :: 'u' :: a :: b :: c :: d :: more) = none := by
  cases found : Hex.number? 0 [a, b, c, d] with
  | none => simp only [trailing?, found]
  | some unit =>
    simp only [trailing?, found] at h ⊢
    split at h
    next => cases h
    next alone => rw [if_neg alone]

/-- Half of a surrogate pair stays alone when text is added behind the end of its string. -/
theorem trailing?_append_eq_none {done text : Option (List Char)}
    (alone : trailing? s = none) (h : string done s = some (text, rest)) (more : List Char) :
    trailing? (s ++ more) = none := by
  unfold string at h
  split at h
  next => cases h
  next => rfl
  next => exact trailing?_code_eq_none alone _
  next e tail _ =>
    apply trailing?_letter_eq_none
    rintro rfl
    cases h
  next c tail _ _ letter =>
    apply trailing?_eq_none
    rintro rfl
    cases tail with
    | nil => simp [string] at h
    | cons e tail => exact letter e tail rfl rfl

theorem string_append {done text : Option (List Char)} (h : string done s = some (text, rest))
    (more : List Char) : string done (s ++ more) = some (text, rest ++ more) := by
  -- Only a leading half looks beyond its own escape, so cases 4 and 5 ask what it sees there.
  fun_induction string done s with
  | case1 => cases h
  | case2 done tail =>
    cases h
    simp only [List.cons_append, string]
  | case3 => cases h
  | case4 done a b c d tail unit found leading second rest' pair code ih =>
    have pair' := trailing?_append pair more
    simp only [List.cons_append]
    rw [string, found]
    simp only [if_pos leading]
    split
    next second' rest'' again =>
      rw [pair'] at again
      cases again
      exact ih h
    next missing => rw [pair'] at missing; cases missing
  | case5 done a b c d tail unit found leading alone ih =>
    have alone' := trailing?_append_eq_none alone h more
    simp only [List.cons_append]
    rw [string, found]
    simp only [if_pos leading]
    split
    next again => rw [alone'] at again; cases again
    next => exact ih h
  | case6 done a b c d tail unit found leading trails ih =>
    simp only [List.cons_append]
    rw [string, found]
    simp only [if_neg leading, if_pos trails]
    exact ih h
  | case7 done a b c d tail unit found leading trails ih =>
    simp only [List.cons_append]
    rw [string, found]
    simp only [if_neg leading, if_neg trails]
    exact ih h
  | case8 done e tail other c found ih =>
    rw [List.cons_append, List.cons_append, string_escape found]
    exact ih h
  | case9 => cases h
  | case10 => cases h
  | case11 done c tail quote code letter visible ih =>
    have backslash : c ≠ '\\' := by
      rintro rfl
      cases tail with
      | nil => simp [string] at h
      | cons e tail => exact letter e tail rfl rfl
    rw [List.cons_append, string_plain quote backslash visible]
    exact ih h

end Strings

/-- A sign or a digit begins a number and nothing else. -/
theorem read?_of_numeric {c : Char} (h : c = '-' ∨ Decimal.isDigit c = true) (rest : List Char) :
    read? (c :: rest) = number? (c :: rest) := by
  rw [read?]
  all_goals
    rintro tail ⟨rfl, rfl⟩
    revert h
    decide

theorem numeric_of_number? {c : Char} (h : number? (c :: s) = some (t, rest)) :
    c = '-' ∨ Decimal.isDigit c = true := by
  by_cases minus : c = '-'
  · exact .inl minus
  rw [number?_of_ne minus] at h
  obtain ⟨m, magnitude, _⟩ := Option.map_eq_some_iff.1 h
  obtain ⟨n, integer, _⟩ := Option.bind_eq_some_iff.1 magnitude
  unfold integer? at integer
  right
  split at integer
  next same =>
    rw [(List.cons.inj same).1]
    rfl
  next =>
    cases digit : Decimal.isDigit c with
    | true => rfl
    | false =>
      rw [List.takeWhile_cons_of_neg (by simp [digit])] at integer
      cases integer

theorem read?_append (h : read? s = some (t, rest)) (ends : Ends more) :
    read? (s ++ more) = some (t, rest ++ more) := by
  unfold read? at h
  split at h
  case h_10 =>
    obtain ⟨⟨text, after⟩, found, same⟩ := Option.map_eq_some_iff.1 h
    cases same
    rw [List.cons_append, read?, string_append found, Option.map_some]
  case h_11 =>
    cases s with
    | nil => cases h
    | cons c s =>
      rw [List.cons_append, read?_of_numeric (numeric_of_number? h), ← List.cons_append]
      exact number?_append h ends
  all_goals
    cases h
    rfl

theorem all_cons {c : Char} (blank : isBlank c = false) (h : read? (c :: s) = some (t, rest))
    (before : List Token) : all before (c :: s) = all (t :: before) rest := by
  rw [all, if_neg (by simp [blank])]
  split
  next missing => rw [h] at missing; cases missing
  next found => rw [h] at found; cases found; rfl

theorem all_blank {c : Char} (blank : isBlank c = true) (before : List Token) (s : List Char) :
    all before (c :: s) = all before s := by
  rw [all, if_pos blank]

/-- The text has these tokens behind anything, and before anything that does not go on a number. -/
def Lexes (s : List Char) (tokens : List Token) : Prop :=
  ∀ before rest, Ends rest → all before (s ++ rest) = all (tokens.reverse ++ before) rest

theorem lexes_nil : Lexes [] [] := fun _ _ _ => rfl

theorem lexes_of_all {before tokens : List Token} (h : all before s = some tokens) :
    ∃ new, tokens = before.reverse ++ new ∧ Lexes s new := by
  fun_induction all before s with
  | case1 before =>
    cases h
    exact ⟨[], (List.append_nil _).symm, lexes_nil⟩
  | case2 before c tail blank ih =>
    obtain ⟨new, rfl, lexed⟩ := ih h
    refine ⟨new, rfl, fun earlier more ends => ?_⟩
    rw [List.cons_append, all_blank blank]
    exact lexed earlier more ends
  | case3 => cases h
  | case4 before c tail visible t rest found ih =>
    obtain ⟨new, rfl, lexed⟩ := ih h
    refine ⟨t :: new, by simp, fun earlier more ends => ?_⟩
    have first := read?_append found ends
    rw [List.cons_append] at first ⊢
    rw [all_cons (by simpa using visible) first, lexed _ more ends]
    simp

theorem Lexes.all_eq {tokens : List Token} (h : Lexes s tokens) : all [] s = some tokens := by
  have lexed := h [] [] ends_nil
  rw [List.append_nil, List.append_nil] at lexed
  rw [lexed, all, List.reverse_reverse]

theorem all_eq_some_iff {tokens : List Token} : all [] s = some tokens ↔ Lexes s tokens := by
  constructor
  · intro h
    obtain ⟨new, rfl, lexed⟩ := lexes_of_all h
    exact lexed
  · exact Lexes.all_eq

end CapturedTraffic.Json.Token
