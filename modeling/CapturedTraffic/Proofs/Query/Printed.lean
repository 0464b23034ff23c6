import CapturedTraffic.Proofs.Text.Quoting
import CapturedTraffic.Query.Expression

/-!
# Expressions and their texts

The text of an expression tells which expression it is, if no pattern in it contains a slash. Each
kind of node begins with characters of its own and ends by itself, so that operands are told apart
from what follows them.
-/
namespace CapturedTraffic.Query

open Text

/-- What does not contain a character ends where that character follows. -/
theorem append_cons_inj {c : Char} {a b r s : List Char} (ha : c ∉ a) (hb : c ∉ b)
    (h : a ++ c :: r = b ++ c :: s) : a = b ∧ r = s := by
  rcases List.append_eq_append_iff.1 h with ⟨more, rfl, rest⟩ | ⟨more, rfl, rest⟩
  · cases more with
    | nil => exact ⟨(List.append_nil a).symm, (List.cons.inj rest).2⟩
    | cons d more =>
      obtain rfl : c = d := (List.cons.inj rest).1
      exact absurd (by simp) hb
  · cases more with
    | nil => exact ⟨List.append_nil b, (List.cons.inj rest).2.symm⟩
    | cons d more =>
      obtain rfl : c = d := (List.cons.inj rest).1
      exact absurd (by simp) ha

theorem SearchPattern.eq_of_source {p q : SearchPattern} (h : p.source = q.source) : p = q := by
  obtain ⟨source, pattern, compiled⟩ := p
  obtain ⟨_, other, recompiled⟩ := q
  cases h
  obtain rfl : pattern = other := Except.ok.inj (compiled.symm.trans recompiled)
  rfl

namespace Operator

theorem sign_inj {op other : Operator} (h : op.sign.toList = other.sign.toList) : op = other := by
  have signs : ∀ a ∈ all, ∀ b ∈ all, a.sign.toList = b.sign.toList → a = b := by decide
  exact signs op (mem_all op) other (mem_all other) h

/-- The blank after a sign tells a sign from those that it begins. -/
theorem sign_append_inj {op other : Operator} {r s : List Char}
    (h : op.sign.toList ++ ' ' :: r = other.sign.toList ++ ' ' :: s) : op = other ∧ r = s := by
  have unbroken : ∀ a ∈ all, ' ' ∉ a.sign.toList := by decide
  obtain ⟨signs, rest⟩ :=
    append_cons_inj (unbroken op (mem_all op)) (unbroken other (mem_all other)) h
  exact ⟨sign_inj signs, rest⟩

end Operator

/-- The kind of a node whose text begins with this character. -/
def Kind.ofFirst (c : Char) : Kind :=
  if c = '(' then infixOp else if c = '"' then literal else if c = '/' then regex else prefixOp

namespace Expression

theorem chars_eq_cons (x : Expression) :
    ∃ c rest, x.chars = c :: rest ∧ Kind.ofFirst c = x.kind := by
  cases x with
  | prefixOp op right => cases op <;> exact ⟨_, _, rfl, rfl⟩
  | infixOp op left right => exact ⟨_, _, rfl, rfl⟩
  | literal text => exact ⟨_, _, rfl, rfl⟩
  | regex pattern => exact ⟨_, _, rfl, rfl⟩

theorem kind_eq_of_chars_append {x y : Expression} {r s : List Char}
    (h : x.chars ++ r = y.chars ++ s) : x.kind = y.kind := by
  obtain ⟨c, _, first, kind⟩ := x.chars_eq_cons
  obtain ⟨d, _, second, other⟩ := y.chars_eq_cons
  rw [first, second] at h
  obtain rfl : c = d := (List.cons.inj h).1
  exact kind.symm.trans other

/-- The patterns of an expression, from left to right. -/
def patterns : Expression → List SearchPattern
  | prefixOp _ right => right.patterns
  | infixOp _ left right => left.patterns ++ right.patterns
  | literal _ => []
  | regex pattern => [pattern]

/-- No pattern contains the character that ends a pattern. -/
def Slashless (x : Expression) : Prop := ∀ p ∈ x.patterns, '/' ∉ p.source.toList

theorem slashless_prefixOp {op : Operator} {right : Expression} :
    (prefixOp op right).Slashless ↔ right.Slashless := Iff.rfl

theorem slashless_infixOp {op : Operator} {left right : Expression} :
    (infixOp op left right).Slashless ↔ left.Slashless ∧ right.Slashless := List.forall_mem_append

theorem slashless_regex {p : SearchPattern} : (regex p).Slashless ↔ '/' ∉ p.source.toList :=
  List.forall_mem_singleton

/-- Texts that begin with those of two expressions have these, and what follows them, in common. -/
theorem chars_append_inj {x y : Expression} (hx : x.Slashless) (hy : y.Slashless) {r s : List Char}
    (h : x.chars ++ r = y.chars ++ s) : x = y ∧ r = s := by
  -- What follows varies: for a left operand it is the sign, the right operand and the parenthesis.
  induction x generalizing y r s with
  | prefixOp op right ih =>
    cases y with
    | infixOp | literal | regex => cases kind_eq_of_chars_append h
    | prefixOp other right' =>
      simp only [chars, List.append_assoc, List.cons_append] at h
      obtain ⟨rfl, operand⟩ := Operator.sign_append_inj h
      obtain ⟨rfl, rest⟩ := ih (slashless_prefixOp.1 hx) (slashless_prefixOp.1 hy) operand
      exact ⟨rfl, rest⟩
  | infixOp op left right ihLeft ihRight =>
    cases y with
    | prefixOp | literal | regex => cases kind_eq_of_chars_append h
    | infixOp other left' right' =>
      obtain ⟨hleft, hright⟩ := slashless_infixOp.1 hx
      obtain ⟨hleft', hright'⟩ := slashless_infixOp.1 hy
      simp only [chars, List.append_assoc, List.cons_append, List.nil_append] at h
      have operand := (List.cons.inj h).2
      obtain ⟨rfl, middle⟩ := ihLeft hleft hleft' operand
      obtain ⟨rfl, second⟩ := Operator.sign_append_inj (List.cons.inj middle).2
      obtain ⟨rfl, rest⟩ := ihRight hright hright' second
      exact ⟨rfl, (List.cons.inj rest).2⟩
  | literal text =>
    cases y with
    | prefixOp | infixOp | regex => cases kind_eq_of_chars_append h
    | literal text' =>
      obtain ⟨chars, rest⟩ := Quoted.write_append_inj h
      obtain rfl : text = text' := String.toList_inj.1 chars
      exact ⟨rfl, rest⟩
  | regex p =>
    cases y with
    | prefixOp | infixOp | literal => cases kind_eq_of_chars_append h
    | regex q =>
      simp only [chars, List.append_assoc, List.cons_append, List.nil_append] at h
      obtain ⟨chars, rest⟩ :=
        append_cons_inj (slashless_regex.1 hx) (slashless_regex.1 hy) (List.cons.inj h).2
      obtain rfl : p = q := SearchPattern.eq_of_source (String.toList_inj.1 chars)
      exact ⟨rfl, rest⟩

/-- Expressions without slashes in their patterns have the same text only if they are the same. -/
theorem text_eq_text_iff {x y : Expression} (hx : ∀ p ∈ x.patterns, '/' ∉ p.source.toList)
    (hy : ∀ p ∈ y.patterns, '/' ∉ p.source.toList) : x.text = y.text ↔ x = y := by
  constructor
  · intro h
    have chars : x.chars ++ [] = y.chars ++ [] := congrArg (· ++ []) (String.ofList_injective h)
    exact (chars_append_inj hx hy chars).1
  · rintro rfl
    rfl

/-- A sign that begins another one, and a literal that holds the text of a whole expression. -/
theorem text_eq_text_iff_nested :
    let p := (SearchPattern.compile "a\\b").toOption.get (by decide +kernel)
    let x : Expression :=
      .infixOp .equal (.literal "a\" AND (\"b\" =~ ") (.prefixOp .matching (.regex p))
    let y : Expression := .infixOp .matching (.literal "a") (.prefixOp .equal (.regex p))
    (∀ q ∈ x.patterns, '/' ∉ q.source.toList) ∧ (∀ q ∈ y.patterns, '/' ∉ q.source.toList) ∧
      x.text = "(\"a\\\" AND (\\\"b\\\" =~ \" = =~ /a\\b/)" ∧ x.text ≠ y.text := by
  intro p x y
  have slashless : '/' ∉ p.source.toList := by decide +kernel
  have hx : ∀ q ∈ x.patterns, '/' ∉ q.source.toList := List.forall_mem_singleton.2 slashless
  have hy : ∀ q ∈ y.patterns, '/' ∉ q.source.toList := List.forall_mem_singleton.2 slashless
  have different : x ≠ y := by simp [x, y]
  exact ⟨hx, hy, by decide +kernel, fun same => different ((text_eq_text_iff hx hy).1 same)⟩

/-- A pattern with a slash can take in the sign that stands after a shorter one. -/
example :
    let compiled (source : String) := (SearchPattern.compile source).toOption
    let short := (compiled "a").get (by decide +kernel)
    let long := (compiled "b/ = /c").get (by decide +kernel)
    let longer := (compiled "a/ = /b").get (by decide +kernel)
    let other := (compiled "c").get (by decide +kernel)
    let x : Expression := .infixOp .equal (.regex short) (.regex long)
    let y : Expression := .infixOp .equal (.regex longer) (.regex other)
    x.text = y.text ∧ x ≠ y := by decide +kernel

end Expression

end CapturedTraffic.Query
