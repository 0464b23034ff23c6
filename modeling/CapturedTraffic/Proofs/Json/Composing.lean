import CapturedTraffic.Json.Value
import CapturedTraffic.Proofs.Json.Locality
import Mathlib.Data.List.Forall2

/-!
# Composing JSON texts

Texts that denote values are put together between brackets and commas, each in its own spelling and
with its own blanks. The result denotes the array or the object of their values: lexing is local, and
a value is built in the same way wherever its tokens stand.
-/
namespace CapturedTraffic.Json

open List (Forall₂)

namespace Token

variable {s : List Char} {tokens : List Token}

/-- The characters that are tokens by themselves. -/
def symbols : List (Char × Token) :=
  [(',', comma), (':', colon), ('[', openArray), (']', closeArray), ('\x7b', openObject),
    ('\x7d', closeObject)]

theorem all_symbol {c : Char} {t : Token} (h : (c, t) ∈ symbols) (before : List Token)
    (rest : List Char) : all before (c :: rest) = all (t :: before) rest := by
  simp only [symbols, List.mem_cons, List.not_mem_nil, or_false, Prod.mk.injEq] at h
  rcases h with ⟨rfl, rfl⟩ | ⟨rfl, rfl⟩ | ⟨rfl, rfl⟩ | ⟨rfl, rfl⟩ | ⟨rfl, rfl⟩ | ⟨rfl, rfl⟩
  all_goals exact all_cons rfl rfl before

theorem Lexes.symbol {c : Char} {t : Token} (h : (c, t) ∈ symbols) (lexed : Lexes s tokens) :
    Lexes (c :: s) (t :: tokens) := by
  intro before more ends
  rw [List.cons_append, all_symbol h, lexed _ _ ends, List.reverse_cons, List.append_assoc,
    List.singleton_append]

/-- A text is lexed apart from the one behind it if that one does not go on a number. -/
theorem Lexes.append {s' : List Char} {tokens' : List Token} (first : Lexes s tokens)
    (last : Lexes s' tokens') (ends : ∀ more, Ends (s' ++ more)) :
    Lexes (s ++ s') (tokens ++ tokens') := by
  intro before more h
  rw [List.append_assoc, first _ _ (ends more), last _ _ h, List.reverse_append, List.append_assoc]

/-- Texts between commas and in front of a closing bracket are lexed one by one. -/
theorem lexes_intercalate {parts : List (List Char)} {tokens : List (List Token)}
    (each : Forall₂ Lexes parts tokens) {c : Char} {t : Token} (h : (c, t) ∈ symbols)
    (closing : c ∈ [',', ':', ']', '\x7d']) :
    Lexes ([','].intercalate parts ++ [c]) ([comma].intercalate tokens ++ [t]) := by
  have closed : Lexes [c] [t] := lexes_nil.symbol h
  induction each with
  | nil => exact closed
  | cons first others ih =>
    cases others with
    | nil =>
      rw [List.intercalate_singleton, List.intercalate_singleton]
      exact first.append closed fun _ => ends_cons closing _
    | cons =>
      rw [List.intercalate_cons_cons, List.intercalate_cons_cons]
      simp only [List.append_assoc, List.singleton_append]
      exact first.append (ih.symbol (by decide)) fun _ => ends_cons (by decide) _

end Token

namespace Value

section Building

variable {expected next : Expected} {stack after : List Frame} {t : Token} {tokens : List Token}
  {v : Value}

theorem build?_cons (h : step? expected stack t = some (next, after)) (rest : List Token) :
    build? expected stack (t :: rest) = build? next after rest := by
  rw [build?, h]
  rfl

theorem begin?_append (h : begin? stack t = some (next, after)) (around : List Frame) :
    begin? (stack ++ around) t = some (next, after ++ around) := by
  cases t
  all_goals
    cases h
    try rfl

theorem step?_valueOrEnd (other : t ≠ .closeArray) (stack : List Frame) :
    step? .valueOrEnd stack t = begin? stack t := by
  rw [step?]
  intro _ _ _ same
  exact other same

/-- A step looks at the innermost open container only. -/
theorem step?_append (h : step? expected stack t = some (next, after)) (around : List Frame) :
    step? expected (stack ++ around) t = some (next, after ++ around) := by
  -- A value is begun in the first and the third case; in the last there is no step.
  unfold step? at h
  split at h
  case h_1 => exact begin?_append h around
  case h_3 =>
    have other : t ≠ .closeArray := by
      rintro rfl
      cases h
    rw [step?_valueOrEnd other]
    exact begin?_append h around
  case h_12 => cases h
  all_goals
    cases h
    rfl

theorem build?_append (h : build? expected stack tokens = some v) (around : List Frame)
    (rest : List Token) :
    build? expected (stack ++ around) (tokens ++ rest) = build? (.continuation v) around rest := by
  induction tokens generalizing expected stack with
  | nil =>
    unfold build? at h
    split at h
    next =>
      cases h
      rfl
    next => cases h
    next same => cases same
  | cons t tokens ih =>
    rw [build?] at h
    obtain ⟨⟨next, after⟩, step, later⟩ := Option.bind_eq_some_iff.1 h
    rw [List.cons_append, build?_cons (step?_append step around)]
    exact ih later

/-- These tokens build the value, whatever stands open around them and follows them. -/
def Builds (tokens : List Token) (v : Value) : Prop :=
  ∀ stack rest, build? .value stack (tokens ++ rest) = build? (.continuation v) stack rest

theorem ofTokens?_eq_some_iff : ofTokens? tokens = some v ↔ Builds tokens v := by
  constructor
  · exact build?_append
  · intro h
    have built := h [] []
    rw [List.append_nil] at built
    exact built

/-- Where an array may end, a value is still begun like anywhere else. -/
theorem build?_valueOrEnd (h : Builds tokens v) (rest : List Token) :
    build? .valueOrEnd stack (tokens ++ rest) = build? .value stack (tokens ++ rest) := by
  have built := ofTokens?_eq_some_iff.2 h
  cases tokens with
  | nil => cases built
  | cons t tokens =>
    have other : t ≠ .closeArray := by
      rintro rfl
      cases built
    rw [List.cons_append, build?, build?, step?_valueOrEnd other]
    rfl

theorem build?_items {parts : List (List Token)} {values : List Value}
    (each : Forall₂ Builds parts values) (filled : parts ≠ []) (done : List Value)
    (stack : List Frame) (rest : List Token) :
    build? .value (.array done :: stack) ([.comma].intercalate parts ++ .closeArray :: rest) =
      build? (.continuation (.array (done.reverse ++ values))) stack rest := by
  induction each generalizing done with
  | nil => exact absurd rfl filled
  | @cons part v _ _ first others ih =>
    cases others with
    | nil => rw [List.intercalate_singleton, first, build?_cons rfl, List.reverse_cons]
    | cons =>
      have later := ih (List.cons_ne_nil _ _) (v :: done)
      rw [List.intercalate_cons_cons, List.append_assoc, List.append_assoc, first,
        List.singleton_append, build?_cons rfl, later, List.reverse_cons, List.append_assoc,
        List.singleton_append]

theorem builds_array {parts : List (List Token)} {values : List Value}
    (each : Forall₂ Builds parts values) :
    Builds (.openArray :: ([.comma].intercalate parts ++ [.closeArray])) (.array values) := by
  intro stack rest
  rw [List.cons_append, build?_cons rfl, List.append_assoc, List.singleton_append]
  cases each with
  | nil => exact build?_cons rfl rest
  | @cons part v parts values first others =>
    have begun : ∃ tail, [Token.comma].intercalate (part :: parts) = part ++ tail := by
      cases parts with
      | nil => exact ⟨[], by simp⟩
      | cons => exact ⟨_, List.intercalate_cons_cons.trans (List.append_assoc _ _ _)⟩
    obtain ⟨tail, split⟩ := begun
    have items := build?_items (.cons first others) (List.cons_ne_nil _ _) [] stack rest
    rw [split, List.append_assoc] at items ⊢
    rw [build?_valueOrEnd first, items]
    rfl

/-- The tokens of an object's entry. -/
def BuildsEntry (tokens : List Token) (e : Option String × Value) : Prop :=
  ∃ rest, tokens = .text e.1 :: .colon :: rest ∧ Builds rest e.2

theorem build?_entries {parts : List (List Token)} {entries : List (Option String × Value)}
    (each : Forall₂ BuildsEntry parts entries) (filled : parts ≠ [])
    (done : List (Option String × Value)) (stack : List Frame) (rest : List Token) :
    build? (.key done) stack ([.comma].intercalate parts ++ .closeObject :: rest) =
      build? (.continuation (.object (done.reverse ++ entries))) stack rest := by
  induction each generalizing done with
  | nil => exact absurd rfl filled
  | @cons part e _ _ first others ih =>
    obtain ⟨tokens, rfl, first⟩ := first
    cases others with
    | nil =>
      rw [List.intercalate_singleton, List.cons_append, List.cons_append, build?_cons rfl,
        build?_cons rfl, first, build?_cons rfl, List.reverse_cons]
    | cons =>
      have later := ih (List.cons_ne_nil _ _) (e :: done)
      rw [List.intercalate_cons_cons, List.append_assoc, List.append_assoc, List.cons_append,
        List.cons_append, build?_cons rfl, build?_cons rfl, first, List.singleton_append,
        build?_cons rfl, later, List.reverse_cons, List.append_assoc, List.singleton_append]

theorem builds_object {parts : List (List Token)} {entries : List (Option String × Value)}
    (each : Forall₂ BuildsEntry parts entries) :
    Builds (.openObject :: ([.comma].intercalate parts ++ [.closeObject])) (.object entries) := by
  intro stack rest
  rw [List.cons_append, build?_cons rfl, List.append_assoc, List.singleton_append]
  cases each with
  | nil => exact build?_cons rfl rest
  | @cons part e parts entries first others =>
    have items := build?_entries (.cons first others) (List.cons_ne_nil _ _) [] stack rest
    have begun : ∃ tail, [Token.comma].intercalate (part :: parts) = .text e.1 :: tail := by
      obtain ⟨tokens, rfl, _⟩ := first
      cases parts with
      | nil => exact ⟨_, List.intercalate_singleton⟩
      | cons => exact ⟨_, List.intercalate_cons_cons⟩
    obtain ⟨tail, split⟩ := begun
    rw [split] at items ⊢
    exact items

end Building

/-- The text has the tokens of the value, in any context. -/
def Denotes (s : List Char) (v : Value) : Prop := ∃ tokens, Token.Lexes s tokens ∧ Builds tokens v

theorem parse?_eq_some_iff {text : String} {v : Value} :
    parse? text = some v ↔ Denotes text.toList v := by
  rw [parse?, Option.bind_eq_some_iff]
  simp only [Token.all_eq_some_iff, ofTokens?_eq_some_iff]
  rfl

theorem denotes_scalar {s : List Char} {t : Token} {v : Value} (lexed : Token.Lexes s [t])
    (h : ofScalar? t = some v) : Denotes s v := by
  refine ⟨[t], lexed, fun stack rest => build?_cons ?_ rest⟩
  rw [step?, begin?, h]
  · rfl
  all_goals
    rintro rfl
    cases h

/-- The text of an object's entry: a key that is spelt by a text, and a value. -/
def DenotesEntry (s : List Char) (e : Option String × Value) : Prop :=
  ∃ key value, s = key ++ ':' :: value ∧ Token.Lexes key [.text e.1] ∧ Denotes value e.2

theorem DenotesEntry.tokens {s : List Char} {e : Option String × Value} (h : DenotesEntry s e) :
    ∃ tokens, Token.Lexes s tokens ∧ BuildsEntry tokens e := by
  obtain ⟨key, value, rfl, spelt, tokens, lexed, built⟩ := h
  have entry := spelt.append (lexed.symbol (c := ':') (t := .colon) (by decide)) fun _ =>
    Token.ends_cons (by decide) _
  exact ⟨_, entry, tokens, rfl, built⟩

theorem exists_forall₂ {α β γ : Type} {R : α → β → Prop} {S : β → γ → Prop} {l : List α} {n : List γ}
    (each : Forall₂ (fun a c => ∃ b, R a b ∧ S b c) l n) :
    ∃ m, Forall₂ R l m ∧ Forall₂ S m n := by
  induction each with
  | nil => exact ⟨[], .nil, .nil⟩
  | cons first _ ih =>
    obtain ⟨b, left, right⟩ := first
    obtain ⟨m, lefts, rights⟩ := ih
    exact ⟨b :: m, .cons left lefts, .cons right rights⟩

theorem denotes_array {parts : List (List Char)} {values : List Value}
    (each : Forall₂ Denotes parts values) :
    Denotes ('[' :: ([','].intercalate parts ++ [']'])) (.array values) := by
  obtain ⟨tokens, lexed, built⟩ := exists_forall₂ each
  have inside := Token.lexes_intercalate lexed (c := ']') (t := .closeArray) (by decide) (by decide)
  exact ⟨_, inside.symbol (by decide), builds_array built⟩

theorem denotes_object {parts : List (List Char)} {entries : List (Option String × Value)}
    (each : Forall₂ DenotesEntry parts entries) :
    Denotes ('\x7b' :: ([','].intercalate parts ++ ['\x7d'])) (.object entries) := by
  obtain ⟨tokens, lexed, built⟩ := exists_forall₂ (each.imp fun _ _ => DenotesEntry.tokens)
  have inside := Token.lexes_intercalate lexed (c := '\x7d') (t := .closeObject) (by decide)
    (by decide)
  exact ⟨_, inside.symbol (by decide), builds_object built⟩

end Value

end CapturedTraffic.Json
