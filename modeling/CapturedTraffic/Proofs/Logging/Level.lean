import CapturedTraffic.Logging.Config
import CapturedTraffic.Proofs.Text.LetterCase
import CapturedTraffic.Proofs.Text.Lowercase

/-!
# Names of levels

A level is read in lower case, by the rules for all of Unicode. Only one character outside ASCII
has a lower-case form inside, the Kelvin sign with its k; the others keep a character outside. No
level has a k in its name, so the texts that are read as levels are the names in any ASCII case.
-/
namespace CapturedTraffic

open Text

namespace Unicode

/-- Whether the partners of a run are characters outside ASCII. -/
def CaseRun.leadsOutside (run : CaseRun) : Bool :=
  0x80 ≤ run.first + run.offset && run.last + run.offset < 0xD800 ||
    0xE000 ≤ run.first + run.offset && run.last + run.offset < 0x110000

theorem CaseRun.toNat_partner {run : CaseRun} (outside : run.leadsOutside = true) {c : Nat}
    (holds : run.holds c = true) : 0x80 ≤ (Char.ofNat (run.partner c)).toNat := by
  simp only [leadsOutside, Bool.or_eq_true, Bool.and_eq_true, decide_eq_true_eq] at outside
  simp only [CaseRun.holds, Bool.and_eq_true, decide_eq_true_eq] at holds
  have valid : (run.partner c).isValidChar := by
    unfold partner Nat.isValidChar
    omega
  rw [toNat_ofNat_of_valid valid, partner]
  omega

namespace Lowercase

def kelvin : Char := Char.ofNat 0x212A

theorem runs_leadOutside :
    ∀ run ∈ runs, run.leadsOutside = true ∨ run.first = kelvin.toNat ∧ run.last = kelvin.toNat := by
  decide +kernel

theorem exists_mem_ofChar {c : Char} (other : 0x80 ≤ c.toNat) (unlike : c ≠ kelvin) :
    ∃ d ∈ ofChar c, 0x80 ≤ d.toNat := by
  unfold ofChar
  rw [if_neg (by omega)]
  split
  · exact ⟨_, List.mem_cons_of_mem _ List.mem_cons_self, by decide⟩
  · refine ⟨_, List.mem_cons_self, ?_⟩
    cases found : CaseRun.partner? runs c.toNat with
    | none => exact other
    | some p =>
      obtain ⟨run, first, rfl⟩ := Option.map_eq_some_iff.1 found
      have holds : run.holds c.toNat = true :=
        List.find?_some (p := (CaseRun.holds · c.toNat)) first
      rcases runs_leadOutside run (List.mem_of_find?_eq_some first) with outside | ⟨low, high⟩
      · exact CaseRun.toNat_partner outside holds
      · simp only [CaseRun.holds, low, high, Bool.and_eq_true, decide_eq_true_eq] at holds
        exact absurd (Char.toNat_inj.1 (by omega)) unlike

theorem exists_mem_form {c : Char} (other : 0x80 ≤ c.toNat) (unlike : c ≠ kelvin)
    (before after : List Char) : ∃ d ∈ form before c after, 0x80 ≤ d.toNat := by
  unfold form
  split
  · refine ⟨_, List.mem_cons_self, ?_⟩
    split <;> decide
  · exact exists_mem_ofChar other unlike

theorem ofChar_kelvin : ofChar kelvin = ['k'] := by decide +kernel

/-- What is written in ASCII without a k is the lower-case form of ASCII alone. -/
theorem ascii_of_chars {before s : List Char} (ascii : ∀ d ∈ chars before s, d.toNat < 0x80)
    (plain : 'k' ∉ chars before s) : ∀ c ∈ s, c.toNat < 0x80 := by
  induction s generalizing before with
  | nil => simp
  | cons c rest ih =>
    rw [chars_cons, List.forall_mem_append] at ascii
    rw [chars_cons, List.mem_append, not_or] at plain
    have head : c.toNat < 0x80 := by
      by_contra other
      -- the sign would leave its k behind
      have unlike : c ≠ kelvin := by
        rintro rfl
        rw [form, if_neg (by decide), ofChar_kelvin] at plain
        exact plain.1 List.mem_cons_self
      obtain ⟨d, hd, outside⟩ := exists_mem_form (Nat.le_of_not_lt other) unlike before rest
      have inside := ascii.1 d hd
      omega
    exact List.forall_mem_cons.2 ⟨head, ih ascii.2 plain.2⟩

theorem chars_of_ascii {before s : List Char} (ascii : ∀ c ∈ s, c.toNat < 0x80) :
    chars before s = s.map asciiLower := by
  induction s generalizing before with
  | nil => rfl
  | cons c rest ih =>
    obtain ⟨head, tail⟩ := List.forall_mem_cons.1 ascii
    have sigma : c ≠ 'Σ' := by
      rintro rfl
      revert head
      decide
    rw [chars_cons, form, if_neg sigma, ofChar, if_pos head, ih tail]
    rfl

end Lowercase

/-- Full lower case and that of ASCII have the same texts for a text of ASCII without a k. -/
theorem lowercase_eq_iff {s t : String} (ascii : ∀ c ∈ t.toList, c.toNat < 0x80)
    (plain : 'k' ∉ t.toList) : lowercase s = t ↔ asciiFold s = t.toList := by
  have fold (given : ∀ c ∈ s.toList, c.toNat < 0x80) : (lowercase s).toList = asciiFold s := by
    rw [toList_lowercase, Lowercase.chars_of_ascii given, asciiFold]
  constructor
  · rintro rfl
    rw [toList_lowercase] at ascii plain
    rw [fold (Lowercase.ascii_of_chars ascii plain)]
  · intro same
    have given : ∀ c ∈ s.toList, c.toNat < 0x80 := by
      intro c hc
      have lower : asciiLower c ∈ t.toList := same ▸ List.mem_map_of_mem hc
      exact asciiLower_lt_iff.1 (ascii _ lower)
    exact String.toList_inj.1 ((fold given).trans same)

end Unicode

namespace Logging

theorem ascii_of_mem_levels {level : String} (h : level ∈ levels) :
    ∀ c ∈ level.toList, c.toNat < 0x80 := by
  have all : ∀ level ∈ levels, level.toList.all (·.toNat < 0x80) = true := by decide
  simpa using all level h

/-- The names are in lower case already, and none has a k. -/
theorem plain_of_mem_levels :
    ∀ level ∈ levels, 'k' ∉ level.toList ∧ asciiFold level = level.toList := by
  decide

theorem isLevel_iff {s : String} :
    isLevel s = true ↔ ∃ level ∈ levels, sameIgnoringCase s level = true := by
  have same : ∀ level ∈ levels,
      (Unicode.lowercase s = level ↔ sameIgnoringCase s level = true) := by
    intro level hlevel
    obtain ⟨plain, lower⟩ := plain_of_mem_levels level hlevel
    rw [Unicode.lowercase_eq_iff (ascii_of_mem_levels hlevel) plain, sameIgnoringCase_iff, lower]
  rw [isLevel, List.contains_iff_mem]
  constructor
  · intro listed
    exact ⟨_, listed, (same _ listed).1 rfl⟩
  · rintro ⟨level, hlevel, alike⟩
    rwa [(same level hlevel).2 alike]

theorem ascii_of_isLevel {s : String} (h : isLevel s = true) : ∀ c ∈ s.toList, c.toNat < 0x80 := by
  obtain ⟨level, hlevel, alike⟩ := isLevel_iff.1 h
  have fold : asciiFold s = level.toList :=
    (sameIgnoringCase_iff.1 alike).trans (plain_of_mem_levels level hlevel).2
  intro c hc
  have small : asciiLower c ∈ level.toList := fold ▸ List.mem_map_of_mem hc
  exact asciiLower_lt_iff.1 (ascii_of_mem_levels hlevel _ small)

/-- One level for all leaves nothing else to be refused. -/
theorem fault?_withLevel (s : String) (json : Bool) :
    (Config.withLevel s json).fault? = if isLevel s then none else some (.invalidLevel s) := rfl

/--
The levels are the five names in any ASCII case and nothing else, although they are read in the
lower case of all of Unicode. Logging with one level for all is refused exactly for other texts.
-/
theorem isLevel_characterised (s : String) (json : Bool) :
    (isLevel s = true ↔
        ∃ level ∈ ["trace", "debug", "info", "warn", "error"], sameIgnoringCase s level = true) ∧
      (isLevel s = true → ∀ c ∈ s.toList, c.toNat < 0x80) ∧
      ((Config.withLevel s json).fault? = none ↔
        ∃ level ∈ ["trace", "debug", "info", "warn", "error"], sameIgnoringCase s level = true) ∧
      ((Config.withLevel s json).fault? = some (.invalidLevel s) ↔
        ∀ level ∈ ["trace", "debug", "info", "warn", "error"],
          sameIgnoringCase s level = false) := by
  have named : isLevel s = true ↔
      ∃ level ∈ ["trace", "debug", "info", "warn", "error"], sameIgnoringCase s level = true :=
    isLevel_iff
  refine ⟨named, ascii_of_isLevel, ?_, ?_⟩
  · rw [← named, fault?_withLevel]
    simp
  · have unnamed : ¬ isLevel s = true ↔
        ∀ level ∈ ["trace", "debug", "info", "warn", "error"],
          sameIgnoringCase s level = false := by
      rw [named]
      push Not
      simp only [Bool.not_eq_true]
    rw [← unnamed, fault?_withLevel]
    simp

/-- A dotted capital I has an i in lower case, with the dot as a character of its own. -/
theorem isLevel_characterised_dotted :
    isLevel "wArN" = true ∧ (∀ c ∈ "wArN".toList, c.toNat < 0x80) ∧
      (Config.withLevel "wArN" true).fault? = none ∧
      Unicode.lowercase "İNFO" = "i\u0307nfo" ∧ isLevel "İNFO" = false ∧
      (Config.withLevel "İNFO" true).fault? = some (.invalidLevel "İNFO") := by
  obtain ⟨named, ascii, accepted, _⟩ := isLevel_characterised "wArN" true
  obtain ⟨other, _, _, refused⟩ := isLevel_characterised "İNFO" true
  have alike : ∃ level ∈ ["trace", "debug", "info", "warn", "error"],
      sameIgnoringCase "wArN" level = true := ⟨"warn", by decide, by decide⟩
  have unlike : ∀ level ∈ ["trace", "debug", "info", "warn", "error"],
      sameIgnoringCase "İNFO" level = false := by decide
  have level : isLevel "wArN" = true := named.2 alike
  refine ⟨level, ascii level, accepted.2 alike, by decide +kernel, ?_, refused.2 unlike⟩
  rw [Bool.eq_false_iff, ne_eq, other]
  rintro ⟨level, hlevel, same⟩
  simp [unlike level hlevel] at same

end Logging

end CapturedTraffic
