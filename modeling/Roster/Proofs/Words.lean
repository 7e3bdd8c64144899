import Mathlib.Algebra.Group.Nat.Defs
import Mathlib.Data.List.Induction
import Mathlib.Data.List.TakeWhile
import Roster.Proofs.Wire.Text
import Roster.Text.Blank

/-! Numbers as people write them: digits, perhaps behind a plus sign, perhaps between blanks. Such texts and no
others are read as words of 64 bits. -/

namespace Roster

namespace Text

/-- A text with blanks around it. -/
def Padded (core cs : List Char) : Prop :=
  ∃ before after, cs = before ++ core ++ after ∧
    (∀ c ∈ before, isBlank c = true) ∧ ∀ c ∈ after, isBlank c = true

theorem trimStart_of_head {cs : List Char} (h : ∀ c ∈ cs.head?, isBlank c = false) : trimStart cs = cs := by
  cases cs with
  | nil => rfl
  | cons c r =>
    have hc : isBlank c = false := h c rfl
    exact List.dropWhile_cons_of_neg (by simp [hc])

theorem head_trimStart (cs : List Char) : ∀ c ∈ (trimStart cs).head?, isBlank c = false := by
  intro c hc
  have hnot := List.head?_dropWhile_not isBlank cs
  rw [Option.mem_def, trimStart] at hc
  rw [hc] at hnot
  exact hnot

theorem trimStart_eq_iff {cs rest : List Char} : trimStart cs = rest ↔
    (∃ before, cs = before ++ rest ∧ ∀ c ∈ before, isBlank c = true) ∧
      ∀ c ∈ rest.head?, isBlank c = false := by
  constructor
  · rintro rfl
    refine ⟨⟨cs.takeWhile isBlank, ?_, fun c hc => List.mem_takeWhile_imp hc⟩, head_trimStart cs⟩
    exact List.takeWhile_append_dropWhile.symm
  · rintro ⟨⟨before, rfl, hbefore⟩, hrest⟩
    rw [trimStart, List.dropWhile_append_of_pos hbefore]
    exact trimStart_of_head hrest

/-- Trimming leaves the part between the blanks that has none at its ends. -/
theorem trim_eq_iff {cs core : List Char} : trim cs = core ↔ Padded core cs ∧
    (∀ c ∈ core.head?, isBlank c = false) ∧ ∀ c ∈ core.getLast?, isBlank c = false := by
  rw [trim, List.reverse_eq_iff, trimStart_eq_iff, List.head?_reverse]
  constructor
  · rintro ⟨⟨after, hstart, hafter⟩, hlast⟩
    have hstart' : trimStart cs = core ++ after.reverse := by
      rw [← List.reverse_reverse (trimStart cs), hstart, List.reverse_append, List.reverse_reverse]
    obtain ⟨⟨before, hcs, hbefore⟩, hhead⟩ := trimStart_eq_iff.1 hstart'
    refine ⟨⟨before, after.reverse, ?_, hbefore, ?_⟩, ?_, hlast⟩
    · rw [hcs, List.append_assoc]
    · intro c hc
      exact hafter c (List.mem_reverse.1 hc)
    · intro c hc
      apply hhead c
      rw [List.head?_append, hc, Option.some_or]
      rfl
  · rintro ⟨⟨before, after, rfl, hbefore, hafter⟩, hhead, hlast⟩
    refine ⟨?_, hlast⟩
    cases core with
    | nil =>
      -- nothing but blanks
      have hall : trimStart (before ++ [] ++ after) = [] := by
        rw [trimStart_eq_iff]
        refine ⟨⟨before ++ after, by simp, ?_⟩, nofun⟩
        intro c hc
        exact (List.mem_append.1 hc).elim (hbefore c) (hafter c)
      exact ⟨[], by rw [hall]; rfl, nofun⟩
    | cons c core =>
      have hstart : trimStart (before ++ (c :: core) ++ after) = c :: core ++ after := by
        rw [trimStart_eq_iff]
        exact ⟨⟨before, List.append_assoc .., hbefore⟩, hhead⟩
      refine ⟨after.reverse, ?_, fun c hc => hafter c (List.mem_reverse.1 hc)⟩
      rw [hstart, List.reverse_append]

end Text

namespace Decimal

/-- Digits, and the number that they spell. -/
inductive Spells : List Char → Nat → Prop
  | digit {d : Nat} : d < 10 → Spells [digit d] d
  | concat {ds : List Char} {n d : Nat} : Spells ds n → d < 10 → Spells (ds ++ [digit d]) (10 * n + d)

/-- A number of at most 64 bits as it may be written, also behind a plus sign. -/
def SpellsWord (cs : List Char) (n : Nat) : Prop :=
  n < 2 ^ 64 ∧ (Spells cs n ∨ ∃ ds, cs = '+' :: ds ∧ Spells ds n)

theorem exists_digit {c : Char} (h : c.isDigit = true) : ∃ d < 10, c = digit d := by
  have hc : 48 ≤ c.toNat ∧ c.toNat ≤ 57 := by
    simpa [Char.isDigit, UInt32.le_iff_toNat_le] using h
  refine ⟨c.toNat - 48, by omega, ?_⟩
  rw [digit, Nat.add_sub_cancel' hc.1, Char.ofNat_toNat]

theorem spells_iff {ds : List Char} {n : Nat} :
    Spells ds n ↔ ds ≠ [] ∧ (∀ c ∈ ds, c.isDigit = true) ∧ value ds = n := by
  constructor
  · intro h
    induction h with
    | digit hd =>
      refine ⟨List.cons_ne_nil _ _, ?_, ?_⟩
      · simpa using isDigit_digit _ hd
      · simp [value, toNat_digit _ hd]
    | concat _ hd ih =>
      obtain ⟨-, hdigits, hvalue⟩ := ih
      refine ⟨by simp, ?_, ?_⟩
      · intro c hc
        rcases List.mem_append.1 hc with hc | hc
        · exact hdigits c hc
        · rw [List.mem_singleton.1 hc]
          exact isDigit_digit _ hd
      · rw [value_concat, hvalue, toNat_digit _ hd, Nat.add_sub_cancel_left]
  · rintro ⟨hne, hdigits, rfl⟩
    induction ds using List.reverseRecOn with
    | nil => exact absurd rfl hne
    | append_singleton ds c ih =>
      obtain ⟨d, hd, rfl⟩ := exists_digit (hdigits c (by simp))
      rw [value_concat, toNat_digit d hd, Nat.add_sub_cancel_left]
      cases ds with
      | nil => simpa [value] using Spells.digit hd
      | cons e ds =>
        exact .concat (ih (List.cons_ne_nil _ _) fun c hc => hdigits c (List.mem_append_left _ hc)) hd

theorem Spells.isDigit {ds : List Char} {n : Nat} (h : Spells ds n) : ∀ c ∈ ds, c.isDigit = true :=
  (spells_iff.1 h).2.1

/-- A number of at most 64 bits, without a sign. -/
def signless? (ds : List Char) : Option Nat :=
  if ds.isEmpty || !ds.all Char.isDigit || value ds ≥ Word.bound then none else some (value ds)

theorem word?_plus (ds : List Char) : word? ('+' :: ds) = signless? ds := rfl

theorem word?_of_ne_plus {cs : List Char} (h : ∀ ds, cs ≠ '+' :: ds) : word? cs = signless? cs := by
  rw [word?]
  · rfl
  · exact h

theorem signless?_eq_some_iff {ds : List Char} {n : Nat} :
    signless? ds = some n ↔ n < 2 ^ 64 ∧ Spells ds n := by
  have hbound : Word.bound = 2 ^ 64 := rfl
  rw [spells_iff, signless?, hbound, Option.ite_none_left_eq_some, Option.some.injEq]
  simp only [Bool.or_eq_true, List.isEmpty_iff, Bool.not_eq_true', decide_eq_true_eq, not_or, ge_iff_le,
    Bool.not_eq_false, List.all_eq_true, not_le]
  constructor
  · rintro ⟨⟨⟨hne, hdigits⟩, hlt⟩, rfl⟩
    exact ⟨hlt, hne, hdigits, rfl⟩
  · rintro ⟨hlt, hne, hdigits, rfl⟩
    exact ⟨⟨⟨hne, hdigits⟩, hlt⟩, rfl⟩

theorem word?_eq_some_iff {cs : List Char} {n : Nat} : word? cs = some n ↔ SpellsWord cs n := by
  rw [SpellsWord]
  by_cases hsign : ∃ ds, cs = '+' :: ds
  · obtain ⟨ds, rfl⟩ := hsign
    -- a sign is no digit
    have hnone : ¬ Spells ('+' :: ds) n := fun h => absurd (h.isDigit '+' List.mem_cons_self) (by decide)
    rw [word?_plus, signless?_eq_some_iff, or_iff_right hnone]
    simp only [List.cons.injEq, true_and, exists_eq_left']
  · have hnone : ¬ ∃ ds, cs = '+' :: ds ∧ Spells ds n := fun ⟨ds, hds, _⟩ => hsign ⟨ds, hds⟩
    rw [word?_of_ne_plus (not_exists.1 hsign), signless?_eq_some_iff, or_iff_left hnone]

theorem isBlank_digit : ∀ d < 10, Text.isBlank (digit d) = false := by decide

theorem SpellsWord.not_isBlank {cs : List Char} {n : Nat} (h : SpellsWord cs n) :
    ∀ c ∈ cs, Text.isBlank c = false := by
  have hdigits {ds : List Char} (hds : Spells ds n) : ∀ c ∈ ds, Text.isBlank c = false := by
    intro c hc
    obtain ⟨d, hd, rfl⟩ := exists_digit (hds.isDigit c hc)
    exact isBlank_digit d hd
  rcases h.2 with hds | ⟨ds, rfl, hds⟩
  · exact hdigits hds
  · intro c hc
    rcases List.mem_cons.1 hc with rfl | hc
    · decide
    · exact hdigits hds c hc

/-- A number has no blanks, so it is what trimming leaves. -/
theorem word?_trim_eq_some_iff {cs : List Char} {n : Nat} :
    word? (Text.trim cs) = some n ↔ ∃ core, Text.Padded core cs ∧ SpellsWord core n := by
  constructor
  · intro h
    exact ⟨Text.trim cs, (Text.trim_eq_iff.1 rfl).1, word?_eq_some_iff.1 h⟩
  · rintro ⟨core, hpadded, hword⟩
    have htrim : Text.trim cs = core := by
      refine Text.trim_eq_iff.2 ⟨hpadded, ?_, ?_⟩
      · exact fun c hc => hword.not_isBlank c (List.mem_of_head? hc)
      · exact fun c hc => hword.not_isBlank c (List.mem_of_getLast? hc)
    rw [htrim]
    exact word?_eq_some_iff.2 hword

end Decimal

end Roster
