import Roster.Proofs.Inquiry
import Roster.Proofs.Publishing

/-! What a mask says, over all words of 64 bits. One word stands for nothing being known; of every other the
strongest of six bits counts, and what no bit tells is being online. Masks of flags join as their statuses
do, and what a mask says can be said again. -/

namespace Roster.Mask

/-- The statuses that have a telling bit, the strongest first, and the place of the bit. -/
def tellingBits : List (Status × Nat) :=
  [(.invisible, 8), (.doNotDisturb, 1), (.occupied, 4), (.notAvailable, 2), (.away, 0), (.freeForChat, 5)]

/-- The statuses of connected users, the strongest first. -/
def strength : List Status := tellingBits.map Prod.fst ++ [.online]

/-- Of two statuses the one that comes first. -/
def stronger (s t : Status) : Status := if strength.idxOf s ≤ strength.idxOf t then s else t

/-- The mask of a word of flags, known or not. -/
def ofFlagWord (w : BitVec 32) : Mask := ⟨w.setWidth 64⟩

theorem tellingBits_eq : tellingBits = priority.map fun p => (p.2, p.1.bit) := rfl

theorem toInt_eq_neg_one_iff (m : Mask) : m.toInt = -1 ↔ m.isUnknown = true := by
  have hunknown : unknown.toInt = -1 := by decide
  rw [isUnknown, beq_iff_eq, ← hunknown, toInt, toInt, BitVec.toInt_inj]
  constructor
  · intro h
    cases m
    exact congrArg Mask.mk h
  · rintro rfl
    rfl

theorem status_eq_find? {m : Mask} (known : m.isUnknown = false) : m.status =
    ((tellingBits.find? fun p => m.word.getLsbD p.2).map Prod.fst).getD .online := by
  have hhas : (fun p : Status × Nat => m.word.getLsbD p.2) ∘ (fun p : Flag × Status => (p.2, p.1.bit)) =
      fun p => m.has p.1 := by
    funext p
    rw [has, known, Bool.not_false, Bool.true_and]
    rfl
  rw [status, known, tellingBits_eq, List.find?_map, hhas]
  cases priority.find? fun p => m.has p.1 <;> rfl

/-- In a list without repetitions, the place of what is found. -/
theorem idxOf_find? {bits : List (Status × Nat)} (p : Status × Nat → Bool)
    (nodup : (bits.map Prod.fst ++ [Status.online]).Nodup) :
    (bits.map Prod.fst ++ [Status.online]).idxOf (((bits.find? p).map Prod.fst).getD .online) =
      bits.findIdx p := by
  induction bits with
  | nil => simp
  | cons b bits ih =>
    rw [List.map_cons, List.cons_append, List.nodup_cons] at nodup
    cases hb : p b with
    | true => simp [hb, List.findIdx_cons]
    | false =>
      have hmem : ((bits.find? p).map Prod.fst).getD .online ∈ bits.map Prod.fst ++ [Status.online] := by
        cases hfind : bits.find? p with
        | none => simp
        | some c => exact List.mem_append_left _ (List.mem_map_of_mem (List.mem_of_find?_eq_some hfind))
      have hne : b.1 ≠ ((bits.find? p).map Prod.fst).getD .online := fun h => nodup.1 (h ▸ hmem)
      rw [List.find?_cons_of_neg (by simp [hb]), List.map_cons, List.cons_append, List.idxOf_cons_ne _ hne,
        ih nodup.2, List.findIdx_cons, hb]
      rfl

/-- The place of the status of a mask is that of its strongest bit. -/
theorem idxOf_status {m : Mask} (known : m.isUnknown = false) :
    strength.idxOf m.status = tellingBits.findIdx fun p => m.word.getLsbD p.2 := by
  rw [status_eq_find? known]
  exact idxOf_find? _ (by decide)

theorem mem_strength {s : Status} (connected : s ≠ .offline) : s ∈ strength := by
  cases s with
  | offline => exact absurd rfl connected
  | _ => decide

theorem idxOf_strength_inj {s t : Status} (connected : s ≠ .offline)
    (same : strength.idxOf s = strength.idxOf t) : s = t :=
  (List.idxOf_inj (mem_strength connected)).1 same

theorem status_eq_offline_iff (m : Mask) : m.status = .offline ↔ m.toInt = -1 := by
  rw [toInt_eq_neg_one_iff]
  constructor
  · intro h
    cases known : m.isUnknown with
    | true => rfl
    | false => exact absurd h (status_ne_offline known)
  · intro h
    rw [status, if_pos h]

theorem status_eq_getElem_iff {m : Mask} (known : m.isUnknown = false) {i : Nat}
    (hi : i < tellingBits.length) : m.status = tellingBits[i].1 ↔
      m.word.getLsbD tellingBits[i].2 = true ∧
        ∀ j, (hj : j < i) → m.word.getLsbD tellingBits[j].2 = false := by
  have hplaces : ∀ i, (hi : i < tellingBits.length) → strength.idxOf tellingBits[i].1 = i := by decide
  have hplace := hplaces i hi
  have hfind := List.findIdx_eq (p := fun p => m.word.getLsbD p.2) hi
  rw [← hfind, ← idxOf_status known]
  constructor
  · intro h
    rw [h, hplace]
  · intro h
    exact idxOf_strength_inj (status_ne_offline known) (h.trans hplace.symm)

theorem status_eq_online_iff {m : Mask} (known : m.isUnknown = false) :
    m.status = .online ↔ ∀ p ∈ tellingBits, m.word.getLsbD p.2 = false := by
  have hplace : strength.idxOf Status.online = tellingBits.length := by decide
  rw [← List.findIdx_eq_length, ← idxOf_status known, ← hplace]
  constructor
  · intro h
    rw [h]
  · intro h
    exact idxOf_strength_inj (status_ne_offline known) h

theorem findIdx_or {α : Type} (p q : α → Bool) (l : List α) :
    l.findIdx (fun a => p a || q a) = min (l.findIdx p) (l.findIdx q) := by
  induction l with
  | nil => rfl
  | cons a l ih =>
    rw [List.findIdx_cons, List.findIdx_cons, List.findIdx_cons]
    cases p a <;> cases q a
    · rw [ih]
      exact (Nat.add_min_add_right ..).symm
    all_goals simp

theorem isUnknown_ofFlagWord (w : BitVec 32) : (ofFlagWord w).isUnknown = false := by
  refine Bool.eq_false_iff.2 fun hunknown => ?_
  have htop : (ofFlagWord w).word.getLsbD 63 = false := by simp [ofFlagWord]
  rw [eq_of_beq hunknown] at htop
  cases htop

theorem union_ofFlagWord (v w : BitVec 32) : (ofFlagWord v).union (ofFlagWord w) = ofFlagWord (v ||| w) :=
  congrArg Mask.mk BitVec.setWidth_or.symm

theorem status_union (v w : BitVec 32) : ((ofFlagWord v).union (ofFlagWord w)).status =
    stronger (ofFlagWord v).status (ofFlagWord w).status := by
  have hv := isUnknown_ofFlagWord v
  have hw := isUnknown_ofFlagWord w
  have hunion : ((ofFlagWord v).union (ofFlagWord w)).isUnknown = false := by
    rw [union_ofFlagWord]
    exact isUnknown_ofFlagWord _
  have hmin : strength.idxOf ((ofFlagWord v).union (ofFlagWord w)).status =
      min (strength.idxOf (ofFlagWord v).status) (strength.idxOf (ofFlagWord w).status) := by
    rw [idxOf_status hv, idxOf_status hw, idxOf_status hunion, ← findIdx_or]
    simp only [union, BitVec.getLsbD_or]
  apply idxOf_strength_inj (status_ne_offline hunion)
  rw [hmin, stronger]
  split
  · next h => exact Nat.min_eq_left h
  · next h => exact Nat.min_eq_right (Nat.le_of_not_le h)

theorem exists_ofStatus? {s : Status} (connected : s ≠ .offline) : ∃ m, ofStatus? s = some m := by
  cases s with
  | offline => exact absurd rfl connected
  | _ => exact ⟨_, rfl⟩

/-- Of all words only minus one is read as being offline. Any other is read as the strongest status whose bit
it has, and as being online if it has none, so its other bits do not matter. Two words of flags together say
what the stronger of them says, and there is a mask for everything that a known one says. -/
theorem status_of_strongest_bit :
    (∀ m : Mask, m.status = .offline ↔ m.toInt = -1) ∧
      (∀ m : Mask, m.toInt ≠ -1 →
        (∀ i, (hi : i < tellingBits.length) → (m.status = tellingBits[i].1 ↔
          m.word.getLsbD tellingBits[i].2 = true ∧
            ∀ j, (hj : j < i) → m.word.getLsbD tellingBits[j].2 = false)) ∧
        (m.status = .online ↔ ∀ p ∈ tellingBits, m.word.getLsbD p.2 = false)) ∧
      (∀ m n : Mask, m.toInt ≠ -1 → n.toInt ≠ -1 →
        (∀ p ∈ tellingBits, m.word.getLsbD p.2 = n.word.getLsbD p.2) → m.status = n.status) ∧
      (∀ v w : BitVec 32, ((ofFlagWord v).union (ofFlagWord w)).status =
        stronger (ofFlagWord v).status (ofFlagWord w).status) ∧
      ∀ m : Mask, m.toInt ≠ -1 → ∃ n, ofStatus? m.status = some n ∧ n.status = m.status := by
  have hknown : ∀ {m : Mask}, m.toInt ≠ -1 → m.isUnknown = false := by
    intro m hm
    exact Bool.eq_false_iff.2 fun h => hm ((toInt_eq_neg_one_iff m).2 h)
  refine ⟨status_eq_offline_iff, ?_, ?_, status_union, ?_⟩
  · intro m hm
    exact ⟨fun i hi => status_eq_getElem_iff (hknown hm) hi, status_eq_online_iff (hknown hm)⟩
  · intro m n hm hn hsame
    rw [tellingBits_eq, List.forall_mem_map] at hsame
    exact status_congr (hknown hm) (hknown hn) hsame
  · intro m hm
    obtain ⟨n, hn⟩ := exists_ofStatus? (status_ne_offline (hknown hm))
    exact ⟨n, hn, status_ofStatus? hn⟩

end Roster.Mask
