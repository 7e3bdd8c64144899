import Roster.Json.Shape
import Mathlib.Data.List.Nodup
import Mathlib.Data.List.Perm.Basic

/-! The documents that spell a value freely: the members of every object may stand in another order, with
members of other names among them. -/

namespace Roster

namespace Doc

/-- Members whose names are complete texts. -/
def named (es : List (String × Doc)) : List (Option String × Doc) := es.map fun m => (some m.1, m.2)

@[simp] theorem named_nil : named [] = [] := rfl

@[simp] theorem named_cons (k : String) (d : Doc) (es : List (String × Doc)) :
    named ((k, d) :: es) = (some k, d) :: named es := rfl

@[simp] theorem named_append (es fs : List (String × Doc)) :
    named (es ++ fs) = named es ++ named fs := List.map_append

mutual

/-- Spells a value. An object has the members of the value, in any order, and may have others between
them, whose names are not names of the value. -/
inductive Spells : Doc → Json → Prop
  | null : Spells null .null
  | bool (b : Bool) : Spells (bool b) (.bool b)
  | int (i : Int) : Spells (num (Numeral.ofInt i)) (.int i)
  | str (s : String) : Spells (str (some s)) (.str s)
  | arr {ds : List Doc} {xs : List Json} (items : SpellItems ds xs) : Spells (arr ds true) (.arr xs)
  | obj {own added es : List (String × Doc)} {ms : List (String × Json)}
      (members : SpellMembers own ms) (order : es.Perm (own ++ added))
      (fresh : ∀ m ∈ added, m.1 ∉ ms.map Prod.fst) : Spells (obj (named es) true) (.obj ms)

/-- Item by item. -/
inductive SpellItems : List Doc → List Json → Prop
  | nil : SpellItems [] []
  | cons {d : Doc} {x : Json} {ds : List Doc} {xs : List Json} (head : Spells d x)
      (tail : SpellItems ds xs) : SpellItems (d :: ds) (x :: xs)

/-- Member by member, under the same names. -/
inductive SpellMembers : List (String × Doc) → List (String × Json) → Prop
  | nil : SpellMembers [] []
  | cons {k : String} {d : Doc} {x : Json} {es : List (String × Doc)} {ms : List (String × Json)}
      (head : Spells d x) (tail : SpellMembers es ms) : SpellMembers ((k, d) :: es) ((k, x) :: ms)

end

@[simp] theorem spells_null {d : Doc} : d.Spells .null ↔ d = null :=
  ⟨fun h => by cases h; rfl, fun h => h ▸ .null⟩

@[simp] theorem spells_bool {d : Doc} {b : Bool} : d.Spells (.bool b) ↔ d = bool b :=
  ⟨fun h => by cases h; rfl, fun h => h ▸ .bool b⟩

@[simp] theorem spells_int {d : Doc} {i : Int} : d.Spells (.int i) ↔ d = num (Numeral.ofInt i) :=
  ⟨fun h => by cases h; rfl, fun h => h ▸ .int i⟩

@[simp] theorem spells_str {d : Doc} {s : String} : d.Spells (.str s) ↔ d = str (some s) :=
  ⟨fun h => by cases h; rfl, fun h => h ▸ .str s⟩

theorem SpellMembers.keys {es : List (String × Doc)} {ms : List (String × Json)}
    (h : SpellMembers es ms) : es.map Prod.fst = ms.map Prod.fst := by
  induction ms generalizing es with
  | nil => cases h; rfl
  | cons m ms ih =>
    cases h with
    | cons head tail => simp [ih tail]

theorem SpellMembers.of_mem {es : List (String × Doc)} {ms : List (String × Json)}
    (h : SpellMembers es ms) {m : String × Json} (hm : m ∈ ms) :
    ∃ d, (m.1, d) ∈ es ∧ d.Spells m.2 := by
  induction ms generalizing es with
  | nil => cases hm
  | cons n ms ih =>
    cases h with
    | @cons k d x es _ head tail =>
      obtain rfl | hm := List.mem_cons.1 hm
      · exact ⟨d, List.mem_cons_self, head⟩
      · obtain ⟨e, he, hs⟩ := ih tail hm
        exact ⟨e, List.mem_cons_of_mem _ he, hs⟩

/-- Between other members, what stands under a name of the value spells its member. -/
theorem SpellMembers.spells {own added es : List (String × Doc)} {ms : List (String × Json)}
    (h : SpellMembers own ms) (order : es.Perm (own ++ added))
    (fresh : ∀ m ∈ added, m.1 ∉ ms.map Prod.fst) (nodup : (ms.map Prod.fst).Nodup)
    {k : String} {d : Doc} {x : Json} (hd : (k, d) ∈ es) (hx : (k, x) ∈ ms) : d.Spells x := by
  obtain ⟨e, he, hs⟩ := h.of_mem hx
  obtain hd | hd := List.mem_append.1 (order.mem_iff.1 hd)
  · rw [← h.keys] at nodup
    obtain ⟨-, rfl⟩ := Prod.mk.inj (List.inj_on_of_nodup_map nodup hd he rfl)
    exact hs
  · exact absurd (List.mem_map_of_mem hx) (fresh (k, d) hd)

theorem ofItems_eq (xs : List Json) : ofItems xs = xs.map ofJson := by
  induction xs with
  | nil => rfl
  | cons x xs ih => rw [ofItems, ih]; rfl

theorem ofMembers_eq (ms : List (String × Json)) :
    ofMembers ms = named (ms.map fun m => (m.1, ofJson m.2)) := by
  induction ms with
  | nil => rfl
  | cons m ms ih => rw [ofMembers, ih]; rfl

mutual

/-- The written value is one of its spellings. -/
theorem spells_ofJson (j : Json) : (ofJson j).Spells j := by
  match j with
  | .null => exact .null
  | .bool b => exact .bool b
  | .int i => exact .int i
  | .str s => exact .str s
  | .arr xs => exact .arr (spellItems_ofItems xs)
  | .obj ms =>
    rw [ofJson, ofMembers_eq]
    exact @Spells.obj _ [] _ ms (spellMembers_ofJson ms) (by simp) (by simp)

theorem spellItems_ofItems (xs : List Json) : SpellItems (ofItems xs) xs := by
  match xs with
  | [] => exact .nil
  | x :: xs => exact .cons (spells_ofJson x) (spellItems_ofItems xs)

theorem spellMembers_ofJson (ms : List (String × Json)) :
    SpellMembers (ms.map fun m => (m.1, ofJson m.2)) ms := by
  match ms with
  | [] => exact .nil
  | (_, x) :: ms => exact .cons (spells_ofJson x) (spellMembers_ofJson ms)

end

/-- The members of a value in another order, with others between them. -/
theorem spells_of_perm {ms added es : List (String × Json)} (order : es.Perm (ms ++ added))
    (fresh : ∀ m ∈ added, m.1 ∉ ms.map Prod.fst) : (ofJson (.obj es)).Spells (.obj ms) := by
  have h := order.map fun m => (m.1, ofJson m.2)
  rw [List.map_append] at h
  rw [ofJson, ofMembers_eq]
  refine .obj (spellMembers_ofJson ms) h fun m hm => ?_
  obtain ⟨n, hn, rfl⟩ := List.mem_map.1 hm
  exact fresh n hn

/-- Has a member with this name and this value. -/
def HasMember (d : Doc) (k : String) (e : Doc) : Prop :=
  match d with
  | obj ms _ => (some k, e) ∈ ms
  | _ => False

theorem hasMember_named {es : List (String × Doc)} {closed : Bool} {k : String} {e : Doc} :
    (obj (named es) closed).HasMember k e ↔ (k, e) ∈ es := by
  simp only [HasMember, named, List.mem_map]
  constructor
  · rintro ⟨m, hm, he⟩
    cases he
    exact hm
  · exact fun h => ⟨(k, e), h, rfl⟩

theorem isWhole_named {es : List (String × Doc)} :
    (obj (named es) true).isWhole = true ↔ ∀ m ∈ es, m.2.isWhole = true := by
  have hw : membersWhole (named es) = true ↔ ∀ m ∈ es, m.2.isWhole = true := by
    induction es with
    | nil => simp [membersWhole]
    | cons e es ih => rw [named_cons, membersWhole, Bool.and_eq_true, List.forall_mem_cons, ih]
  simp [isWhole, hw]

theorem isBufferable_iff {d : Doc} {around : Nat} :
    d.isBufferable around = true ↔ d.isSound = true ∧ d.depth + around ≤ maxDepth := by
  rw [isBufferable, Bool.and_eq_true, decide_eq_true_iff]

/-- An object can be set aside if its members can be, one container deeper. -/
theorem isBufferable_named {es : List (String × Doc)} {around : Nat} (ha : around < maxDepth) :
    (obj (named es) true).isBufferable around = true ↔
      ∀ m ∈ es, m.2.isBufferable (around + 1) = true := by
  have hs : membersSound (named es) = true ∧ membersDepth (named es) + (around + 1) ≤ maxDepth ↔
      ∀ m ∈ es, m.2.isBufferable (around + 1) = true := by
    induction es with
    | nil =>
      have : around + 1 ≤ maxDepth := by omega
      simp [membersSound, membersDepth, this]
    | cons e es ih =>
      have hd : max e.2.depth (membersDepth (named es)) + (around + 1) ≤ maxDepth ↔
          e.2.depth + (around + 1) ≤ maxDepth ∧ membersDepth (named es) + (around + 1) ≤ maxDepth := by
        omega
      rw [List.forall_mem_cons, ← ih, isBufferable_iff, named_cons, membersDepth, hd]
      simp only [membersSound, Option.isSome_some, Bool.true_and, Bool.and_eq_true]
      tauto
  have hd : 1 + membersDepth (named es) + around ≤ maxDepth ↔
      membersDepth (named es) + (around + 1) ≤ maxDepth := by omega
  rw [isBufferable_iff, ← hs, depth, hd, isSound, Bool.and_true]

theorem isBufferable_arr {ds : List Doc} {around : Nat} (ha : around < maxDepth)
    (h : ∀ d ∈ ds, d.isBufferable (around + 1) = true) : (arr ds true).isBufferable around = true := by
  have hs : itemsSound ds = true ∧ itemsDepth ds + (around + 1) ≤ maxDepth := by
    induction ds with
    | nil => exact ⟨rfl, by simp only [itemsDepth]; omega⟩
    | cons d ds ih =>
      rw [List.forall_mem_cons, isBufferable_iff] at h
      obtain ⟨⟨hd, hn⟩, h⟩ := h
      obtain ⟨hs, hm⟩ := ih h
      refine ⟨by simp [itemsSound, hd, hs], ?_⟩
      simp only [itemsDepth]
      omega
  rw [isBufferable_iff, depth, isSound, hs.1]
  exact ⟨rfl, by omega⟩

end Doc

end Roster
