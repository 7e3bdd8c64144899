import Roster.Proofs.Entries
import Mathlib.Logic.Relation
import Mathlib.Data.List.Nodup
import Mathlib.Data.List.Perm.Subperm

/-! The tree of groups and the walk through it. Groups are known by name, so a list need not be a tree:
a group may lie below one of its own name. The walk keeps no account of where it has been. It ends
exactly if no such group can be reached from the root, and it is the outline then; in a tree it comes to
every group, and to none twice. -/

namespace Roster.ContactList

open Relation

/-- A group named `y` lies directly in a group named `x`. -/
def Holds (l : ContactList) (x y : String) : Prop := ∃ g ∈ l.subgroups x, g.name = y

/-- A group that can be reached from the root lies below one of its own name. -/
def Loops (l : ContactList) : Prop :=
  ∃ x, ReflTransGen l.Holds l.rootName x ∧ TransGen l.Holds x x

/-- A walk from the groups that are pending, the next one first, and the groups it comes to. What lies
in a group is put before the others, the last of it first. -/
inductive Walk (l : ContactList) : List Group → List Group → Prop
  | nil : Walk l [] []
  | visit {g : Group} {pending visited : List Group}
      (rest : Walk l ((l.subgroups g.name).reverse ++ pending) visited) :
      Walk l (g :: pending) (g :: visited)

theorem mem_subgroups {l : ContactList} {x : String} {g : Group} :
    g ∈ l.subgroups x ↔ ∃ b ∈ l.branches, b.parent = some x ∧ b.group = g := by
  simp [subgroups, and_assoc]

theorem holds_iff {l : ContactList} {x y : String} :
    l.Holds x y ↔ ∃ b ∈ l.branches, b.parent = some x ∧ b.group.name = y := by
  constructor
  · rintro ⟨g, hg, rfl⟩
    obtain ⟨b, hb, hparent, rfl⟩ := mem_subgroups.1 hg
    exact ⟨b, hb, hparent, rfl⟩
  · rintro ⟨b, hb, hparent, rfl⟩
    exact ⟨b.group, mem_subgroups.2 ⟨b, hb, hparent, rfl⟩, rfl⟩

namespace Walk

variable {l : ContactList}

theorem append {pending visited pending' visited' : List Group} (h : l.Walk pending visited)
    (h' : l.Walk pending' visited') : l.Walk (pending ++ pending') (visited ++ visited') := by
  induction h with
  | nil => exact h'
  | @visit g pending _ _ ih =>
    rw [List.append_assoc] at ih
    exact .visit ih

theorem unique {pending visited visited' : List Group} (h : l.Walk pending visited)
    (h' : l.Walk pending visited') : visited = visited' := by
  induction h generalizing visited' with
  | nil => cases h'; rfl
  | visit _ ih =>
    cases h' with
    | visit rest => rw [ih rest]

/-- Each group that the walk comes to was pending, or lies in one that it comes to. -/
theorem perm {pending visited : List Group} (h : l.Walk pending visited) :
    visited.Perm (pending ++ visited.flatMap fun g => l.subgroups g.name) := by
  induction h with
  | nil => exact .refl _
  | @visit g pending visited _ ih =>
    have hback : ((l.subgroups g.name).reverse ++ pending).Perm (pending ++ l.subgroups g.name) :=
      (List.Perm.append_right _ (List.reverse_perm _)).trans List.perm_append_comm
    rw [List.flatMap_cons, List.cons_append, ← List.append_assoc]
    exact (ih.trans (hback.append_right _)).cons g

/-- There is no end to a walk that comes to a loop. -/
theorem no_loop {pending visited : List Group} (h : l.Walk pending visited) :
    ∀ g ∈ pending, ∀ y, ReflTransGen l.Holds g.name y → ¬TransGen l.Holds y y := by
  induction h with
  | nil => nofun
  | @visit g pending visited _ ih =>
    intro g' hg' y hreach hloop
    rcases List.mem_cons.1 hg' with rfl | hg'
    · have hstep : ∃ z, l.Holds g'.name z ∧ ReflTransGen l.Holds z y := by
        rcases hreach.cases_head with rfl | hstep
        · exact TransGen.head'_iff.1 hloop
        · exact hstep
      obtain ⟨_, ⟨sub, hsub, rfl⟩, hrest⟩ := hstep
      exact ih sub (List.mem_append_left _ (List.mem_reverse.2 hsub)) y hrest hloop
    · exact ih g' (List.mem_append_right _ hg') y hreach hloop

end Walk

theorem exists_of_mapM_eq_none {α β : Type} {f : α → Option β} {xs : List α}
    (h : xs.mapM f = none) : ∃ x ∈ xs, f x = none := by
  induction xs with
  | nil => simp at h
  | cons x xs ih =>
    cases hx : f x with
    | none => exact ⟨x, List.mem_cons_self, hx⟩
    | some y =>
      cases hxs : xs.mapM f with
      | none =>
        obtain ⟨x', hx', hnone⟩ := ih hxs
        exact ⟨x', List.mem_cons_of_mem _ hx', hnone⟩
      | some ys => simp [List.mapM_cons, hx, hxs] at h

variable {l : ContactList}

theorem descend_succ_eq_some {depth : Nat} {g : Group} {visited : List Group}
    (h : l.descend (depth + 1) g = some visited) :
    ∃ below, (l.subgroups g.name).reverse.mapM (l.descend depth) = some below ∧
      visited = g :: below.flatten := by
  rw [descend] at h
  obtain ⟨below, hbelow, hvisited⟩ := Option.bind_eq_some_iff.1 h
  exact ⟨below, hbelow, (Option.some.inj hvisited).symm⟩

/-- A descent is a walk. -/
theorem walk_of_descend {depth : Nat} : ∀ {g : Group} {visited : List Group},
    l.descend depth g = some visited → l.Walk [g] visited := by
  induction depth with
  | zero => nofun
  | succ depth ih =>
    intro g visited h
    obtain ⟨below, hbelow, rfl⟩ := descend_succ_eq_some h
    have hwalk (gs : List Group) : ∀ below, gs.mapM (l.descend depth) = some below →
        l.Walk gs below.flatten := by
      induction gs with
      | nil => rintro _ ⟨⟩; exact .nil
      | cons g gs ihgs =>
        intro below hbelow
        rw [List.mapM_cons] at hbelow
        obtain ⟨first, hfirst, hothers⟩ := Option.bind_eq_some_iff.1 hbelow
        obtain ⟨rest, hrest, hsome⟩ := Option.bind_eq_some_iff.1 hothers
        obtain rfl := Option.some.inj hsome
        exact (ih hfirst).append (ihgs rest hrest)
    exact .visit (by simpa using hwalk _ below hbelow)

/-- Where a descent is cut off, there is a way down of that length. -/
theorem exists_path_of_descend {depth : Nat} : ∀ {g : Group}, l.descend depth g = none →
    ∃ path : List String, path.length = depth ∧ (g.name :: path).IsChain l.Holds := by
  induction depth with
  | zero => exact fun _ => ⟨[], rfl, .singleton _⟩
  | succ depth ih =>
    intro g h
    rw [descend] at h
    have hcut : (l.subgroups g.name).reverse.mapM (l.descend depth) = none := by
      cases hbelow : (l.subgroups g.name).reverse.mapM (l.descend depth) with
      | none => rfl
      | some below => simp [hbelow] at h
    obtain ⟨sub, hsub, hnone⟩ := exists_of_mapM_eq_none hcut
    obtain ⟨path, rfl, hpath⟩ := ih hnone
    exact ⟨sub.name :: path, rfl, .cons_cons ⟨sub, List.mem_reverse.1 hsub, rfl⟩ hpath⟩

/-- Without a loop no way down is longer than the number of groups. -/
theorem length_le_of_not_loops (h : ¬l.Loops) {path : List String}
    (hpath : (l.rootName :: path).IsChain l.Holds) : path.length ≤ l.branches.length := by
  have hbelow : (l.rootName :: path).Pairwise (TransGen l.Holds) :=
    (hpath.imp fun _ _ => TransGen.single).pairwise
  obtain ⟨hroot, hrest⟩ := List.pairwise_cons.1 hbelow
  have hnodup : path.Nodup := by
    refine hrest.imp_of_mem fun {x y} hx _ hxy heq => h ⟨x, (hroot x hx).to_reflTransGen, ?_⟩
    rwa [← heq] at hxy
  have hnames : path ⊆ l.branches.map (·.group.name) := by
    intro x hx
    obtain ⟨_, -, hlast⟩ := TransGen.tail'_iff.1 (hroot x hx)
    obtain ⟨b, hb, -, rfl⟩ := holds_iff.1 hlast
    exact List.mem_map_of_mem hb
  simpa using (hnodup.subperm hnames).length_le

theorem exists_outline_of_not_loops (h : ¬l.Loops) : ∃ visited, l.outline? = some visited := by
  cases houtline : l.outline? with
  | none =>
    obtain ⟨path, hlength, hpath⟩ := exists_path_of_descend houtline
    have hshort : path.length ≤ l.branches.length := length_le_of_not_loops h hpath
    omega
  | some visited => exact ⟨visited, rfl⟩

/-- The walk from the root has an end exactly if there is no loop below the root. -/
theorem exists_walk_iff : (∃ visited, l.Walk [l.rootGroup] visited) ↔ ¬l.Loops := by
  constructor
  · rintro ⟨visited, hwalk⟩ ⟨x, hreach, hloop⟩
    exact hwalk.no_loop l.rootGroup List.mem_cons_self x hreach hloop
  · intro hloops
    obtain ⟨visited, houtline⟩ := exists_outline_of_not_loops hloops
    exact ⟨visited, walk_of_descend houtline⟩

/-- The outline is what the walk from the root comes to. -/
theorem outline?_eq_some_iff {visited : List Group} :
    l.outline? = some visited ↔ l.Walk [l.rootGroup] visited := by
  refine ⟨walk_of_descend, fun hwalk => ?_⟩
  obtain ⟨visited', houtline⟩ := exists_outline_of_not_loops (exists_walk_iff.1 ⟨visited, hwalk⟩)
  rw [houtline, (walk_of_descend houtline).unique hwalk]

/-- Every group has a name of its own and can be reached from the root, which lies in no group. -/
structure IsTree (l : ContactList) : Prop where
  names : (l.branches.map (·.group.name)).Nodup
  root : ⟨l.rootGroup, none⟩ ∈ l.branches
  reached : ∀ b ∈ l.branches, ReflTransGen l.Holds l.rootName b.group.name

namespace IsTree

variable (h : l.IsTree)

include h

theorem branch_unique {b b' : Branch} (hb : b ∈ l.branches) (hb' : b' ∈ l.branches)
    (hname : b.group.name = b'.group.name) : b = b' :=
  List.inj_on_of_nodup_map h.names hb hb' hname

theorem not_holds_root (x : String) : ¬l.Holds x l.rootName := by
  intro hroot
  obtain ⟨b, hb, hparent, hname⟩ := holds_iff.1 hroot
  rw [h.branch_unique hb h.root hname] at hparent
  cases hparent

theorem parent_unique {x y z : String} (hx : l.Holds x z) (hy : l.Holds y z) : x = y := by
  obtain ⟨b, hb, hparent, rfl⟩ := holds_iff.1 hx
  obtain ⟨b', hb', hparent', hname⟩ := holds_iff.1 hy
  rw [h.branch_unique hb' hb hname, hparent] at hparent'
  exact Option.some.inj hparent'

/-- A loop would go up, parent by parent, to one through the root. -/
theorem not_loops : ¬l.Loops := by
  rintro ⟨x, hreach, hloop⟩
  induction hreach with
  | refl =>
    obtain ⟨y, -, hroot⟩ := TransGen.tail'_iff.1 hloop
    exact h.not_holds_root y hroot
  | tail _ hstep ih =>
    obtain ⟨y, hback, hlast⟩ := TransGen.tail'_iff.1 hloop
    obtain rfl := h.parent_unique hstep hlast
    exact ih (.head' hstep hback)

theorem group?_eq {b : Branch} (hb : b ∈ l.branches) : l.group? b.group.name = some b.group := by
  obtain ⟨g, hg⟩ := Option.isSome_iff_exists.1 ((isSome_group?_iff ..).2 ⟨b, hb, rfl⟩)
  obtain ⟨b', hfind, rfl⟩ := Option.map_eq_some_iff.1 hg
  rw [hg, h.branch_unique (List.mem_of_find?_eq_some hfind) hb (name_of_group? hg)]

theorem count_subgroups {x y : String} (hx : l.Holds y x) (z : String) :
    ((l.subgroups z).map Group.name).count x = if z = y then 1 else 0 := by
  have hnodup : ((l.subgroups z).map Group.name).Nodup := by
    rw [subgroups, List.map_map]
    exact h.names.sublist (List.filter_sublist.map _)
  split
  · next hz =>
    obtain ⟨sub, hsub, rfl⟩ := hx
    exact List.count_eq_one_of_mem hnodup (List.mem_map_of_mem (hz ▸ hsub))
  · next hz =>
    refine List.count_eq_zero.2 fun hmem => hz ?_
    obtain ⟨sub, hsub, hname⟩ := List.mem_map.1 hmem
    exact h.parent_unique ⟨sub, hsub, hname⟩ hx

variable {visited : List Group} (hwalk : l.Walk [l.rootGroup] visited)

include hwalk

theorem exists_branch_of_mem {g : Group} (hg : g ∈ visited) : ∃ b ∈ l.branches, b.group = g := by
  rcases List.mem_cons.1 (hwalk.perm.subset hg) with rfl | hg
  · exact ⟨_, h.root, rfl⟩
  · obtain ⟨g', -, hsub⟩ := List.mem_flatMap.1 hg
    obtain ⟨b, hb, -, hbg⟩ := mem_subgroups.1 hsub
    exact ⟨b, hb, hbg⟩

/-- The walk comes to a group as often as to the one that it lies in. -/
theorem count_eq_one {x : String} (hx : ReflTransGen l.Holds l.rootName x) :
    (visited.map Group.name).count x = 1 := by
  have hcount (x : String) : (visited.map Group.name).count x = [l.rootName].count x +
      (visited.map fun g => ((l.subgroups g.name).map Group.name).count x).sum := by
    rw [(hwalk.perm.map Group.name).count_eq, List.map_append, List.count_append, List.map_flatMap,
      List.count_flatMap]
    rfl
  induction hx with
  | refl =>
    have hnone : ∀ g ∈ visited, ((l.subgroups g.name).map Group.name).count l.rootName = 0 := by
      intro g _
      refine List.count_eq_zero.2 fun hmem => ?_
      obtain ⟨sub, hsub, hname⟩ := List.mem_map.1 hmem
      exact h.not_holds_root g.name ⟨sub, hsub, hname⟩
    rw [hcount, List.map_congr_left hnone]
    simp
  | @tail y x _ hstep ih =>
    have hroot : l.rootName ≠ x := by
      rintro rfl
      exact h.not_holds_root y hstep
    have hsum (gs : List Group) :
        (gs.map fun g => if g.name = y then 1 else 0).sum = (gs.map Group.name).count y := by
      induction gs with
      | nil => rfl
      | cons g gs ihgs => simp [List.count_cons, ihgs, Nat.add_comm]
    rw [hcount, List.map_congr_left fun g _ => h.count_subgroups hstep g.name, hsum, ih,
      List.count_singleton, beq_false_of_ne hroot]
    rfl

/-- No name comes up twice in the walk through a tree. -/
theorem nodup_names : (visited.map Group.name).Nodup := by
  refine List.nodup_iff_count_le_one.2 fun x => ?_
  by_cases hx : x ∈ visited.map Group.name
  · obtain ⟨g, hg, rfl⟩ := List.mem_map.1 hx
    obtain ⟨b, hb, rfl⟩ := h.exists_branch_of_mem hwalk hg
    exact Nat.le_of_eq (h.count_eq_one hwalk (h.reached b hb))
  · rw [List.count_eq_zero.2 hx]
    exact Nat.zero_le 1

/-- Every group of a tree is found in the walk. -/
theorem mem_names {b : Branch} (hb : b ∈ l.branches) : b.group.name ∈ visited.map Group.name := by
  rw [← List.count_pos_iff, h.count_eq_one hwalk (h.reached b hb)]
  exact Nat.one_pos

end IsTree

end Roster.ContactList
