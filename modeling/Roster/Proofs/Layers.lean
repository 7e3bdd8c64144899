import Roster.Settings.Source

/-! Trees laid over one another: what a member of the result is, said by the members it comes from. -/

namespace Roster.Tree

@[simp] theorem get?_table (ms : List (String × Tree)) (name : String) :
    (table ms).get? name = ms.lookup name := rfl

theorem lookup_put {α : Type} (name other : String) (a : α) (ms : List (String × α)) :
    (put name a ms).lookup other = if name = other then some a else ms.lookup other := by
  split
  · next h => rw [← h, lookup_put_self]
  · next h => exact lookup_put_of_ne (Ne.symm h) a ms

theorem setAt_nil (new old : Tree) : setAt new [] old = overlay old new := rfl

theorem get?_setAt_cons (new : Tree) (k : String) (path : List String) (old : Tree) (name : String) :
    (setAt new (k :: path) old).get? name =
      if fold k = name then some (setAt new path ((old.get? name).getD nothing)) else old.get? name := by
  rw [setAt, get?_table, lookup_put]
  split
  · next h => rw [h]
  · rfl

theorem overlay_table (old : Tree) (ms : List (String × Tree)) :
    overlay old (table ms) = table (membersOver old.members ms) := by
  rw [overlay]

theorem overlay_text (old : Tree) (s : String) : overlay old (text s) = text s := by
  rw [overlay]
  nofun

/-- Every member of the name counts, the later over the earlier. -/
theorem lookup_membersOver (old ms : List (String × Tree)) (name : String) :
    (membersOver old ms).lookup name = (ms.filter fun m => fold m.1 = name).foldl
      (fun t m => some (overlay (t.getD nothing) m.2)) (old.lookup name) := by
  induction ms generalizing old with
  | nil => rw [membersOver]; rfl
  | cons m ms ih =>
    obtain ⟨k, t⟩ := m
    rw [membersOver, ih, lookup_put, List.filter_cons]
    by_cases hk : fold k = name
    · rw [if_pos hk, if_pos (decide_eq_true hk), List.foldl_cons, hk]
    · rw [if_neg hk, if_neg (by simpa using hk)]

theorem pieces_ne_nil (cs : List Char) : pieces cs ≠ [] := by
  cases cs with
  | nil => exact List.cons_ne_nil _ _
  | cons c r =>
    unfold pieces
    split <;> exact List.cons_ne_nil _ _

theorem path_ne_nil (name : String) : path name ≠ [] := by
  rw [path]
  split
  · simpa using pieces_ne_nil name.toList
  · exact List.cons_ne_nil _ _

theorem pieces_cons_of_ne {c : Char} (hc : c ≠ '.') (r : List Char) :
    ∃ p ps, pieces r = p :: ps ∧ pieces (c :: r) = (c :: p) :: ps := by
  obtain ⟨p, ps, hr⟩ := List.exists_cons_of_ne_nil (pieces_ne_nil r)
  exact ⟨p, ps, hr, pieces.eq_3 r c p ps hc hr⟩

/-- The first piece goes up to the first point. -/
theorem exists_behind_piece {cs p : List Char} {ps : List (List Char)} (h : pieces cs = p :: ps) :
    ∃ r, cs = p ++ r ∧ ∀ c ∈ r.head?, c = '.' := by
  induction cs generalizing p ps with
  | nil =>
    obtain ⟨rfl, -⟩ := List.cons.inj h
    exact ⟨[], rfl, nofun⟩
  | cons c r ih =>
    by_cases hc : c = '.'
    · subst hc
      obtain ⟨rfl, -⟩ := List.cons.inj (h : [] :: pieces r = p :: ps)
      exact ⟨'.' :: r, rfl, fun c h => (Option.some.inj h).symm⟩
    · obtain ⟨q, qs, hr, hcons⟩ := pieces_cons_of_ne hc r
      rw [hcons] at h
      obtain ⟨rfl, -⟩ := List.cons.inj h
      obtain ⟨r', rfl, hr'⟩ := ih hr
      exact ⟨r', rfl, hr'⟩

theorem eq_of_pieces_eq_singleton {cs p : List Char} (h : pieces cs = [p]) : p = cs := by
  induction cs generalizing p with
  | nil => cases h; rfl
  | cons c r ih =>
    by_cases hc : c = '.'
    · subst hc
      exact absurd (List.cons.inj h).2 (pieces_ne_nil r)
    · obtain ⟨q, qs, hr, hcons⟩ := pieces_cons_of_ne hc r
      rw [hcons] at h
      obtain ⟨rfl, rfl⟩ := List.cons.inj h
      rw [ih hr]

theorem eq_of_path_eq_singleton {name k : String} (h : path name = [k]) : k = name := by
  rw [path] at h
  split at h
  · obtain ⟨p, ps, hpieces⟩ := List.exists_cons_of_ne_nil (pieces_ne_nil name.toList)
    rw [hpieces, List.map_cons] at h
    obtain ⟨rfl, hnil⟩ := List.cons.inj h
    rw [List.map_eq_nil_iff.1 hnil] at hpieces
    rw [eq_of_pieces_eq_singleton hpieces, String.ofList_toList]
  · exact (List.cons.inj h).1.symm

theorem exists_behind_name {name k : String} {ks : List String} (h : path name = k :: ks) :
    ∃ r, name.toList = k.toList ++ r ∧ ∀ c ∈ r.head?, c = '.' := by
  rw [path] at h
  split at h
  · obtain ⟨p, ps, hpieces⟩ := List.exists_cons_of_ne_nil (pieces_ne_nil name.toList)
    rw [hpieces, List.map_cons] at h
    obtain ⟨rfl, -⟩ := List.cons.inj h
    rw [String.toList_ofList]
    exact exists_behind_piece hpieces
  · obtain ⟨rfl, -⟩ := List.cons.inj h
    exact ⟨[], (List.append_nil _).symm, nofun⟩

theorem pieces_of_not_mem {cs : List Char} (h : '.' ∉ cs) : pieces cs = [cs] := by
  induction cs with
  | nil => rfl
  | cons c r ih =>
    rcases not_or.1 (mt List.mem_cons.2 h) with ⟨hc, hr⟩
    obtain ⟨p, ps, hpieces, hcons⟩ := pieces_cons_of_ne (Ne.symm hc) r
    rw [ih hr] at hpieces
    cases hpieces
    exact hcons

/-- A point parts what is before it from the rest. -/
theorem pieces_append {cs : List Char} (h : '.' ∉ cs) (r : List Char) :
    pieces (cs ++ '.' :: r) = cs :: pieces r := by
  induction cs with
  | nil => rfl
  | cons c cs ih =>
    rcases not_or.1 (mt List.mem_cons.2 h) with ⟨hc, hcs⟩
    obtain ⟨p, ps, hpieces, hcons⟩ := pieces_cons_of_ne (Ne.symm hc) (cs ++ '.' :: r)
    rw [ih hcs] at hpieces
    cases hpieces
    exact hcons

/-- A name that can stand in a path. -/
def isName (name : String) : Bool := !name.toList.isEmpty && name.toList.all isNameChar

theorem point_not_mem {name : String} (h : isName name = true) : '.' ∉ name.toList := by
  intro hpoint
  have hall := (Bool.and_eq_true_iff.1 h).2
  exact absurd (List.all_eq_true.1 hall '.' hpoint) (by decide)

theorem path_of_isName {name : String} (h : isName name = true) : path name = [name] := by
  rw [path, pieces_of_not_mem (point_not_mem h)]
  split
  · rw [List.map_singleton, String.ofList_toList]
  · rfl

theorem path_point {a b : String} (ha : isName a = true) (hb : isName b = true) :
    path (a ++ "." ++ b) = [a, b] := by
  have hpieces : pieces (a ++ "." ++ b).toList = [a.toList, b.toList] := by
    rw [String.toList_append, String.toList_append, List.append_assoc,
      ← pieces_of_not_mem (point_not_mem hb)]
    exact pieces_append (point_not_mem ha) b.toList
  have hnames : ([a.toList, b.toList].all fun p => !p.isEmpty && p.all isNameChar) = true := by
    rw [List.all_cons, List.all_cons, List.all_nil, Bool.and_true]
    exact Bool.and_eq_true_iff.2 ⟨ha, hb⟩
  rw [path, hpieces, if_pos hnames, List.map_cons, List.map_singleton, String.ofList_toList,
    String.ofList_toList]

end Roster.Tree
