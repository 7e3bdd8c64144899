import Roster.Proofs.Quiet

/-! What each operation makes of the list. -/

namespace Roster

namespace ContactList

/-- An edit passes over the entries of others. -/
theorem modifyFirst_append {x : String} {ms : List Member}
    (h : ms.find? (·.contact.identifier = x) = none) (f : Member → Member) (rest : List Member) :
    modifyFirst x f (ms ++ rest) = ms ++ modifyFirst x f rest := by
  induction ms with
  | nil => rfl
  | cons m ms ih =>
    by_cases hm : m.contact.identifier = x
    · simp [hm] at h
    · simp only [List.cons_append, modifyFirst, hm, if_false, List.cons.injEq, true_and]
      exact ih (by simpa [hm] using h)

/-- An edit of somebody who is not there changes nothing. -/
theorem modifyMember_of_unknown {l : ContactList} {x : String} (h : l.contact? x = none)
    (f : Member → Member) : l.modifyMember x f = l := by
  have hfirst := modifyFirst_append (Option.map_eq_none_iff.1 h) f []
  rw [List.append_nil, modifyFirst, List.append_nil] at hfirst
  rw [modifyMember, hfirst]

theorem removeMember_of_unknown {l : ContactList} {x : String} (h : l.contact? x = none) :
    l.removeMember x = l := by
  have hfind := Option.map_eq_none_iff.1 h
  rw [removeMember, List.eraseP_of_forall_not]
  exact fun m hm => by simpa using List.find?_eq_none.1 hfind m hm

/-- A list without any entry of a contact. -/
def detached (l : ContactList) (x : String) : ContactList :=
  { l with members := l.members.filter (·.contact.identifier ≠ x) }

theorem detach_ok {l l' : ContactList} {x : String} (h : l.detach x = .ok l') :
    l' = l.detached x := by
  unfold detach at h
  split at h
  · cases h
  · cases h
    rfl

theorem entries_detached {l : ContactList} {x y : String} (hxy : x ≠ y) :
    (l.detached y).entries x = l.entries x := by
  rw [entries, detached, List.filter_filter]
  refine List.filter_congr fun m _ => ?_
  by_cases hm : m.contact.identifier = x
  · simp [hm, hxy]
  · simp [hm]

theorem entries_removeMember {l : ContactList} {x y : String} (hxy : x ≠ y) :
    (l.removeMember y).entries x = l.entries x := by
  have h (ms : List Member) : (ms.eraseP (·.contact.identifier = y)).filter
      (·.contact.identifier = x) = ms.filter (·.contact.identifier = x) := by
    induction ms with
    | nil => rfl
    | cons m ms ih =>
      by_cases hm : m.contact.identifier = y
      · simp [hm, Ne.symm hxy]
      · by_cases hx : m.contact.identifier = x
        · simp [hx, hxy, ih]
        · simp [hm, hx, ih]
  exact h l.members

/-- Entries of a contact are dropped: none, every one, or the first. -/
inductive Drops (x : String) (l : ContactList) : ContactList → Prop
  | none : Drops x l l
  | all : Drops x l (l.detached x)
  | first : Drops x l (l.removeMember x)

section Drops

variable {x : String} {l l' : ContactList} (h : l.Drops x l')

include h

theorem Drops.members : l'.members.Sublist l.members := by
  cases h with
  | none => exact List.Sublist.refl _
  | all => exact List.filter_sublist
  | first => exact List.eraseP_sublist

theorem Drops.branches : l'.branches = l.branches := by
  cases h <;> rfl

theorem Drops.rootName : l'.rootName = l.rootName := by
  cases h <;> rfl

theorem Drops.entries_of_ne {y : String} (hyx : y ≠ x) : l'.entries y = l.entries y := by
  cases h with
  | none => rfl
  | all => exact entries_detached hyx
  | first => exact entries_removeMember hyx

end Drops

/-- A contact in another group, if there is such a group. -/
def shift (l : ContactList) (x group : String) : ContactList :=
  if (l.group? group).isSome then l.modifyMember x fun m => { m with group := group } else l

theorem relocate_ok {l l' : ContactList} {x group : String} (h : l.relocate x group = .ok l') :
    l' = l.shift x group := by
  unfold relocate at h
  split at h
  · cases h
  · next hg =>
    split at h
    · cases h
    · cases h
      rw [shift, if_pos (by simpa [Option.isSome_iff_ne_none] using hg)]

theorem relocate_error {l : ContactList} {x group : String} {f : Failure}
    (h : l.relocate x group = .error f) : l.shift x group = l := by
  unfold relocate at h
  split at h
  · next hg => rw [shift, if_neg (by simpa using hg)]
  · split at h
    · next hx =>
      rw [shift, modifyMember_of_unknown (by simpa using hx), ite_self]
    · cases h

theorem renameFirst_self (name : String) (bs : List Branch) : renameFirst name name bs = bs := by
  induction bs with
  | nil => rfl
  | cons b bs ih =>
    by_cases hb : b.group.name = name
    · subst hb
      simp [renameFirst]
    · simp [renameFirst, hb, ih]

theorem mem_renameFirst {name newName : String} {b : Branch} {bs : List Branch} (h : b ∈ bs)
    (hb : b.group.name ≠ name) : b ∈ renameFirst name newName bs := by
  induction bs with
  | nil => cases h
  | cons b' bs ih =>
    rcases List.mem_cons.1 h with rfl | h
    · simp [renameFirst, hb]
    · unfold renameFirst
      split
      · exact List.mem_cons_of_mem _ h
      · exact List.mem_cons_of_mem _ (ih h)

theorem renameGroup_self (l : ContactList) (name : String) : l.renameGroup name name = l := by
  have hmembers : l.members.map (fun m => if m.group = name then { m with group := name } else m) =
      l.members := by
    refine List.map_id'' (fun m => ?_) _
    split
    · next hm => subst hm; rfl
    · rfl
  rw [renameGroup, hmembers, renameFirst_self]

end ContactList

namespace Session

open ContactList

/-- The server takes part in changes of the list. -/
def able (s : Session) : Bool := s.server.registered && !s.keeper.refuses

@[simp] theorem announceListed_list (s : Session) (n : Notice) :
    (s.announceListed n).list = s.list := by
  unfold announceListed
  split <;> rfl

theorem commit_of_refuses {s : Session} (h : s.keeper.refuses = true) (op : ListOperation) :
    s.commit op = .error (.brokenDown .network "server refused the operation") := by
  simp [commit, h]

theorem commit_of_not_refuses {s : Session} (h : s.keeper.refuses = false) (op : ListOperation) :
    s.commit op = .ok (s.record (.listed op)) := by
  simp [commit, h]

theorem addContact_list (s : Session) (group : Option String) (x : String) :
    (s.addContact group x).1.list =
      if s.keeper.refuses = false then
        s.list.addMember (.resolve x) (group.getD s.list.defaultGroup)
      else s.list := by
  cases h : s.keeper.refuses with
  | true => simp [addContact, commit_of_refuses h]
  | false => simp [addContact, commit_of_not_refuses h, record]

theorem deleteContact_list (s : Session) (group x : String) :
    (s.deleteContact group x).1.list =
      if s.keeper.refuses = false then s.list.removeMember x else s.list := by
  cases h : s.keeper.refuses with
  | true => simp [deleteContact, commit_of_refuses h]
  | false =>
    simp only [deleteContact, commit_of_not_refuses h, record, if_true]
    split
    · next hx => rw [removeMember_of_unknown hx]
    · simp

theorem shiftContact_list (s : Session) (x group : String) :
    (s.shiftContact x group).1.list =
      if s.keeper.refuses = false then s.list.shift x group else s.list := by
  cases h : s.keeper.refuses with
  | true => simp [shiftContact, commit_of_refuses h]
  | false =>
    simp only [shiftContact, commit_of_not_refuses h, record, if_true]
    split
    · next hx => rw [relocate_error hx]
    · next hx =>
      split <;> simp [relocate_ok hx]

theorem storeGroup_list (s : Session) (name : String) :
    (s.storeGroup name).1.list =
      if s.keeper.refuses = false then s.list.addGroup (.stored name) else s.list := by
  cases h : s.keeper.refuses with
  | true => simp [storeGroup, commit_of_refuses h]
  | false => simp [storeGroup, commit_of_not_refuses h, record]

theorem dropGroup_list (s : Session) (name : String) :
    (s.dropGroup name).1.list =
      if s.keeper.refuses = false then s.list.removeGroup name else s.list := by
  cases h : s.keeper.refuses with
  | true => simp [dropGroup, commit_of_refuses h]
  | false =>
    simp only [dropGroup, commit_of_not_refuses h, record, if_true]
    split <;> simp

theorem retitleGroup_list (s : Session) (name newName : String) :
    (s.retitleGroup name newName).1.list =
      if s.keeper.refuses = false then s.list.renameGroup name newName else s.list := by
  cases h : s.keeper.refuses with
  | true => simp [retitleGroup, commit_of_refuses h]
  | false =>
    simp only [retitleGroup, commit_of_not_refuses h, record, if_true]
    split <;> simp

theorem guarded_list {α : Type} (s : Session) (check : Except Failure α)
    (next : α → Session × Except Failure Unit) :
    (s.guarded check next).1.list =
      match check with
      | .error _ => s.list
      | .ok a => (next a).1.list := by
  cases check <;> rfl

theorem subscribe_list (s : Session) (x : String) :
    (s.subscribe x).1.list =
      if s.able then s.list.addMember (.resolve x) s.list.defaultGroup else s.list := by
  rw [subscribe, guarded_list]
  cases hr : s.server.registered <;> cases hk : s.keeper.refuses <;>
    simp [requireConnection, able, hr, hk, addContact_list]

/-- An operation on a group that has to exist. -/
theorem guarded_group_list (s : Session) (name : String)
    (next : Group → Session × Except Failure Unit) :
    (s.guarded (do s.requireConnection; s.requireGroup name) next).1.list =
      if s.server.registered then (s.list.group? name).elim s.list fun g => (next g).1.list
      else s.list := by
  rw [guarded_list]
  cases hr : s.server.registered <;> cases hg : s.list.group? name <;>
    simp [requireConnection, requireGroup, hr, hg, bind, Except.bind]

theorem subscribeIn_list (s : Session) (group x : String) :
    (s.subscribeIn group x).1.list =
      if s.able ∧ (s.list.group? group).isSome then s.list.addMember (.resolve x) group
      else s.list := by
  rw [subscribeIn, guarded_group_list]
  cases hg : s.list.group? group with
  | none => simp
  | some g =>
    cases hr : s.server.registered <;> cases hk : s.keeper.refuses <;>
      simp [able, hr, hk, name_of_group? hg, addContact_list]

theorem removeGroup_list (s : Session) (name : String) :
    (s.removeGroup name).1.list =
      if s.able ∧ (s.list.group? name).isSome then s.list.removeGroup name else s.list := by
  rw [removeGroup, guarded_group_list]
  cases hg : s.list.group? name with
  | none => simp
  | some g =>
    cases hr : s.server.registered <;> cases hk : s.keeper.refuses <;>
      simp [able, hr, hk, name_of_group? hg, dropGroup_list]

theorem renameGroup_list (s : Session) (name newName : String) :
    (s.renameGroup name newName).1.list =
      if s.able ∧ (s.list.group? name).isSome then s.list.renameGroup name newName
      else s.list := by
  rw [renameGroup, guarded_group_list]
  cases hg : s.list.group? name with
  | none => simp
  | some g =>
    cases hr : s.server.registered <;> cases hk : s.keeper.refuses <;>
      simp [able, hr, hk, name_of_group? hg, retitleGroup_list]

theorem createGroup_list (s : Session) (parent name : String) :
    (s.createGroup parent name).1.list =
      if s.able ∧ (s.list.group? parent).any Group.canContainSubgroups then
        s.list.addGroup (.stored name)
      else s.list := by
  rw [createGroup, guarded_list]
  cases hr : s.server.registered with
  | false => simp [requireParent, requireConnection, able, hr, bind, Except.bind]
  | true =>
    cases hg : s.list.group? parent with
    | none => simp [requireParent, requireConnection, requireGroup, hr, hg, bind, Except.bind]
    | some g =>
      cases hc : g.canContainSubgroups <;> cases hk : s.keeper.refuses <;>
        simp [requireParent, requireConnection, requireGroup, able, hr, hg, hc, hk, bind,
          Except.bind, throw, throwThe, MonadExceptOf.throw, pure, Except.pure, storeGroup_list]

theorem requireMovable_ok {s : Session} {x group : String} {target : Group}
    (h : s.requireMovable x group = .ok target) :
    target.name = group ∧ group ≠ s.settings.awaitingGroup ∧
      (s.list.parentGroup? x).map Group.name ≠ some s.settings.awaitingGroup := by
  simp only [requireMovable, bind, Except.bind, throw, throwThe, MonadExceptOf.throw, pure,
    Except.pure] at h
  split at h
  · cases h
  split at h
  · cases h
  split at h
  · cases h
  next g hg =>
    have hname : g.name = group := by
      unfold requireGroup at hg
      split at hg
      · next h' => cases hg; exact name_of_group? h'
      · cases hg
    split at h
    · cases h
    · next hinto =>
      split at h
      · cases h
      · next hout =>
        cases h
        refine ⟨hname, hname ▸ hinto, fun hparent => hout ?_⟩
        obtain ⟨parent, hp, hn⟩ := Option.map_eq_some_iff.1 hparent
        simp [hp, hn]

/-- Nobody is moved into the awaiting group or out of it. -/
theorem moveContact_list (s : Session) (x group : String) :
    (s.moveContact x group).1.list = s.list ∨
      ((s.moveContact x group).1.list = s.list.shift x group ∧ group ≠ s.settings.awaitingGroup ∧
        (s.list.parentGroup? x).map Group.name ≠ some s.settings.awaitingGroup) := by
  rw [moveContact, guarded_list]
  split
  · exact .inl rfl
  · next target h =>
    obtain ⟨hname, hmovable⟩ := requireMovable_ok h
    rw [shiftContact_list, hname]
    split
    · exact .inr ⟨rfl, hmovable⟩
    · exact .inl rfl

theorem unsubscribe_list (s : Session) (x : String) :
    s.list.Drops x (s.unsubscribe x).1.list := by
  have hdelete (g : String) : s.list.Drops x (s.deleteContact g x).1.list := by
    rw [deleteContact_list]
    split
    · exact .first
    · exact .none
  rw [unsubscribe, guarded_list]
  split
  · exact .none
  · next contactGroup _ =>
    obtain ⟨contact, group⟩ := contactGroup
    dsimp only
    split
    · rw [guarded_list]
      split
      · exact .none
      · next h =>
        rw [detach_ok h]
        exact .all
    · split
      · exact hdelete _
      · exact hdelete _

/-- Adds a contact from elsewhere where it belongs, if there is such a group. -/
theorem createUnresolvedContact_list (s : Session) (x : String) (data parent : Option String) :
    (s.createUnresolvedContact x data parent).1.list =
      if (s.list.group? (parent.getD s.list.rootName)).isSome then
        s.list.addMember { Contact.unresolved x with persistentData := data }
          (parent.getD s.list.rootName)
      else s.list := by
  cases parent with
  | none =>
    cases hg : s.list.group? s.list.rootName <;>
      simp [createUnresolvedContact, createUnresolved, rootGroup, Group.root, Group.stored, hg, bind,
        Except.bind]
  | some name =>
    cases hg : s.list.group? name with
    | none => simp [createUnresolvedContact, requireGroup, hg, bind, Except.bind]
    | some g =>
      simp [createUnresolvedContact, requireGroup, createUnresolved, hg, name_of_group? hg, bind,
        Except.bind]

end Session

end Roster
