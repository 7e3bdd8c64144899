import Roster.Proofs.Listing

/-! What the handshake makes of a session: parking and releasing in full, and the list after each
event. -/

namespace Roster

/-- A contact that waits for an answer, with the group it belongs to. -/
def Contact.parked (x origin : String) : Contact :=
  { Contact.unresolved x with awaitingAuthorization := true, structuralParent := some origin }

/-- A contact that has its answer. -/
def Contact.released (c : Contact) : Contact :=
  { c with awaitingAuthorization := false, resolved := true, structuralParent := none }

namespace ContactList

theorem modifyMember_modifyMember (l : ContactList) (x : String) (f g : Member → Member)
    (hf : ∀ m, m.contact.identifier = x → (f m).contact.identifier = x) :
    (l.modifyMember x f).modifyMember x g = l.modifyMember x (g ∘ f) := by
  have h (ms : List Member) : modifyFirst x g (modifyFirst x f ms) = modifyFirst x (g ∘ f) ms := by
    induction ms with
    | nil => rfl
    | cons m ms ih =>
      by_cases hm : m.contact.identifier = x
      · simp [modifyFirst, hm, hf m hm]
      · simp [modifyFirst, hm, ih]
  simp only [modifyMember, h]

/-- An edit of the last entry, when there is no other. -/
theorem modifyMember_addMember {l : ContactList} {c : Contact} (h : l.contact? c.identifier = none)
    (g : String) (f : Member → Member) :
    (l.addMember c g).modifyMember c.identifier f =
      l.addMember (f ⟨c, g⟩).contact (f ⟨c, g⟩).group := by
  rw [modifyMember, addMember, modifyFirst_append (Option.map_eq_none_iff.1 h)]
  simp [modifyFirst, addMember]

theorem contact?_addMember_isSome (l : ContactList) (c : Contact) (g : String) :
    ((l.addMember c g).contact? c.identifier).isSome := by
  rw [contact?_eq_entries, entries_addMember, if_pos rfl]
  simp

theorem update_addMember {l : ContactList} {c c' : Contact} (h : l.contact? c.identifier = none)
    (g : String) (hc : c'.identifier = c.identifier) :
    (l.addMember c g).update c' = .ok (l.addMember c' g) := by
  have hknown := contact?_addMember_isSome l c g
  rw [update, hc, Option.isNone_eq_false_iff.2 hknown, if_neg Bool.false_ne_true,
    modifyMember_addMember h]

theorem relocate_addMember {l : ContactList} {c : Contact} (h : l.contact? c.identifier = none)
    (g : String) {g' : String} (hg : (l.group? g').isSome) :
    (l.addMember c g).relocate c.identifier g' = .ok (l.addMember c g') := by
  have hknown := contact?_addMember_isSome l c g
  have hg' : ((l.addMember c g).group? g').isSome := hg
  rw [relocate, Option.isNone_eq_false_iff.2 hg', Option.isNone_eq_false_iff.2 hknown,
    if_neg Bool.false_ne_true, if_neg Bool.false_ne_true, modifyMember_addMember h]

end ContactList

namespace Session

open ContactList

/-- The group that a new contact belongs to: the one that is named, or the root. -/
def home (s : Session) (parent : Option String) : Group :=
  (parent.bind s.list.group?).getD s.list.rootGroup

theorem home_name (s : Session) (parent : Option String) :
    (s.home parent).name = s.list.rootName ∨ parent = some (s.home parent).name := by
  unfold home
  cases h : parent.bind s.list.group? with
  | none => exact .inl rfl
  | some g =>
    obtain ⟨name, hname, hg⟩ := Option.bind_eq_some_iff.1 h
    rw [Option.getD_some, name_of_group? hg]
    exact .inr hname

/-- The group of parked contacts is there. -/
def Parks (s : Session) : Prop := (s.list.group? s.settings.awaitingGroup).isSome

/-- The group of parked contacts as it is, or as it will be made. -/
def awaitingGroup (s : Session) : Group :=
  s.awaitingGroup?.getD (.virtual s.settings.awaitingGroup)

/-- The list, with the group of parked contacts in it. -/
def awaitingList (s : Session) : ContactList :=
  if s.awaitingGroup?.isSome then s.list
  else s.list.addGroup (.virtual s.settings.awaitingGroup)

/-- What is told when the group of parked contacts is made. -/
def awaitingNews (s : Session) : List Occurrence :=
  if s.awaitingGroup?.isSome then []
  else s.deliveries (.group ⟨.created, .virtual s.settings.awaitingGroup, some s.list.rootGroup⟩)

theorem awaitingGroup_name (s : Session) : s.awaitingGroup.name = s.settings.awaitingGroup := by
  unfold awaitingGroup
  cases h : s.awaitingGroup? with
  | none => rfl
  | some g => exact name_of_group? h

theorem ensureAwaitingGroup_eq (s : Session) : s.ensureAwaitingGroup =
    ({ s with list := s.awaitingList, trace := s.trace ++ s.awaitingNews }, s.awaitingGroup) := by
  unfold ensureAwaitingGroup awaitingList awaitingNews awaitingGroup
  split
  · next h => simp [h]
  · next h => simp [h, announce, deliveries, ContactList.addGroup, rootGroup]

theorem group?_awaitingList (s : Session) :
    s.awaitingList.group? s.settings.awaitingGroup = some s.awaitingGroup := by
  unfold awaitingList awaitingGroup
  cases h : s.awaitingGroup? with
  | some g => exact h
  | none =>
    have hfind : s.list.branches.find? (·.group.name = s.settings.awaitingGroup) = none :=
      Option.map_eq_none_iff.1 h
    rw [ContactList.group?, ContactList.addGroup]
    simp [List.find?_append, hfind, Group.virtual, Group.stored]

theorem group?_awaitingList_isSome {s : Session} {name : String}
    (h : (s.list.group? name).isSome) : (s.awaitingList.group? name).isSome := by
  unfold awaitingList
  split
  · exact h
  · exact isSome_group?_addGroup h _

theorem entries_awaitingList (s : Session) (x : String) :
    s.awaitingList.entries x = s.list.entries x := by
  unfold awaitingList
  split <;> rfl

theorem awaitingList_addMember (s : Session) (c : Contact) (g : String) :
    ({ s with list := s.list.addMember c g } : Session).awaitingList =
      s.awaitingList.addMember c g := by
  unfold awaitingList
  rw [apply_ite (ContactList.addMember · c g)]
  rfl

theorem awaitingGroup_addMember (s : Session) (c : Contact) (g : String) :
    ({ s with list := s.list.addMember c g } : Session).awaitingGroup = s.awaitingGroup := rfl

theorem contact?_awaitingList (s : Session) (x : String) :
    s.awaitingList.contact? x = s.list.contact? x := by
  rw [contact?_eq_entries, contact?_eq_entries, entries_awaitingList]

/-- Parking adds a stranger to the awaiting group, if there is a group that it belongs to. -/
theorem park_of_unknown {s : Session} {x : String} (hx : s.list.contact? x = none)
    (parent : Option String) : s.park x parent =
      if (s.list.group? (s.home parent).name).isSome then
        ({ s with
          list := s.awaitingList.addMember (.parked x (s.home parent).name) s.awaitingGroup.name
          trace := s.trace ++ s.awaitingNews ++ s.deliveries
            (.moved ⟨.parked x (s.home parent).name, s.home parent, s.awaitingGroup⟩) },
          .ok (.parked x (s.home parent).name))
      else (s, .error (unknownGroup (s.home parent).name)) := by
  by_cases hg : (s.list.group? (s.home parent).name).isSome
  · have hcreated : s.list.createUnresolved (s.home parent).name x none =
        .ok (s.list.addMember (.unresolved x) (s.home parent).name, .unresolved x) := by
      rw [createUnresolved, if_pos hg]
      rfl
    have hupdated : (s.list.addMember (.unresolved x) (s.home parent).name).update
        (.parked x (s.home parent).name) =
          .ok (s.list.addMember (.parked x (s.home parent).name) (s.home parent).name) :=
      update_addMember hx _ rfl
    have hmoved : (s.awaitingList.addMember (.parked x (s.home parent).name)
        (s.home parent).name).relocate x s.awaitingGroup.name =
          .ok (s.awaitingList.addMember (.parked x (s.home parent).name) s.awaitingGroup.name) := by
      have hunknown : s.awaitingList.contact? (Contact.parked x (s.home parent).name).identifier =
          none := (contact?_awaitingList s x).trans hx
      refine relocate_addMember hunknown _ ?_
      rw [awaitingGroup_name, group?_awaitingList]
      rfl
    rw [if_pos hg]
    simp only [home, Contact.parked] at *
    simp only [park, hcreated, hupdated, ensureAwaitingGroup_eq, awaitingList_addMember,
      awaitingGroup_addMember, hmoved]
    rfl
  · have hcreated : s.list.createUnresolved (s.home parent).name x none =
        .error (unknownGroup (s.home parent).name) := by
      rw [createUnresolved, if_neg hg]
    rw [if_neg hg]
    simp only [home] at *
    simp only [park, hcreated]

theorem released_eq (c : Contact) : c.released =
    { c with awaitingAuthorization := false, resolved := true, structuralParent := none } := rfl

/-- Releasing writes the contact back and, if it lies in the awaiting group, moves it to the group
that it belongs to, if there is such a group. -/
theorem release_of_known {s : Session} {c : Contact}
    (hc : (s.list.contact? c.identifier).isSome) : s.release c =
      let list := s.list.modifyMember c.identifier fun m => { m with contact := c.released }
      let origin := s.home c.structuralParent
      match (s.list.parentGroup? c.identifier).filter (·.name = s.settings.awaitingGroup) with
      | none => ({ s with list := list }, .ok c.released)
      | some awaiting =>
        if (s.list.group? origin.name).isSome then
          ({ s with
            list := list.modifyMember c.identifier fun m => { m with group := origin.name }
            trace := s.trace ++ s.deliveries (.moved ⟨c.released, awaiting, origin⟩) },
            .ok c.released)
        else ({ s with list := list }, .error (unknownGroup origin.name)) := by
  have hupdated : s.list.update c.released =
      .ok (s.list.modifyMember c.identifier fun m => { m with contact := c.released }) := by
    rw [update, show c.released.identifier = c.identifier from rfl,
      Option.isNone_eq_false_iff.2 hc, if_neg Bool.false_ne_true]
  have hknown : ((s.list.modifyMember c.identifier fun m =>
      { m with contact := c.released }).contact? c.identifier).isSome := by
    have hentries := entries_modifyMember s.list c.identifier c.identifier
      (fun m => { m with contact := c.released }) fun _ _ => rfl
    rw [contact?_eq_entries] at hc ⊢
    rw [hentries, if_pos rfl]
    cases h : s.list.entries c.identifier with
    | nil => simp [h] at hc
    | cons m ms => simp
  have hmoved (origin : String) : (s.list.modifyMember c.identifier fun m =>
      { m with contact := c.released }).relocate c.identifier origin =
        if (s.list.group? origin).isSome then
          .ok ((s.list.modifyMember c.identifier fun m =>
            { m with contact := c.released }).modifyMember c.identifier fun m =>
              { m with group := origin })
        else .error (unknownGroup origin) := by
    have hgroup : (s.list.modifyMember c.identifier fun m =>
      { m with contact := c.released }).group? origin = s.list.group? origin := rfl
    rw [relocate, Option.isNone_eq_false_iff.2 hknown, if_neg Bool.false_ne_true, hgroup]
    cases s.list.group? origin <;> rfl
  have horigin : (c.structuralParent.bind (s.list.modifyMember c.identifier fun m =>
      { m with contact := c.released }).group?).getD (s.list.modifyMember c.identifier fun m =>
        { m with contact := c.released }).rootGroup = s.home c.structuralParent := rfl
  simp only [release, ← released_eq, hupdated]
  cases (s.list.parentGroup? c.identifier).filter (·.name = s.settings.awaitingGroup) with
  | none => rfl
  | some awaiting =>
    simp only [horigin, hmoved]
    by_cases hg : (s.list.group? (s.home c.structuralParent).name).isSome
    · simp only [hg, if_true]
      rfl
    · simp only [hg, Bool.false_eq_true, if_false]

theorem sendAll_list (s : Session) (cs : List Command) : (s.sendAll cs).1.list = s.list := by
  induction cs generalizing s with
  | nil => rfl
  | cons c cs ih =>
    simp only [sendAll, send]
    split
    · next h =>
      split at h
      · cases h
      · cases h
        exact ih _
    · rfl

theorem petition_list (s : Session) (c : Contact) : (s.petition c).1.list = s.list := by
  unfold petition
  split
  · rfl
  · dsimp only
    split
    · rfl
    · split
      · next h => exact (congrArg (·.1.list) h).symm.trans (sendAll_list ..)
      · next h => exact (congrArg (·.1.list) h).symm.trans (sendAll_list ..)

theorem inform_list (s : Session) (c : Contact) (outcome : Decision) :
    (s.inform c outcome).list = s.list := by
  unfold inform
  split <;> rfl

theorem authorizationRequired_list (s : Session) (x : String) (parent : Option String) :
    (s.authorizationRequired x parent).1.list =
      if s.list.contact? x = none ∧ (s.list.group? (s.home parent).name).isSome then
        s.awaitingList.addMember (.parked x (s.home parent).name) s.settings.awaitingGroup
      else s.list := by
  unfold authorizationRequired
  cases hx : s.list.contact? x with
  | some c => simp [petition_list]
  | none =>
    rw [park_of_unknown hx, ← awaitingGroup_name]
    by_cases hg : (s.list.group? (s.home parent).name).isSome
    · simp [hg, petition_list]
    · simp [hg]

theorem authorizationRequested_list (s : Session) (x : String) :
    (s.authorizationRequested x).list =
      if s.list.contact? x = none then s.list.addMember (.volatile x) s.list.rootName
      else s.list := by
  have hanswer (t : Session) : (t.answer x).list = t.list := by
    unfold answer
    split
    · rfl
    · dsimp only
      split
      · rfl
      · exact sendAll_list ..
  rw [authorizationRequested_eq]
  cases hx : s.list.contact? x with
  | some c => simp [hanswer]
  | none => simp [hanswer, createVolatileContact, createVolatile, Contact.volatile]

/-- The group that a contact goes back to when it accepts: if it lies in the awaiting group, the one
it belongs to, if there is such a group. -/
def return? (s : Session) (c : Contact) : Option String :=
  if ((s.list.parentGroup? c.identifier).filter (·.name = s.settings.awaitingGroup)).isSome ∧
      (s.list.group? (s.home c.structuralParent).name).isSome then
    some (s.home c.structuralParent).name
  else none

theorem authorizationAccepted_list (s : Session) (x : String) (reason : Option String) :
    (s.authorizationAccepted x reason).list =
      (s.list.contact? x).elim s.list fun c =>
        s.list.modifyMember x fun m => ⟨c.released, (s.return? c).getD m.group⟩ := by
  unfold authorizationAccepted
  cases hx : s.list.contact? x with
  | none => rfl
  | some c =>
    obtain rfl := identifier_of_contact? hx
    have hc : (s.list.contact? c.identifier).isSome := by rw [hx]; rfl
    have hmoved (g : String) := modifyMember_modifyMember s.list c.identifier
      (fun m => { m with contact := c.released }) (fun m => { m with group := g }) fun _ _ => rfl
    simp only [release_of_known hc, return?, Option.elim_some]
    cases hp : (s.list.parentGroup? c.identifier).filter (·.name = s.settings.awaitingGroup) with
    | none => simp [inform_list]
    | some awaiting =>
      by_cases hg : (s.list.group? (s.home c.structuralParent).name).isSome
      · simp only [hg, if_true, Option.isSome_some, and_self, Option.getD_some, inform_list, hmoved]
        rfl
      · simp [hg]

/-- A parked contact that accepts goes back to the group it belongs to. -/
theorem authorizationAccepted_of_parked {s : Session} {x : String} {c : Contact} {awaiting : Group}
    (hc : s.list.contact? x = some c)
    (hp : (s.list.parentGroup? x).filter (·.name = s.settings.awaitingGroup) = some awaiting)
    (hg : (s.list.group? (s.home c.structuralParent).name).isSome) (reason : Option String) :
    s.authorizationAccepted x reason =
      ({ s with
        list := s.list.modifyMember x fun _ => ⟨c.released, (s.home c.structuralParent).name⟩
        trace := s.trace ++
          s.deliveries (.moved ⟨c.released, awaiting, s.home c.structuralParent⟩) } : Session).inform
        c.released ⟨.accept, reason⟩ := by
  obtain rfl := identifier_of_contact? hc
  have hknown : (s.list.contact? c.identifier).isSome := by rw [hc]; rfl
  have hmoved := modifyMember_modifyMember s.list c.identifier
    (fun m => { m with contact := c.released })
    (fun m => { m with group := (s.home c.structuralParent).name }) fun _ _ => rfl
  simp only [authorizationAccepted, hc, release_of_known hknown, hp, hg, if_true, hmoved]
  rfl

/-- The acceptance of a contact that is not parked is only noted. -/
theorem authorizationAccepted_of_unparked {s : Session} {x : String} {c : Contact}
    (hc : s.list.contact? x = some c)
    (hp : (s.list.parentGroup? x).filter (·.name = s.settings.awaitingGroup) = none)
    (reason : Option String) :
    s.authorizationAccepted x reason =
      ({ s with list := s.list.modifyMember x fun m => { m with contact := c.released } } :
        Session).inform c.released ⟨.accept, reason⟩ := by
  obtain rfl := identifier_of_contact? hc
  have hknown : (s.list.contact? c.identifier).isSome := by rw [hc]; rfl
  simp only [authorizationAccepted, hc, release_of_known hknown, hp]

/-- What the application is told of the decision of a contact. -/
def verdicts (s : Session) (x : String) (outcome : Decision) : List Occurrence :=
  if s.desk.installed then [.informed s.desk.earlier x outcome] else []

theorem inform_trace (s : Session) (c : Contact) (outcome : Decision) :
    (s.inform c outcome).trace = s.trace ++ s.verdicts c.identifier outcome := by
  unfold inform Desk.policy? verdicts
  split
  · next h => cases hi : s.desk.installed <;> simp_all
  · next h => cases hi : s.desk.installed <;> simp_all [record]

theorem authorizationDenied_list (s : Session) (x : String) (reason : Option String) :
    s.list.Drops x (s.authorizationDenied x reason).list := by
  unfold authorizationDenied
  split
  · exact .none
  · next c _ =>
    have h := unsubscribe_list (s.inform c ⟨.reject, reason⟩) x
    rwa [inform_list] at h

end Session

end Roster
