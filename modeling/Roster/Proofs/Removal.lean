import Roster.Proofs.Consistency

/-! How a contact leaves. A contact of this session alone is dropped here and now; any other is dropped by
the server, from the group that it has there, and the list follows. Where identifiers are distinct the
contact is then gone with its one entry, and where the server is out of reach or refuses nothing has
happened. A denial is told to the application first, and is a removal after that. -/

namespace Roster

namespace ContactList

/-- One entry is lost: those before it and those after it are as they were. -/
structure Loses (l : ContactList) (m : Member) (l' : ContactList) : Prop where
  rest : ∃ before after, l.members = before ++ m :: after ∧ l'.members = before ++ after
  branches : l'.branches = l.branches
  rootName : l'.rootName = l.rootName
  gone : l'.contact? m.contact.identifier = none

variable {l : ContactList}

/-- The entries around one of a list without doubles are about others. -/
theorem ne_of_nodup_append {before after : List Member} {m m' : Member}
    (h : ((before ++ m :: after).map (·.contact.identifier)).Nodup)
    (hm' : m' ∈ before ∨ m' ∈ after) : m'.contact.identifier ≠ m.contact.identifier := by
  rw [List.map_append, List.map_cons, List.nodup_append] at h
  obtain ⟨-, hafter, hapart⟩ := h
  rcases hm' with hm' | hm'
  · exact hapart _ (List.mem_map_of_mem hm') _ List.mem_cons_self
  · exact fun heq => (List.nodup_cons.1 hafter).1 (heq ▸ List.mem_map_of_mem hm')

/-- Dropping every entry of a contact drops its one entry. -/
theorem loses_detached (hd : l.identifiers.Nodup) {m : Member} (hm : m ∈ l.members) :
    l.Loses m (l.detached m.contact.identifier) := by
  obtain ⟨before, after, hsplit⟩ := List.append_of_mem hm
  rw [identifiers, hsplit] at hd
  have hkeep (ms : List Member) (h : ∀ m' ∈ ms, m' ∈ before ∨ m' ∈ after) :
      ms.filter (·.contact.identifier ≠ m.contact.identifier) = ms :=
    List.filter_eq_self.2 fun m' hm' => by simpa using ne_of_nodup_append hd (h m' hm')
  refine ⟨⟨before, after, hsplit, ?_⟩, rfl, rfl, ?_⟩
  · rw [detached, hsplit, List.filter_append, List.filter_cons_of_neg (by simp),
      hkeep before fun _ => .inl, hkeep after fun _ => .inr]
  · simp [contact?, detached]

/-- Dropping the first entry of a contact is dropping every one. -/
theorem removeMember_eq_detached (hd : l.identifiers.Nodup) (x : String) :
    l.removeMember x = l.detached x := by
  have h (ms : List Member) (hd : (ms.map (·.contact.identifier)).Nodup) :
      ms.eraseP (·.contact.identifier = x) = ms.filter (·.contact.identifier ≠ x) := by
    induction ms with
    | nil => rfl
    | cons m ms ih =>
      rw [List.map_cons, List.nodup_cons] at hd
      by_cases hm : m.contact.identifier = x
      · -- behind the first entry of a contact there is no other of it
        have hrest : ms.filter (·.contact.identifier ≠ x) = ms :=
          List.filter_eq_self.2 fun m' hm' => by
            simpa using fun hx => hd.1 (hm.trans (Eq.symm hx) ▸ List.mem_map_of_mem hm')
        rw [List.eraseP_cons_of_pos (by simpa using hm), List.filter_cons_of_neg (by simpa using hm),
          hrest]
      · rw [List.eraseP_cons_of_neg (by simpa using hm), List.filter_cons_of_pos (by simpa using hm),
          ih hd.2]
  rw [removeMember, detached, h l.members hd]

/-- A contact and its group are one entry. -/
theorem mem_members_of_contact? {x : String} {c : Contact} {g : Group}
    (hc : l.contact? x = some c) (hg : l.parentGroup? x = some g) : ⟨c, g.name⟩ ∈ l.members := by
  obtain ⟨m, hm, rfl⟩ := Option.map_eq_some_iff.1 hc
  obtain ⟨name, hname, hgroup⟩ := Option.bind_eq_some_iff.1 hg
  have hplace : m.group = g.name := by
    rw [groupNameOf?, hm, Option.map_some, Option.some.injEq] at hname
    rw [hname, name_of_group? hgroup]
  rw [← hplace]
  exact List.mem_of_find?_eq_some hm

end ContactList

namespace Session

open ContactList

variable {s : Session} {x : String} {c : Contact} {g : Group}

/-- What the keeper of the list tells of a change. -/
def tidings (s : Session) (n : Notice) : List Occurrence :=
  if s.keeper.announces then s.deliveries n else []

theorem announceListed_eq (s : Session) (n : Notice) :
    s.announceListed n = { s with trace := s.trace ++ s.tidings n } := by
  unfold announceListed tidings
  split
  · rfl
  · rw [List.append_nil]

/-- The session after the server has removed a contact from a group. -/
def without (s : Session) (c : Contact) (group : String) : Session :=
  { s with
    list := s.list.detached c.identifier
    trace := s.trace ++ [.listed (.deleteContact group c.identifier)] ++
      s.tidings (.subscription ⟨.removed, c, s.list.group? group⟩) }

theorem deleteContact_of_known (hd : s.list.identifiers.Nodup) (hc : s.list.contact? x = some c)
    (group : String) : s.deleteContact group x =
      if s.keeper.refuses then (s, .error (.brokenDown .network "server refused the operation"))
      else (s.without c group, .ok ()) := by
  obtain rfl := identifier_of_contact? hc
  cases h : s.keeper.refuses with
  | true => simp only [deleteContact, commit_of_refuses h, if_true]
  | false =>
    have hknown : (s.record (.listed (.deleteContact group c.identifier))).list.contact? c.identifier =
        some c := hc
    simp only [deleteContact, commit_of_not_refuses h, hknown, Bool.false_eq_true, if_false,
      announceListed_eq]
    rw [without, ← removeMember_eq_detached hd]
    rfl

/-- What becomes of an attempt to remove a contact. -/
structure Removes (s : Session) (c : Contact) (g : Group) : Prop where
  /-- The list without the contact is short of its entry and of nothing else. -/
  entry : s.list.Loses ⟨c, g.name⟩ (s.list.detached c.identifier)
  disconnected : s.server.registered = false →
    s.unsubscribe c.identifier = (s, .error .notConnected)
  transient : s.server.registered = true → c.persistent = false →
    s.unsubscribe c.identifier =
      ({ s with
        list := s.list.detached c.identifier
        trace := s.trace ++ s.deliveries (.subscription ⟨.removed, c, some g⟩) }, .ok ())
  refused : s.server.registered = true → c.persistent = true → s.keeper.refuses = true →
    s.unsubscribe c.identifier = (s, .error (.brokenDown .network "server refused the operation"))
  parked : s.server.registered = true → c.persistent = true → s.keeper.refuses = false →
    c.awaitingAuthorization = true → g.persistent = false →
    s.unsubscribe c.identifier = (s.without c (c.structuralParent.getD s.list.rootName), .ok ())
  settled : s.server.registered = true → c.persistent = true → s.keeper.refuses = false →
    (c.awaitingAuthorization = false ∨ g.persistent = true) →
    s.unsubscribe c.identifier = (s.without c g.name, .ok ())

theorem unsubscribe_of_disconnected (h : s.server.registered = false) (x : String) :
    s.unsubscribe x = (s, .error .notConnected) := by
  simp [unsubscribe, guarded, requireConnection, h, bind, Except.bind]

/-- The choice between the ways of removing a contact. -/
theorem unsubscribe_of_connected (h : s.server.registered = true) (hc : s.list.contact? x = some c)
    (hg : s.list.parentGroup? x = some g) : s.unsubscribe x =
      if !c.persistent then
        ({ s with
          list := s.list.detached x
          trace := s.trace ++ s.deliveries (.subscription ⟨.removed, c, some g⟩) }, .ok ())
      else if !g.persistent && c.awaitingAuthorization then
        s.deleteContact (c.structuralParent.getD s.list.rootName) x
      else s.deleteContact g.name x := by
  have hdetached : s.list.detach x = .ok (s.list.detached x) := by
    rw [detach, hc, if_neg (by simp)]
    rfl
  simp only [unsubscribe, requireConnection, h, if_true, requireMember, hc, hg, bind, Except.bind,
    guarded, hdetached]
  rfl

theorem removes (hd : s.list.identifiers.Nodup) (hc : s.list.contact? x = some c)
    (hg : s.list.parentGroup? x = some g) : s.Removes c g := by
  obtain rfl := identifier_of_contact? hc
  refine ⟨loses_detached hd (mem_members_of_contact? hc hg), fun h => unsubscribe_of_disconnected h _,
    fun h hp => ?transient, fun h hp hr => ?refused, fun h hp hr ha hv => ?parked,
    fun h hp hr hs => ?settled⟩
  all_goals rw [unsubscribe_of_connected h hc hg, hp]
  case transient => rfl
  case refused =>
    simp only [deleteContact_of_known hd hc, hr, if_true, ite_self, Bool.not_true,
      Bool.false_eq_true, if_false]
  case parked => simp [deleteContact_of_known hd hc, hr, ha, hv]
  case settled =>
    have hs : (!g.persistent && c.awaitingAuthorization) = false := by
      rcases hs with hs | hs <;> simp [hs]
    simp [deleteContact_of_known hd hc, hr, hs]

/-- The session that has told the application of a denial, if it asks. -/
def told (s : Session) (x : String) (reason : Option String) : Session :=
  { s with trace := s.trace ++ s.verdicts x ⟨.reject, reason⟩ }

theorem inform_eq (s : Session) (c : Contact) (outcome : Decision) :
    s.inform c outcome = { s with trace := s.trace ++ s.verdicts c.identifier outcome } := by
  unfold inform Desk.policy? verdicts
  cases s.desk.installed with
  | true => rfl
  | false => simp

theorem authorizationDenied_of_known (hc : s.list.contact? x = some c) (reason : Option String) :
    s.authorizationDenied x reason = ((s.told x reason).unsubscribe x).1 := by
  obtain rfl := identifier_of_contact? hc
  simp only [authorizationDenied, hc, inform_eq, told]

/-- A contact of a list without doubles is removed completely or not at all, and so it is when it has
denied a request, once the application has been told. -/
theorem removal_is_complete_or_nothing (hd : s.list.identifiers.Nodup)
    (hc : s.list.contact? x = some c) (hg : s.list.parentGroup? x = some g) :
    s.Removes c g ∧
      ∀ reason, s.authorizationDenied x reason = ((s.told x reason).unsubscribe x).1 ∧
        (s.told x reason).Removes c g :=
  ⟨removes hd hc hg, fun reason => ⟨authorizationDenied_of_known hc reason, removes hd hc hg⟩⟩

/-- A parked contact that denies is removed from the group it belongs to, beside another contact. -/
theorem removal_of_parked_contact :
    let s : Session := {
      settings := {}
      localIdentifier := "12345"
      list := ⟨"Root", [⟨.root "Root", none⟩, ⟨.stored "Friends", some "Root"⟩,
          ⟨.virtual "Awaiting Authorization", some "Root"⟩],
        [⟨.parked "100" "Friends", "Awaiting Authorization"⟩, ⟨.resolve "200", "Friends"⟩]⟩ }
    let c : Contact := .parked "100" "Friends"
    let g : Group := .virtual "Awaiting Authorization"
    s.list.identifiers.Nodup ∧ s.list.contact? "100" = some c ∧
      s.list.parentGroup? "100" = some g ∧ s.Removes c g ∧
      (s.authorizationDenied "100" (some "no")).trace =
        [.informed 0 "100" ⟨.reject, some "no"⟩, .listed (.deleteContact "Friends" "100")] := by
  intro s c g
  have hd : s.list.identifiers.Nodup := by decide +kernel
  have hc : s.list.contact? "100" = some c := by decide +kernel
  have hg : s.list.parentGroup? "100" = some g := by decide +kernel
  exact ⟨hd, hc, hg, (removal_is_complete_or_nothing hd hc hg).1, by decide +kernel⟩

end Session

end Roster
