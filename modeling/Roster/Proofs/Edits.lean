import Roster.Proofs.Runs

/-! What a step makes of the list, as one edit: a group is founded, dissolved or renamed, or a contact
enters, is parked, released, shifted or rewritten, or leaves. The edit can be read off the step and the
session before it. Statuses and images aside, it is all that the step does to the list, with everything
that is due after it. -/

namespace Roster

/-- One edit of a contact list. -/
inductive Edit
  | found (group : Group)
  | dissolve (name : String)
  | rename (name newName : String)
  | enter (contact : Contact) (group : String)
  /-- Into the awaiting group, which is made if there is none. -/
  | park (identifier origin awaiting : String)
  /-- Back to a group, or where the contact is. -/
  | release (identifier : String) (back : Option String)
  | shift (identifier group : String)
  | rewrite (contact : Contact)
  /-- The first entry alone. -/
  | leave (identifier : String)
  | detach (identifier : String)
  deriving DecidableEq

namespace ContactList

/-- The list, with a group of parked contacts in it. -/
def withAwaiting (l : ContactList) (awaiting : String) : ContactList :=
  if (l.group? awaiting).isSome then l else l.addGroup (.virtual awaiting)

def edit (l : ContactList) : Edit → ContactList
  | .found group => l.addGroup group
  | .dissolve name => l.removeGroup name
  | .rename name newName => l.renameGroup name newName
  | .enter contact group => l.addMember contact group
  | .park x origin awaiting => (l.withAwaiting awaiting).addMember (.parked x origin) awaiting
  | .release x back => l.modifyMember x fun m => ⟨m.contact.released, back.getD m.group⟩
  | .shift x group => l.shift x group
  | .rewrite contact => l.modifyMember contact.identifier fun m => { m with contact := contact }
  | .leave x => l.removeMember x
  | .detach x => l.detached x

/-- The list after an edit that may not come about. -/
def edited (l : ContactList) (e : Option Edit) : ContactList := e.elim l l.edit

@[simp] theorem edited_none (l : ContactList) : l.edited none = l := rfl

@[simp] theorem edited_some (l : ContactList) (e : Edit) : l.edited (some e) = l.edit e := rfl

theorem edited_ite (l : ContactList) (p : Prop) [Decidable p] (e : Edit) :
    l.edited (if p then some e else none) = if p then l.edit e else l := by
  split <;> rfl

theorem members_withAwaiting (l : ContactList) (awaiting : String) :
    (l.withAwaiting awaiting).members = l.members := by
  unfold withAwaiting
  split <;> rfl

/-- An entry of an amended list is the one that is found, amended, or an old one. -/
theorem amended_or_mem_of_mem_modifyMember {l : ContactList} {x : String} {f : Member → Member}
    {m : Member} (hm : m ∈ (l.modifyMember x f).members) :
    (∃ m₀, l.members.find? (·.contact.identifier = x) = some m₀ ∧ m = f m₀) ∨ m ∈ l.members := by
  cases hx : l.members.find? (·.contact.identifier = x) with
  | none =>
    rw [modifyMember_of_unknown (by rw [contact?, hx]; rfl)] at hm
    exact .inr hm
  | some m₀ => exact (eq_or_mem_of_mem_modifyFirst hx hm).imp_left fun heq => ⟨m₀, rfl, heq⟩

/-- Two edits that treat the entry that is found alike are one. -/
theorem modifyMember_congr {l : ContactList} {x : String} {f f' : Member → Member}
    (h : ∀ m, (l.entries x).head? = some m → f m = f' m) : l.modifyMember x f = l.modifyMember x f' := by
  have hfirst (ms : List Member) (h : ∀ m, ms.find? (·.contact.identifier = x) = some m → f m = f' m) :
      modifyFirst x f ms = modifyFirst x f' ms := by
    induction ms with
    | nil => rfl
    | cons m ms ih =>
      by_cases hm : m.contact.identifier = x
      · simp [modifyFirst, hm, h m (by simp [hm])]
      · simp only [modifyFirst, hm, if_false, List.cons.injEq, true_and]
        exact ih fun m' hm' => h m' (by simpa [hm] using hm')
  rw [modifyMember, modifyMember, hfirst l.members fun m hm => h m (by rw [← find?_eq_head?_entries, hm])]

theorem detach_error {l : ContactList} {x : String} {f : Failure} (h : l.detach x = .error f) :
    l.detached x = l := by
  unfold detach at h
  split at h
  · next hx =>
    have hnone := (contact?_eq_none_iff l x).1 (Option.isNone_iff_eq_none.1 hx)
    have hkept : l.members.filter (·.contact.identifier ≠ x) = l.members :=
      List.filter_eq_self.2 fun m hm => by
        simpa using fun hid => List.not_mem_nil (hnone ▸ mem_entries.2 ⟨hm, hid⟩)
    rw [detached, hkept]
  · cases h

theorem update_ok {l l' : ContactList} {c : Contact} (h : l.update c = .ok l') :
    l' = l.edit (.rewrite c) := by
  unfold update at h
  split at h
  · cases h
  · cases h
    rfl

theorem update_error {l : ContactList} {c : Contact} {f : Failure} (h : l.update c = .error f) :
    l.edit (.rewrite c) = l := by
  unfold update at h
  split at h
  · next hx => exact modifyMember_of_unknown (Option.isNone_iff_eq_none.1 hx) _
  · cases h

end ContactList

namespace Session

open ContactList

/-- How a contact is removed, if it is. -/
def removal? (s : Session) (x : String) : Option Edit :=
  if s.server.registered then
    (s.list.contact? x).bind fun contact => (s.list.parentGroup? x).bind fun _ =>
      if !contact.persistent then some (.detach x)
      else if s.keeper.refuses = false then some (.leave x)
      else none
  else none

def parking? (s : Session) (x : String) (parent : Option String) : Option Edit :=
  if s.list.contact? x = none ∧ (s.list.group? (s.home parent).name).isSome then
    some (.park x (s.home parent).name s.settings.awaitingGroup)
  else none

def reaction? (s : Session) : ServerEvent → Option Edit
  | .authorizationRequestReceived x _ =>
    if s.list.contact? x = none then some (.enter (.volatile x) s.list.rootName) else none
  | .authorizationAccepted x _ => (s.list.contact? x).map fun c => .release x (s.return? c)
  | .authorizationDenied x _ => s.removal? x
  | _ => none

/-- What a step makes of the list. -/
def edit? (s : Session) : Step → Option Edit
  | .emit event => if s.server.attached then s.reaction? event else none
  | .handle event => s.reaction? event
  | .requireAuthorization x parent => if s.server.attached then s.parking? x parent else none
  | .authorizationRequired x parent => s.parking? x parent
  | .subscribe x => if s.able then some (.enter (.resolve x) s.list.defaultGroup) else none
  | .subscribeIn group x =>
    if s.able ∧ (s.list.group? group).isSome then some (.enter (.resolve x) group) else none
  | .unsubscribe x => s.removal? x
  | .moveContact x group =>
    match s.requireMovable x group with
    | .ok target => if s.keeper.refuses = false then some (.shift x target.name) else none
    | .error _ => none
  | .createGroup parent name =>
    if s.able ∧ (s.list.group? parent).any Group.canContainSubgroups then
      some (.found (.stored name))
    else none
  | .removeGroup name =>
    if s.able ∧ (s.list.group? name).isSome then some (.dissolve name) else none
  | .renameGroup name newName =>
    if s.able ∧ (s.list.group? name).isSome then some (.rename name newName) else none
  | .createUnresolvedContact x data parent =>
    if (s.list.group? (parent.getD s.list.rootName)).isSome then
      some (.enter { Contact.unresolved x with persistentData := data }
        (parent.getD s.list.rootName))
    else none
  | .createUnresolvedGroup name => some (.found (.unresolved name))
  | .createVolatileContact x => some (.enter (.volatile x) s.list.rootName)
  | .ensureAwaitingGroup =>
    if s.awaitingGroup?.isSome then none else some (.found (.virtual s.settings.awaitingGroup))
  | .relocate x group => some (.shift x group)
  | .update contact => some (.rewrite contact)
  | .detach x => some (.detach x)
  | .addContact group x =>
    if s.keeper.refuses = false then some (.enter (.resolve x) (group.getD s.list.defaultGroup))
    else none
  | .deleteContact _ x => if s.keeper.refuses = false then some (.leave x) else none
  | .shiftContact x group => if s.keeper.refuses = false then some (.shift x group) else none
  | .storeGroup name => if s.keeper.refuses = false then some (.found (.stored name)) else none
  | .dropGroup name => if s.keeper.refuses = false then some (.dissolve name) else none
  | .retitleGroup name newName =>
    if s.keeper.refuses = false then some (.rename name newName) else none
  | .createUnresolved group x data =>
    if (s.list.group? group).isSome then
      some (.enter { Contact.unresolved x with persistentData := data } group)
    else none
  | _ => none

variable (s : Session)

theorem unsubscribe_edited (x : String) :
    (s.unsubscribe x).1.list = s.list.edited (s.removal? x) := by
  rw [unsubscribe, guarded_list, removal?, requireConnection, requireMember]
  cases hr : s.server.registered with
  | false => rfl
  | true =>
    cases hc : s.list.contact? x with
    | none => rfl
    | some c =>
      cases hg : s.list.parentGroup? x with
      | none => rfl
      | some g =>
        have hdetach : s.list.detach x = .ok (s.list.detached x) := by simp [detach, hc, detached]
        cases hpersistent : c.persistent with
        | false => simp [bind, Except.bind, hpersistent, hdetach, guarded, announce, edit]
        | true =>
          simp only [bind, Except.bind, if_true, hpersistent, Bool.not_true, Bool.false_eq_true,
            if_false, Option.bind_some, edited_ite, edit]
          split <;> rw [deleteContact_list]

theorem removal?_inform (c : Contact) (outcome : Decision) (x : String) :
    (s.inform c outcome).removal? x = s.removal? x := by
  unfold inform
  split <;> rfl

theorem authorizationRequired_edited (x : String) (parent : Option String) :
    (s.authorizationRequired x parent).1.list = s.list.edited (s.parking? x parent) := by
  rw [authorizationRequired_list, parking?, edited_ite]
  rfl

theorem handle_edited (e : ServerEvent) :
    (s.handle e).list.bare = (s.list.edited (s.reaction? e)).bare := by
  cases e with
  | authorizationRequestReceived x _ =>
    rw [handle, authorizationRequested_list, reaction?, edited_ite]
    rfl
  | authorizationAccepted x reason =>
    rw [handle, authorizationAccepted_list, reaction?]
    cases hc : s.list.contact? x with
    | none => rfl
    | some c =>
      refine congrArg ContactList.bare (modifyMember_congr fun m hm => ?_)
      rw [contact?_eq_entries, hm] at hc
      cases hc
      rfl
  | authorizationDenied x reason =>
    rw [handle, authorizationDenied, reaction?]
    cases hc : s.list.contact? x with
    | none => simp [removal?, hc]
    | some c => simp only [unsubscribe_edited, removal?_inform, inform_list]
  | _ => exact (handle_course s rfl).frame.list

theorem moveContact_edited (x group : String) :
    (s.moveContact x group).1.list = s.list.edited (s.edit? (.moveContact x group)) := by
  rw [moveContact, guarded_list, edit?]
  cases s.requireMovable x group with
  | error f => rfl
  | ok target => simp only [shiftContact_list, edited_ite, edit]

/-- A step edits the list as it says, and what it reports besides is no edit. -/
theorem act_edited (hs : s.Sound) (step : Step) :
    (s.act step).1.list.bare = (s.list.edited (s.edit? step)).bare := by
  cases step with
  | emit e =>
    simp only [act, edit?]
    split
    · exact handle_edited s e
    · rfl
  | handle e => exact handle_edited s e
  | requireAuthorization x parent =>
    simp only [act, edit?]
    split
    · exact congrArg _ (authorizationRequired_edited s x parent)
    · rfl
  | authorizationRequired x parent => exact congrArg _ (authorizationRequired_edited s x parent)
  | subscribe x => rw [act, done_fst, subscribe_list, edit?, edited_ite, edit]
  | subscribeIn group x => rw [act, done_fst, subscribeIn_list, edit?, edited_ite, edit]
  | unsubscribe x => rw [act, done_fst, unsubscribe_edited, edit?]
  | moveContact x group => rw [act, done_fst, moveContact_edited]
  | createGroup parent name => rw [act, done_fst, createGroup_list, edit?, edited_ite, edit]
  | removeGroup name => rw [act, done_fst, removeGroup_list, edit?, edited_ite, edit]
  | renameGroup name newName => rw [act, done_fst, renameGroup_list, edit?, edited_ite, edit]
  | createUnresolvedContact x data parent =>
    rw [act, outcomeOf_fst, createUnresolvedContact_list, edit?, edited_ite, edit]
  | ensureAwaitingGroup =>
    simp only [act, ensureAwaitingGroup_eq, awaitingList, edit?]
    split <;> rfl
  | relocate x group =>
    simp only [act, editList, edit?, edited_some, edit]
    cases h : s.list.relocate x group with
    | ok l => rw [relocate_ok h]
    | error f => rw [relocate_error h]
  | update c =>
    simp only [act, editList, edit?, edited_some]
    cases h : s.list.update c with
    | ok l => rw [update_ok h]
    | error f => rw [update_error h]
  | detach x =>
    simp only [act, editList, edit?, edited_some, edit]
    cases h : s.list.detach x with
    | ok l => rw [detach_ok h]
    | error f => rw [detach_error h]
  | addContact group x => rw [act, done_fst, addContact_list, edit?, edited_ite, edit]
  | deleteContact group x => rw [act, done_fst, deleteContact_list, edit?, edited_ite, edit]
  | shiftContact x group => rw [act, done_fst, shiftContact_list, edit?, edited_ite, edit]
  | storeGroup name => rw [act, done_fst, storeGroup_list, edit?, edited_ite, edit]
  | dropGroup name => rw [act, done_fst, dropGroup_list, edit?, edited_ite, edit]
  | retitleGroup name newName => rw [act, done_fst, retitleGroup_list, edit?, edited_ite, edit]
  | setStatus x status => exact bare_setStatus ..
  | setImage x image => exact bare_setImage ..
  | createUnresolved group x data =>
    simp only [act, createUnresolved, edit?, edited_ite]
    by_cases h : (s.list.group? group).isSome <;> simp [h, edit]
  | createUnresolvedGroup | createVolatileContact | addListener | removeListener | setIncoming
  | setOutgoing | replacePolicy => rfl
  | _ => exact (act_course hs rfl).frame.list

variable {s}

theorem perform_edited (hs : s.Sound) (step : Step) :
    (s.perform step).1.list.bare = (s.list.edited (s.edit? step)).bare :=
  (settle_course (act_sound hs step)).frame.list.trans (act_edited s hs step)

/-- What holds before an edit that the session makes itself. -/
inductive Allows (s : Session) : Edit → Prop
  | found (group : Group) : Allows s (.found group)
  | dissolve {name : String} (there : (s.list.group? name).isSome) : Allows s (.dissolve name)
  | rename {name : String} (newName : String) (there : (s.list.group? name).isSome) :
      Allows s (.rename name newName)
  | enter {contact : Contact} {group : String} (unflagged : contact.awaitingAuthorization = false)
      (unclaimed : contact.structuralParent = none)
      (there : (s.list.group? group).isSome ∨ group = s.list.rootName) :
      Allows s (.enter contact group)
  | park {x origin : String} (stranger : s.list.contact? x = none)
      (there : (s.list.group? origin).isSome) :
      Allows s (.park x origin s.settings.awaitingGroup)
  | release {x : String} {contact : Contact} (known : s.list.contact? x = some contact) :
      Allows s (.release x (s.return? contact))
  | shift {x group : String} (into : group ≠ s.settings.awaitingGroup)
      (out : (s.list.parentGroup? x).map Group.name ≠ some s.settings.awaitingGroup) :
      Allows s (.shift x group)
  | leave (x : String) : Allows s (.leave x)
  | detach (x : String) : Allows s (.detach x)

theorem isSome_defaultGroup_or (l : ContactList) :
    (l.group? l.defaultGroup).isSome ∨ l.defaultGroup = l.rootName := by
  unfold defaultGroup
  split
  · next g hg =>
    obtain ⟨b, hb, rfl⟩ := List.mem_map.1 (List.mem_of_find?_eq_some hg)
    exact .inl ((isSome_group?_iff ..).2 ⟨b, (List.mem_filter.1 hb).1, rfl⟩)
  · exact .inr rfl

theorem Allows.of_removal? {x : String} {e : Edit} (h : s.removal? x = some e) : s.Allows e := by
  simp only [removal?, Option.ite_none_right_eq_some, Option.bind_eq_some_iff] at h
  obtain ⟨-, contact, -, group, -, h⟩ := h
  split at h
  · cases h
    exact .detach x
  · simp only [Option.ite_none_right_eq_some] at h
    cases h.2
    exact .leave x

theorem Allows.of_parking? {x : String} {parent : Option String} {e : Edit}
    (h : s.parking? x parent = some e) : s.Allows e := by
  simp only [parking?, Option.ite_none_right_eq_some] at h
  obtain ⟨⟨stranger, there⟩, h⟩ := h
  cases h
  exact .park stranger there

theorem Allows.of_reaction? {event : ServerEvent} {e : Edit} (h : s.reaction? event = some e) :
    s.Allows e := by
  cases event with
  | authorizationRequestReceived x _ =>
    simp only [reaction?, Option.ite_none_right_eq_some] at h
    cases h.2
    exact .enter rfl rfl (.inr rfl)
  | authorizationAccepted x _ =>
    obtain ⟨c, hc, rfl⟩ := Option.map_eq_some_iff.1 h
    exact .release hc
  | authorizationDenied x _ => exact .of_removal? h
  | _ => cases h

theorem Allows.of_edit? {step : Step} {e : Edit} (hstep : step.bypasses = false)
    (h : s.edit? step = some e) : s.Allows e := by
  cases step with
  | emit event =>
    simp only [edit?, Option.ite_none_right_eq_some] at h
    exact .of_reaction? h.2
  | handle event => exact .of_reaction? h
  | requireAuthorization x parent =>
    simp only [edit?, Option.ite_none_right_eq_some] at h
    exact .of_parking? h.2
  | authorizationRequired x parent => exact .of_parking? h
  | subscribe x =>
    simp only [edit?, Option.ite_none_right_eq_some] at h
    cases h.2
    exact .enter rfl rfl (isSome_defaultGroup_or _)
  | subscribeIn group x =>
    simp only [edit?, Option.ite_none_right_eq_some] at h
    cases h.2
    exact .enter rfl rfl (.inl h.1.2)
  | unsubscribe x => exact .of_removal? h
  | moveContact x group =>
    simp only [edit?] at h
    split at h
    · next target hmovable =>
      simp only [Option.ite_none_right_eq_some] at h
      cases h.2
      obtain ⟨hname, into, out⟩ := requireMovable_ok hmovable
      exact .shift (hname ▸ into) out
    · cases h
  | createGroup parent name =>
    simp only [edit?, Option.ite_none_right_eq_some] at h
    cases h.2
    exact .found _
  | removeGroup name =>
    simp only [edit?, Option.ite_none_right_eq_some] at h
    cases h.2
    exact .dissolve h.1.2
  | renameGroup name newName =>
    simp only [edit?, Option.ite_none_right_eq_some] at h
    cases h.2
    exact .rename newName h.1.2
  | createUnresolvedContact x data parent =>
    simp only [edit?, Option.ite_none_right_eq_some] at h
    cases h.2
    exact .enter rfl rfl (.inl h.1)
  | createUnresolvedGroup name =>
    cases h
    exact .found _
  | createVolatileContact x =>
    cases h
    exact .enter rfl rfl (.inr rfl)
  | ensureAwaitingGroup =>
    simp only [edit?] at h
    split at h <;> cases h
    exact .found _
  | relocate | update | detach | addContact | deleteContact | shiftContact | storeGroup | dropGroup
  | retitleGroup | createUnresolved => cases hstep
  | _ => cases h

end Session

end Roster
