import Roster.Proofs.Listing.Handshake

/-! The steps of a session, one by one. A step is a course, or it is quiet and edits the list, or it
changes who listens or decides; what is due after it is a course in any case. -/

namespace Roster

namespace ContactList

/-- Entries are dropped, or amended and added to. -/
def Edits (l l' : ContactList) : Prop := l.Extends l' ∨ l'.members.Sublist l.members

theorem Edits.refl (l : ContactList) : l.Edits l := .inl (.refl l)

theorem Drops.edits {l l' : ContactList} {x : String} (h : l.Drops x l') : l.Edits l' :=
  .inr h.members

theorem edits_removeGroup (l : ContactList) (name : String) : l.Edits (l.removeGroup name) :=
  .inr List.filter_sublist

theorem edits_addMember (l : ContactList) (c : Contact) (g : String) :
    l.Edits (l.addMember c g) :=
  .inl (extends_addMember l c g)

theorem edits_addGroup (l : ContactList) (g : Group) : l.Edits (l.addGroup g) :=
  .inl (.of_members_eq rfl)

theorem edits_renameGroup (l : ContactList) (name newName : String) :
    l.Edits (l.renameGroup name newName) :=
  .inl (extends_renameGroup l name newName)

theorem edits_shift (l : ContactList) (x group : String) : l.Edits (l.shift x group) := by
  unfold shift
  split
  · exact .inl (extends_modifyMember _ _ _ fun _ _ => rfl)
  · exact .refl l

theorem edits_setImage (l : ContactList) (x : String) (image : Option (List UInt8)) :
    l.Edits (l.setImage x image) :=
  .inl (extends_modifyMember _ _ _ fun _ _ => rfl)

end ContactList

/-- Says something about somebody, if anything. -/
def ServerEvent.isReport : ServerEvent → Bool
  | .authorizationRequestReceived .. | .authorizationAccepted .. | .authorizationDenied .. => false
  | _ => true

/-- Reports, commands, queries, polls, time, changes of the registration, and of the server's moods. -/
def Step.isReport : Step → Bool
  | .emit event | .handle event => event.isReport
  | .setRegistered _ | .refuseCommands _ | .refuseListChanges _ | .failReRequests _ | .setAnswer ..
  | .deliver _ | .registrationChanged _ | .ownInfo _ | .ownMessage _ | .buddyStatus _
  | .buddyOffline _ | .publish .. | .setStatusMessage _ | .query _ | .queryMask _ | .poll
  | .spawnPoll _ | .spawnQuery .. | .join _ | .advance _ | .rest => true
  | _ => false

/-- Changes who listens or decides. -/
def Step.isParty : Step → Bool
  | .addListener .. | .removeListener .. | .setIncoming _ | .setOutgoing _ | .replacePolicy => true
  | _ => false

/-- Writes statuses into the list, past the session. -/
def Step.overwrites : Step → Bool
  | .update _ | .setStatus .. => true
  | _ => false

/-- Writes into the list past the session. -/
def Step.bypasses : Step → Bool
  | .relocate .. | .update _ | .detach _ | .addContact .. | .deleteContact .. | .shiftContact ..
  | .storeGroup _ | .dropGroup _ | .retitleGroup .. | .setStatus .. | .setImage ..
  | .createUnresolved .. => true
  | _ => false

/-- What a step makes of the registries. -/
def Step.rehub (h : Hub) : Step → Hub
  | .addListener l channels => channels.foldl (fun h c => (h.add c l).1) h
  | .removeListener l channels => channels.foldl (fun h c => (h.remove c l).1) h
  | _ => h

/-- What a step makes of the application's policies. -/
def Step.redesk (d : Desk) : Step → Desk
  | .setIncoming decision => { d with policy := { d.policy with incoming := decision } }
  | .setOutgoing petition => { d with policy := { d.policy with outgoing := petition } }
  | .replacePolicy => ⟨{}, d.earlier + 1, true⟩
  | _ => d

namespace Session

open ContactList

theorem sendAll_course (s : Session) (cs : List Command) : Course s (s.sendAll cs).1 := by
  induction cs generalizing s with
  | nil => exact .refl
  | cons c cs ih =>
    unfold sendAll
    split
    · next t h =>
      unfold send at h
      split at h
      · cases h
      · cases h
        exact .head (.command s c) (ih _)
    · exact .refl

theorem publish_begun (s : Session) (requested : Status) (message : String) :
    s.Begun (s.publish requested message) := by
  unfold publish
  split
  · exact ⟨.refl, nofun⟩
  · split
    · exact ⟨.refl, nofun⟩
    · exact ⟨.refl, nofun⟩
    · next commands _ =>
      have hsent := sendAll_course s commands
      split
      · next h =>
        rw [h] at hsent
        exact ⟨hsent, nofun⟩
      · next t h =>
        rw [h] at hsent
        have hask : Course s (t.ask t.localIdentifier).1 := hsent.tail (.ask t t.localIdentifier)
        split
        · next ha =>
          rw [ha] at hask
          exact ⟨hask, nofun⟩
        · next ha =>
          rw [ha] at hask
          exact ⟨hask, nofun⟩

theorem queryMask_begun (s : Session) (x : String) : s.Begun (s.queryMask x) := by
  have hask : Course s (s.ask x).1 := .single (.ask s x)
  unfold queryMask
  split
  · next h =>
    rw [h] at hask
    exact ⟨hask, nofun⟩
  · next h =>
    rw [h] at hask
    exact ⟨hask, nofun⟩

theorem query_begun (s : Session) (x : String) : s.Begun (s.query x) := by
  have hask : Course s (s.ask x).1 := .single (.ask s x)
  unfold query
  split
  · exact ⟨.refl, nofun⟩
  · split
    · next h =>
      rw [h] at hask
      exact ⟨hask, nofun⟩
    · next h =>
      rw [h] at hask
      exact ⟨hask, nofun⟩

/-- A poller that has only its next tick waits for nothing. -/
theorem repoll_turn {s s' : Session} (hs : s.Sound) (alike : s.Alike s') (tasks : s'.tasks = s.tasks)
    (poller : s'.poller.bind Poller.poll = none) : Turn s s' := by
  refine .wait hs alike fun p hp => .inl ?_
  rcases mem_polls.1 hp with ⟨t, ht, hpoll⟩ | hpoll
  · exact mem_polls.2 (.inl ⟨t, tasks ▸ ht, hpoll⟩)
  · rw [poller] at hpoll
    cases hpoll

theorem register_course {s : Session} (hs : s.Sound) : Course s s.register := by
  have hattached : Turn s { s with server := { s.server with attached := true } }.loadList :=
    .wait hs ⟨rfl, rfl, rfl, rfl, rfl, rfl, rfl, rfl⟩ fun _ hp => .inl hp
  unfold register
  dsimp only
  split
  · refine (Relation.ReflTransGen.single hattached).tail (repoll_turn (hattached.sound hs)
      ⟨rfl, rfl, rfl, rfl, rfl, rfl, rfl, rfl⟩ rfl ?_)
    unfold startPolling
    dsimp only
    split <;> rfl
  · exact .single hattached

theorem silenceGroup_course (s : Session) (group : Group) (hs : s.Sound) :
    Course s (s.silenceGroup group) :=
  Course.foldl (fun t c _ => .single (.report t c.identifier .offline (some group))) s hs _

theorem disconnect_course {s : Session} (hs : s.Sound) : Course s s.disconnect := by
  have hstop : Turn s s.stopPolling :=
    repoll_turn hs ⟨rfl, rfl, rfl, rfl, rfl, rfl, rfl, rfl⟩ rfl rfl
  have hreset : Course s s.stopPolling.resetStatus :=
    (Relation.ReflTransGen.single hstop).tail (.resetStatus _)
  exact hreset.trans (Course.foldl silenceGroup_course _ (hreset.sound hs) _)

theorem registrationChanged_course {s : Session} (hs : s.Sound) (new : Registration) :
    Course s (s.registrationChanged new) := by
  unfold registrationChanged
  split
  · exact register_course hs
  · split
    · exact disconnect_course hs
    · exact .refl

theorem authorizationRequired_edits (s : Session) (x : String) (parent : Option String) :
    s.list.Edits (s.authorizationRequired x parent).1.list := by
  rw [authorizationRequired_list]
  split
  · have hmembers : s.awaitingList.members = s.list.members := by
      unfold awaitingList
      split <;> rfl
    exact .inl ((Extends.of_members_eq hmembers).trans (extends_addMember ..))
  · exact .refl _

theorem authorizationRequested_edits (s : Session) (x : String) :
    s.list.Edits (s.authorizationRequested x).list := by
  rw [authorizationRequested_list]
  split
  · exact edits_addMember ..
  · exact .refl _

/-- Releasing writes back a snapshot, with the status that the entry has. -/
theorem authorizationAccepted_edits (s : Session) (x : String) (reason : Option String) :
    s.list.Edits (s.authorizationAccepted x reason).list := by
  rw [authorizationAccepted_list]
  cases h : s.list.contact? x with
  | none => exact .refl _
  | some c =>
    refine .inl (extends_modifyMember _ _ _ fun m hm => ?_)
    rw [contact?_eq_entries, hm] at h
    cases h
    rfl

/-- What a step may do by itself. -/
inductive Deed (s : Session) (step : Step) : Session → Prop
  | course {t : Session} (course : Course s t) : Deed s step t
  | edit {t : Session} (x : String) (quiet : Quiet x s t)
      (edits : step.overwrites = false → s.list.Edits t.list) : Deed s step t
  | parties : Deed s step { s with hub := step.rehub s.hub, desk := step.redesk s.desk }

variable {s : Session}

/-- A change of the list by a step that writes no statuses. -/
theorem Deed.of_edits {step : Step} {t : Session} {x : String} (quiet : Quiet x s t)
    (edits : s.list.Edits t.list) : Deed s step t :=
  .edit x quiet fun _ => edits

theorem handle_course (s : Session) {e : ServerEvent} (h : e.isReport = true) :
    Course s (s.handle e) := by
  cases e with
  | ownInfo info => exact .single (.ownInfo s info)
  | ownExtraInfo message => exact .single (.ownMessage s message)
  | buddyStatus info => exact .single (.report s ..)
  | buddyOffline x => exact .single (.report s ..)
  | buddyIcon x icon => exact .single (.icon s x icon)
  | futureAuthorizationGranted | youWereAdded => exact .refl
  | _ => cases h

theorem editList_fst (s : Session) (r : Except Failure ContactList) :
    (s.editList r).1 = { s with list := r.toOption.getD s.list } := by
  unfold editList
  split <;> rfl

theorem outcomeOf_fst {α : Type} (f : α → Outcome) (r : Session × Except Failure α) :
    (outcomeOf f r).1 = r.1 := by
  obtain ⟨t, r | r⟩ := r <;> rfl

theorem done_fst (r : Session × Except Failure Unit) : (done r).1 = r.1 := outcomeOf_fst _ r

theorem mood_course (hs : s.Sound) {t : Session} (alike : s.Alike t) (polls : t.polls = s.polls) :
    Course s t :=
  .single (.wait hs alike fun _ hp => .inl (polls ▸ hp))

theorem act_course (hs : s.Sound) {step : Step} (h : step.isReport = true) :
    Course s (s.act step).1 := by
  have halike := Alike.refl s
  cases step with
  | setRegistered | refuseCommands | refuseListChanges | failReRequests | rest =>
    exact mood_course hs { halike with } rfl
  | setAnswer x => cases x <;> exact mood_course hs { halike with } rfl
  | deliver response => exact deliver_course hs response
  | registrationChanged new => exact registrationChanged_course hs new
  | emit e =>
    simp only [act]
    split
    · exact handle_course s h
    · exact .refl
  | handle e => exact handle_course s h
  | ownInfo info => exact .single (.ownInfo s info)
  | ownMessage message => exact .single (.ownMessage s message)
  | buddyStatus info => exact .single (.report s ..)
  | buddyOffline x => exact .single (.report s ..)
  | publish status message => exact complete_course hs (publish_begun s status message)
  | setStatusMessage message =>
    rw [act, done_fst, setStatusMessage]
    split
    · exact .refl
    · exact sendAll_course s _
  | query x => exact complete_course hs (query_begun s x)
  | queryMask x => exact complete_course hs (queryMask_begun s x)
  | poll => exact complete_course hs (beginPoll_begun hs)
  | spawnPoll task => exact addTask_course hs (beginPoll_begun hs)
  | spawnQuery task x => exact addTask_course hs (query_begun s x)
  | join task => exact await_course hs _
  | advance ms => exact advance_course hs ms
  | _ => cases h

theorem handle_quiet (s : Session) {e : ServerEvent} (h : e.isReport = false) : ∃ x, Quiet x s (s.handle e) := by
  cases e with
  | authorizationRequestReceived x _ => exact ⟨x, authorizationRequested_quiet s x⟩
  | authorizationAccepted x reason => exact ⟨x, authorizationAccepted_quiet s x reason⟩
  | authorizationDenied x reason => exact ⟨x, authorizationDenied_quiet s x reason⟩
  | _ => cases h

theorem handle_edits (s : Session) {e : ServerEvent} (h : e.isReport = false) :
    s.list.Edits (s.handle e).list := by
  cases e with
  | authorizationRequestReceived x _ => exact authorizationRequested_edits s x
  | authorizationAccepted x reason => exact authorizationAccepted_edits s x reason
  | authorizationDenied x reason => exact (authorizationDenied_list s x reason).edits
  | _ => cases h

theorem handle_deed (step : Step) (e : ServerEvent) : Deed s step (s.handle e) := by
  cases report : e.isReport with
  | true => exact .course (handle_course s report)
  | false =>
    obtain ⟨x, hquiet⟩ := handle_quiet s report
    exact .of_edits hquiet (handle_edits s report)

/-- What is no report, and not about who listens or decides, is an operation on the list. -/
theorem act_quiet (s : Session) {step : Step} (report : step.isReport = false)
    (party : step.isParty = false) : ∃ x, Quiet x s (s.act step).1 := by
  have hlist (x : String) (list : ContactList) : ∃ x, Quiet x s { s with list := list } :=
    ⟨x, (Quiet.refl s).withList list⟩
  cases step with
  | emit e =>
    simp only [act]
    split
    · exact handle_quiet s report
    · exact ⟨"", .refl s⟩
  | handle e => exact handle_quiet s report
  | requireAuthorization x parent =>
    simp only [act]
    split
    · exact ⟨x, authorizationRequired_quiet s x parent⟩
    · exact ⟨x, .refl s⟩
  | authorizationRequired x parent => exact ⟨x, authorizationRequired_quiet s x parent⟩
  | subscribe x | subscribeIn group x =>
    rw [act, done_fst]
    exact ⟨x, .guarded fun _ => addContact_quiet ..⟩
  | unsubscribe x =>
    rw [act, done_fst]
    exact ⟨x, unsubscribe_quiet s x⟩
  | moveContact x group =>
    rw [act, done_fst]
    exact ⟨x, .guarded fun _ => shiftContact_quiet ..⟩
  | createGroup parent name =>
    rw [act, done_fst]
    exact ⟨name, .guarded fun _ => storeGroup_quiet _ name _⟩
  | removeGroup name =>
    rw [act, done_fst]
    exact ⟨name, .guarded fun _ => dropGroup_quiet _ name _⟩
  | renameGroup name newName =>
    rw [act, done_fst]
    exact ⟨name, .guarded fun _ => retitleGroup_quiet _ name _ _⟩
  | createUnresolvedContact x data parent =>
    rw [act, outcomeOf_fst]
    exact ⟨x, createUnresolvedContact_quiet s x data parent⟩
  | createUnresolvedGroup name => exact hlist name _
  | createVolatileContact x => exact hlist x _
  | ensureAwaitingGroup => exact ⟨"", ensureAwaitingGroup_quiet s ""⟩
  | relocate | update | detach =>
    rw [act, editList_fst]
    exact hlist "" _
  | addContact group x =>
    rw [act, done_fst]
    exact ⟨x, addContact_quiet s group x⟩
  | deleteContact group x =>
    rw [act, done_fst]
    exact ⟨x, deleteContact_quiet s group x⟩
  | shiftContact x group =>
    rw [act, done_fst]
    exact ⟨x, shiftContact_quiet s x group⟩
  | storeGroup name =>
    rw [act, done_fst]
    exact ⟨name, storeGroup_quiet s name name⟩
  | dropGroup name =>
    rw [act, done_fst]
    exact ⟨name, dropGroup_quiet s name name⟩
  | retitleGroup name newName =>
    rw [act, done_fst]
    exact ⟨name, retitleGroup_quiet s name name newName⟩
  | setStatus x | setImage x => exact hlist x _
  | createUnresolved group x data =>
    simp only [act]
    split
    · exact hlist x _
    · exact ⟨x, .refl s⟩
  | addListener | removeListener | setIncoming | setOutgoing | replacePolicy => cases party
  | _ => cases report

/-- An edit of the list that may not come about. -/
theorem edits_of_ite {l l' l₀ : ContactList} {p : Prop} [Decidable p] (list : l' = if p then l else l₀)
    (edits : l₀.Edits l) : l₀.Edits l' := by
  rw [list]
  split
  · exact edits
  · exact .refl _

theorem edits_of_result {l : ContactList} {r : Except Failure ContactList}
    (h : ∀ l', r = .ok l' → l.Edits l') : l.Edits (r.toOption.getD l) := by
  cases r with
  | ok l' => exact h l' rfl
  | error => exact .refl l

/-- Only a step that writes statuses past the session does more to the list than to drop, amend and add
entries. -/
theorem act_edits (s : Session) {step : Step} (report : step.isReport = false)
    (party : step.isParty = false) (careful : step.overwrites = false) :
    s.list.Edits (s.act step).1.list := by
  cases step with
  | emit e =>
    simp only [act]
    split
    · exact handle_edits s report
    · exact .refl _
  | handle e => exact handle_edits s report
  | requireAuthorization x parent =>
    simp only [act]
    split
    · exact authorizationRequired_edits s x parent
    · exact .refl _
  | authorizationRequired x parent => exact authorizationRequired_edits s x parent
  | subscribe x =>
    rw [act, done_fst]
    exact edits_of_ite (subscribe_list ..) (edits_addMember ..)
  | subscribeIn group x =>
    rw [act, done_fst]
    exact edits_of_ite (subscribeIn_list ..) (edits_addMember ..)
  | unsubscribe x =>
    rw [act, done_fst]
    exact (unsubscribe_list s x).edits
  | moveContact x group =>
    rw [act, done_fst]
    rcases moveContact_list s x group with h | ⟨h, -⟩ <;> rw [h]
    · exact .refl _
    · exact edits_shift ..
  | createGroup parent name =>
    rw [act, done_fst]
    exact edits_of_ite (createGroup_list ..) (edits_addGroup ..)
  | removeGroup name =>
    rw [act, done_fst]
    exact edits_of_ite (removeGroup_list ..) (edits_removeGroup ..)
  | renameGroup name newName =>
    rw [act, done_fst]
    exact edits_of_ite (renameGroup_list ..) (edits_renameGroup ..)
  | createUnresolvedContact x data parent =>
    rw [act, outcomeOf_fst]
    exact edits_of_ite (createUnresolvedContact_list ..) (edits_addMember ..)
  | createUnresolvedGroup name => exact edits_addGroup ..
  | createVolatileContact x => exact edits_addMember ..
  | ensureAwaitingGroup =>
    simp only [act, ensureAwaitingGroup_eq, awaitingList]
    split
    · exact .refl _
    · exact edits_addGroup ..
  | relocate x group =>
    rw [act, editList_fst]
    exact edits_of_result fun l hl => by rw [relocate_ok hl]; exact edits_shift ..
  | detach x =>
    rw [act, editList_fst]
    exact edits_of_result fun l hl => by rw [detach_ok hl]; exact Drops.all.edits
  | addContact group x =>
    rw [act, done_fst]
    exact edits_of_ite (addContact_list ..) (edits_addMember ..)
  | deleteContact group x =>
    rw [act, done_fst]
    exact edits_of_ite (deleteContact_list ..) Drops.first.edits
  | shiftContact x group =>
    rw [act, done_fst]
    exact edits_of_ite (shiftContact_list ..) (edits_shift ..)
  | storeGroup name =>
    rw [act, done_fst]
    exact edits_of_ite (storeGroup_list ..) (edits_addGroup ..)
  | dropGroup name =>
    rw [act, done_fst]
    exact edits_of_ite (dropGroup_list ..) (edits_removeGroup ..)
  | retitleGroup name newName =>
    rw [act, done_fst]
    exact edits_of_ite (retitleGroup_list ..) (edits_renameGroup ..)
  | setImage x image => exact edits_setImage ..
  | createUnresolved group x data =>
    simp only [act, createUnresolved]
    by_cases h : (s.list.group? group).isSome
    · simp only [h, if_true]
      exact edits_addMember ..
    · simp only [h, Bool.false_eq_true, if_false]
      exact .refl _
  | update | setStatus => cases careful
  | addListener | removeListener | setIncoming | setOutgoing | replacePolicy => cases party
  | _ => cases report

theorem act_deed (hs : s.Sound) (step : Step) : Deed s step (s.act step).1 := by
  cases report : step.isReport with
  | true => exact .course (act_course hs report)
  | false =>
    cases party : step.isParty with
    | true =>
      cases step with
      | addListener | removeListener | setIncoming | setOutgoing | replacePolicy => exact .parties
      | _ => cases party
    | false =>
      obtain ⟨x, hquiet⟩ := act_quiet s report party
      exact .edit x hquiet (act_edits s report party)

end Session

end Roster
