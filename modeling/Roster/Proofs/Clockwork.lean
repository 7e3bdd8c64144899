import Roster.Proofs.Steps

/-! What waits in time: queries, tasks, the poller, and the time itself. Most of what can happen to a
session leaves all of that alone. -/

namespace Roster

/-- All of a session that waiting depends on. -/
structure Clockwork where
  queries : List Correlator
  tasks : List Task
  poller : Option Poller
  now : Nat
  settings : Settings
  reRequests : Bool

/-- Asks, waits, or lets somebody go on. -/
def Step.isTimed : Step → Bool
  | .deliver _ | .registrationChanged _ | .publish .. | .query _ | .queryMask _ | .poll
  | .spawnPoll _ | .spawnQuery .. | .join _ | .advance _ => true
  | _ => false

namespace Session

def clockwork (s : Session) : Clockwork := 
  ⟨s.queries, s.tasks, s.poller, s.now, s.settings, s.reRequests⟩

variable (s : Session)

@[simp] theorem clockwork_record (o : Occurrence) : (s.record o).clockwork = s.clockwork := rfl

@[simp] theorem clockwork_announce (n : Notice) : (s.announce n).clockwork = s.clockwork := rfl

@[simp] theorem clockwork_withList (list : ContactList) :
    ({ s with list := list } : Session).clockwork = s.clockwork := rfl

@[simp] theorem clockwork_announceListed (n : Notice) :
    (s.announceListed n).clockwork = s.clockwork := by
  unfold announceListed
  split <;> rfl

theorem clockwork_of_commit {s t : Session} {op : ListOperation} (h : s.commit op = .ok t) :
    t.clockwork = s.clockwork := by
  unfold commit at h
  split at h <;> cases h
  rfl

theorem clockwork_of_send {s t : Session} {c : Command} (h : s.send c = .ok t) :
    t.clockwork = s.clockwork := by
  unfold send at h
  split at h <;> cases h
  rfl

theorem clockwork_guarded {α : Type} {s : Session} {check : Except Failure α}
    {next : α → Session × Except Failure Unit} (h : ∀ a, (next a).1.clockwork = s.clockwork) :
    (s.guarded check next).1.clockwork = s.clockwork := by
  unfold guarded
  split
  · rfl
  · exact h _

@[simp] theorem clockwork_addContact (group : Option String) (x : String) :
    (s.addContact group x).1.clockwork = s.clockwork := by
  unfold addContact
  split
  · rfl
  · next h => simpa using clockwork_of_commit h

@[simp] theorem clockwork_deleteContact (group x : String) :
    (s.deleteContact group x).1.clockwork = s.clockwork := by
  unfold deleteContact
  split
  · rfl
  · next h => split <;> simpa using clockwork_of_commit h

@[simp] theorem clockwork_shiftContact (x group : String) :
    (s.shiftContact x group).1.clockwork = s.clockwork := by
  unfold shiftContact
  split
  · rfl
  · next h =>
    dsimp only
    split
    · exact clockwork_of_commit h
    · split <;> simpa using clockwork_of_commit h

@[simp] theorem clockwork_storeGroup (name : String) :
    (s.storeGroup name).1.clockwork = s.clockwork := by
  unfold storeGroup
  split
  · rfl
  · next h => simpa using clockwork_of_commit h

@[simp] theorem clockwork_dropGroup (name : String) :
    (s.dropGroup name).1.clockwork = s.clockwork := by
  unfold dropGroup
  split
  · rfl
  · next h =>
    dsimp only
    split <;> simpa using clockwork_of_commit h

@[simp] theorem clockwork_retitleGroup (name newName : String) :
    (s.retitleGroup name newName).1.clockwork = s.clockwork := by
  unfold retitleGroup
  split
  · rfl
  · next h =>
    dsimp only
    split <;> simpa using clockwork_of_commit h

@[simp] theorem clockwork_unsubscribe (x : String) :
    (s.unsubscribe x).1.clockwork = s.clockwork := by
  refine clockwork_guarded fun (contact, group) => ?_
  dsimp only
  split
  · exact clockwork_guarded fun _ => rfl
  · split <;> exact clockwork_deleteContact ..

@[simp] theorem clockwork_createUnresolvedContact (x : String) (data parent : Option String) :
    (s.createUnresolvedContact x data parent).1.clockwork = s.clockwork := by
  unfold createUnresolvedContact
  dsimp only
  split <;> rfl

@[simp] theorem clockwork_ensureAwaitingGroup :
    s.ensureAwaitingGroup.1.clockwork = s.clockwork := by
  rw [ensureAwaitingGroup_eq]
  rfl

@[simp] theorem clockwork_sendAll (cs : List Command) :
    (s.sendAll cs).1.clockwork = s.clockwork := by
  induction cs generalizing s with
  | nil => rfl
  | cons c cs ih =>
    unfold sendAll
    split
    · next h => rw [ih, clockwork_of_send h]
    · rfl

@[simp] theorem clockwork_petition (c : Contact) : (s.petition c).1.clockwork = s.clockwork := by
  unfold petition
  split
  · rfl
  · next policy _ =>
    dsimp only
    split
    · rfl
    · next p _ =>
      have hsent := clockwork_sendAll
        (s.record (.drafted s.desk.earlier c.identifier policy.outgoing))
        [.grantFutureAuthorization c.identifier p.reason,
          .requestAuthorization c.identifier p.reason]
      split <;> next h => rwa [h] at hsent

@[simp] theorem clockwork_authorizationRequired (x : String) (parent : Option String) :
    (s.authorizationRequired x parent).1.clockwork = s.clockwork := by
  unfold authorizationRequired
  cases hx : s.list.contact? x with
  | some c => exact clockwork_petition s c
  | none =>
    rw [park_of_unknown hx]
    by_cases hg : (s.list.group? (s.home parent).name).isSome
    · simp only [hg, if_true, clockwork_petition]
      rfl
    · simp [hg]

@[simp] theorem clockwork_authorizationRequested (x : String) :
    (s.authorizationRequested x).clockwork = s.clockwork := by
  have hanswer (t : Session) : (t.answer x).clockwork = t.clockwork := by
    unfold answer
    split
    · rfl
    · dsimp only
      split
      · rfl
      · exact clockwork_sendAll ..
  rw [authorizationRequested_eq]
  split <;> exact hanswer _

@[simp] theorem clockwork_inform (c : Contact) (outcome : Decision) :
    (s.inform c outcome).clockwork = s.clockwork := by
  unfold inform
  split <;> rfl

@[simp] theorem clockwork_release (c : Contact) : (s.release c).1.clockwork = s.clockwork := by
  unfold release
  dsimp only
  split
  · rfl
  · split
    · rfl
    · split <;> rfl

@[simp] theorem clockwork_authorizationAccepted (x : String) (reason : Option String) :
    (s.authorizationAccepted x reason).clockwork = s.clockwork := by
  unfold authorizationAccepted
  split
  · rfl
  · next c _ =>
    have hrelease := clockwork_release s c
    split <;> next h =>
      rw [h] at hrelease
      simpa using hrelease

@[simp] theorem clockwork_authorizationDenied (x : String) (reason : Option String) :
    (s.authorizationDenied x reason).clockwork = s.clockwork := by
  unfold authorizationDenied
  split
  · rfl
  · simp

@[simp] theorem clockwork_applyStatus (x : String) (status : Status) (parent : Option Group) :
    (s.applyStatus x status parent).1.clockwork = s.clockwork := by
  unfold applyStatus
  split
  · rfl
  · dsimp only
    split <;> rfl

@[simp] theorem clockwork_ownInfo (info : UserInfo) : (s.ownInfo info).1.clockwork = s.clockwork := by
  unfold ownInfo
  dsimp only
  split <;> rfl

@[simp] theorem clockwork_ownMessage (message : Option String) :
    (s.ownMessage message).1.clockwork = s.clockwork := by
  unfold ownMessage
  split
  · rfl
  · split <;> rfl

@[simp] theorem clockwork_buddyIcon (x : String) (icon : Option (List UInt8)) :
    (s.buddyIcon x icon).clockwork = s.clockwork := by
  unfold buddyIcon
  split <;> rfl

@[simp] theorem clockwork_resetStatus : s.resetStatus.clockwork = s.clockwork := by
  unfold resetStatus
  dsimp only
  split <;> rfl

@[simp] theorem clockwork_silenceGroup (g : Group) : (s.silenceGroup g).clockwork = s.clockwork := by
  rw [silenceGroup]
  induction (s.list.contactsIn g.name).filter Contact.isOnline generalizing s with
  | nil => rfl
  | cons c cs ih => rw [List.foldl_cons, ih, clockwork_applyStatus]

@[simp] theorem clockwork_silenceContacts : s.silenceContacts.clockwork = s.clockwork := by
  rw [silenceContacts]
  induction (s.list.outline?).getD [] generalizing s with
  | nil => rfl
  | cons g gs ih => rw [List.foldl_cons, ih, clockwork_silenceGroup]

@[simp] theorem clockwork_handle (e : ServerEvent) : (s.handle e).clockwork = s.clockwork := by
  cases e <;> simp [handle, buddyStatus, buddyOffline]

@[simp] theorem clockwork_editList (r : Except Failure ContactList) :
    (s.editList r).1.clockwork = s.clockwork := by
  unfold editList
  split <;> rfl

theorem clockwork_act {step : Step} (h : step.isTimed = false) :
    (s.act step).1.clockwork = s.clockwork := by
  cases step with
  | setAnswer x => cases x <;> rfl
  | emit e => simp only [act]; split <;> simp
  | requireAuthorization x parent => simp only [act]; split <;> simp [flagged]
  | moveContact x group =>
    rw [act, done_fst]
    exact clockwork_guarded fun _ => clockwork_shiftContact ..
  | subscribe x | subscribeIn group x =>
    rw [act, done_fst]
    exact clockwork_guarded fun _ => clockwork_addContact ..
  | createGroup parent name =>
    rw [act, done_fst]
    exact clockwork_guarded fun _ => clockwork_storeGroup ..
  | removeGroup name =>
    rw [act, done_fst]
    exact clockwork_guarded fun _ => clockwork_dropGroup ..
  | renameGroup name newName =>
    rw [act, done_fst]
    exact clockwork_guarded fun _ => clockwork_retitleGroup ..
  | setStatusMessage message =>
    rw [act, done_fst, setStatusMessage]
    split <;> simp
  | createUnresolved group x data => simp only [act]; split <;> rfl
  | deliver | registrationChanged | publish | query | queryMask | poll | spawnPoll | spawnQuery
  | join | advance => cases h
  | _ => first | rfl | simp [act, done_fst, outcomeOf_fst, flagged, buddyStatus, buddyOffline]

end Session

end Roster
