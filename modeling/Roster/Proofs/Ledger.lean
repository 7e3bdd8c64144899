import Roster.Proofs.Line
import Roster.Proofs.Refusal

/-! The ledger of a session: what it asks its application, and the commands that the server takes. Only a
few operations write in it. -/

namespace Roster

/-- A question to the application, or a command that the server took. -/
def Occurrence.isDealing : Occurrence → Bool
  | .commanded _ | .decided .. | .drafted .. => true
  | _ => false

/-- Somebody asks us. -/
def ServerEvent.isPetition : ServerEvent → Bool
  | .authorizationRequestReceived .. => true
  | _ => false

/-- A step that may write in the ledger, or changes the application's policies. -/
def Step.deals : Step → Bool
  | .emit event | .handle event => event.isPetition
  | .requireAuthorization .. | .authorizationRequired .. | .publish .. | .setStatusMessage _
  | .setIncoming _ | .setOutgoing _ | .replacePolicy => true
  | _ => false

/-- The application, what has been dealt with it and the server, and whether requests are re-sent. -/
structure Ledger where
  desk : Desk
  dealings : List Occurrence
  reRequests : Bool

namespace Session

def ledger (s : Session) : Ledger :=
  ⟨s.desk, s.trace.filter Occurrence.isDealing, s.reRequests⟩

variable (s : Session)

theorem ledger_of_append {s t : Session} {new : List Occurrence} (desk : t.desk = s.desk)
    (reRequests : t.reRequests = s.reRequests) (trace : t.trace = s.trace ++ new)
    (hnew : ∀ o ∈ new, o.isDealing = false) : t.ledger = s.ledger := by
  have hnone : new.filter Occurrence.isDealing = [] :=
    List.filter_eq_nil_iff.2 fun o ho => by simp [hnew o ho]
  rw [ledger, ledger, desk, reRequests, trace, List.filter_append, hnone, List.append_nil]

theorem Alike.ledger {s t : Session} (h : s.Alike t) (reRequests : t.reRequests = s.reRequests) :
    t.ledger = s.ledger := by
  rw [Session.ledger, Session.ledger, h.desk, h.trace, reRequests]

@[simp] theorem ledger_announce (n : Notice) : (s.announce n).ledger = s.ledger := by
  refine ledger_of_append rfl rfl rfl fun o ho => ?_
  obtain ⟨l, -, rfl⟩ := List.mem_map.1 ho
  rfl

@[simp] theorem ledger_withList (list : ContactList) :
    ({ s with list := list } : Session).ledger = s.ledger := rfl

@[simp] theorem ledger_announceListed (n : Notice) : (s.announceListed n).ledger = s.ledger := by
  unfold announceListed
  split <;> simp

theorem ledger_of_commit {s t : Session} {op : ListOperation} (h : s.commit op = .ok t) :
    t.ledger = s.ledger := by
  unfold commit at h
  split at h <;> cases h
  exact ledger_of_append rfl rfl rfl (by simp [Occurrence.isDealing])

theorem ledger_guarded {α : Type} {s : Session} {check : Except Failure α}
    {next : α → Session × Except Failure Unit} (h : ∀ a, (next a).1.ledger = s.ledger) :
    (s.guarded check next).1.ledger = s.ledger := by
  unfold guarded
  split
  · rfl
  · exact h _

@[simp] theorem ledger_addContact (group : Option String) (x : String) :
    (s.addContact group x).1.ledger = s.ledger := by
  unfold addContact
  split
  · rfl
  · next h => simpa using ledger_of_commit h

@[simp] theorem ledger_deleteContact (group x : String) :
    (s.deleteContact group x).1.ledger = s.ledger := by
  unfold deleteContact
  split
  · rfl
  · next h => split <;> simpa using ledger_of_commit h

@[simp] theorem ledger_shiftContact (x group : String) :
    (s.shiftContact x group).1.ledger = s.ledger := by
  unfold shiftContact
  split
  · rfl
  · next h =>
    dsimp only
    split
    · exact ledger_of_commit h
    · split <;> simpa using ledger_of_commit h

@[simp] theorem ledger_storeGroup (name : String) : (s.storeGroup name).1.ledger = s.ledger := by
  unfold storeGroup
  split
  · rfl
  · next h => simpa using ledger_of_commit h

@[simp] theorem ledger_dropGroup (name : String) : (s.dropGroup name).1.ledger = s.ledger := by
  unfold dropGroup
  split
  · rfl
  · next h =>
    dsimp only
    split <;> simpa using ledger_of_commit h

@[simp] theorem ledger_retitleGroup (name newName : String) :
    (s.retitleGroup name newName).1.ledger = s.ledger := by
  unfold retitleGroup
  split
  · rfl
  · next h =>
    dsimp only
    split <;> simpa using ledger_of_commit h

@[simp] theorem ledger_unsubscribe (x : String) : (s.unsubscribe x).1.ledger = s.ledger := by
  refine ledger_guarded fun (contact, group) => ?_
  dsimp only
  split
  · exact ledger_guarded fun _ => by simp
  · split <;> exact ledger_deleteContact ..

@[simp] theorem ledger_createUnresolvedContact (x : String) (data parent : Option String) :
    (s.createUnresolvedContact x data parent).1.ledger = s.ledger := by
  unfold createUnresolvedContact
  dsimp only
  split <;> rfl

@[simp] theorem ledger_ensureAwaitingGroup : s.ensureAwaitingGroup.1.ledger = s.ledger := by
  unfold ensureAwaitingGroup
  split <;> simp

@[simp] theorem ledger_park (x : String) (parent : Option String) :
    (s.park x parent).1.ledger = s.ledger := by
  have hensured (list : ContactList) :=
    ledger_ensureAwaitingGroup { s with list := list }
  unfold park
  dsimp only
  split
  · rfl
  · split
    · rfl
    · split <;> simp [hensured]

@[simp] theorem ledger_release (c : Contact) : (s.release c).1.ledger = s.ledger := by
  unfold release
  dsimp only
  split
  · rfl
  · split
    · rfl
    · split <;> simp

@[simp] theorem ledger_inform (c : Contact) (outcome : Decision) :
    (s.inform c outcome).ledger = s.ledger := by
  unfold inform
  split
  · rfl
  · exact ledger_of_append rfl rfl rfl (by simp [Occurrence.isDealing])

@[simp] theorem ledger_authorizationAccepted (x : String) (reason : Option String) :
    (s.authorizationAccepted x reason).ledger = s.ledger := by
  unfold authorizationAccepted
  split
  · rfl
  · next c _ =>
    have hrelease := ledger_release s c
    split <;> next h =>
      rw [h] at hrelease
      simpa using hrelease

@[simp] theorem ledger_authorizationDenied (x : String) (reason : Option String) :
    (s.authorizationDenied x reason).ledger = s.ledger := by
  unfold authorizationDenied
  split <;> simp

@[simp] theorem ledger_editList (r : Except Failure ContactList) :
    (s.editList r).1.ledger = s.ledger := by
  unfold editList
  split <;> rfl

@[simp] theorem ledger_applyStatus (x : String) (status : Status) (parent : Option Group) :
    (s.applyStatus x status parent).1.ledger = s.ledger := by
  unfold applyStatus
  split
  · rfl
  · dsimp only
    split <;> simp

@[simp] theorem ledger_ownInfo (info : UserInfo) : (s.ownInfo info).1.ledger = s.ledger := by
  unfold ownInfo
  dsimp only
  split
  · rfl
  · exact ledger_announce ..

@[simp] theorem ledger_ownMessage (message : Option String) :
    (s.ownMessage message).1.ledger = s.ledger := by
  unfold ownMessage
  split
  · rfl
  · split
    · rfl
    · exact ledger_announce ..

@[simp] theorem ledger_buddyIcon (x : String) (icon : Option (List UInt8)) :
    (s.buddyIcon x icon).ledger = s.ledger := by
  unfold buddyIcon
  split <;> simp

@[simp] theorem ledger_resetStatus : s.resetStatus.ledger = s.ledger := by
  unfold resetStatus
  dsimp only
  split
  · rfl
  · exact ledger_announce ..

theorem ledger_foldl {α : Type} {f : Session → α → Session}
    (h : ∀ s a, (f s a).ledger = s.ledger) (as : List α) : (as.foldl f s).ledger = s.ledger := by
  induction as generalizing s with
  | nil => rfl
  | cons a as ih => rw [List.foldl_cons, ih, h]

@[simp] theorem ledger_silenceGroup (g : Group) : (s.silenceGroup g).ledger = s.ledger :=
  ledger_foldl s (fun s (c : Contact) => ledger_applyStatus s c.identifier .offline (some g)) _

@[simp] theorem ledger_registrationChanged (new : Registration) :
    (s.registrationChanged new).ledger = s.ledger := by
  unfold registrationChanged
  split
  · unfold register
    dsimp only
    split <;> rfl
  · split
    · exact (ledger_foldl _ ledger_silenceGroup _).trans (ledger_resetStatus _)
    · rfl

theorem ledger_handle {e : ServerEvent} (h : e.isPetition = false) :
    (s.handle e).ledger = s.ledger := by
  cases e with
  | authorizationRequestReceived x reason => cases h
  | _ => simp [handle, buddyStatus, buddyOffline]

@[simp] theorem ledger_signal (q : Nat) (sig : Signal) : (s.signal q sig).ledger = s.ledger := rfl

@[simp] theorem ledger_receive (q : Nat) : (s.receive q).1.ledger = s.ledger := by
  unfold receive
  split <;> rfl

@[simp] theorem ledger_ask (x : String) : (s.ask x).1.ledger = s.ledger := by
  have hsent : (s.sending x).ledger = s.ledger :=
    ledger_of_append rfl rfl rfl (by simp [Occurrence.isDealing])
  have hidle := ask_idle s x
  refine (hidle.toAlike.ledger ?_).trans hsent
  have hbegins := (ask_begins s x).1.reRequests
  exact hbegins

@[simp] theorem ledger_reRequest (report : PollReport) (c : Contact) :
    (s.reRequest report c).1.ledger = s.ledger := by
  unfold reRequest
  split
  · rfl
  · exact ledger_of_append rfl rfl rfl (by simp [Occurrence.isDealing])

@[simp] theorem ledger_pollContact (g : Group) (report : PollReport) (x : String) (status : Status) :
    (s.pollContact g report x status).1.ledger = s.ledger := by
  have happlied := ledger_applyStatus s x status (some g)
  unfold pollContact
  split
  · rfl
  · dsimp only
    split
    · exact happlied
    · split
      · exact happlied
      · exact (ledger_reRequest ..).trans happlied

@[simp] theorem ledger_pollRest (g : Group) (ids : List String) (report : PollReport) :
    (s.pollRest g report ids).1.ledger = s.ledger := by
  induction ids generalizing s report with
  | nil => rfl
  | cons x rest ih =>
    have hask := ledger_ask s x
    rw [pollRest]
    rcases h : s.ask x with ⟨t, mask | wait⟩
    · rw [h] at hask
      simpa [ih] using hask
    · rwa [h] at hask

@[simp] theorem ledger_poll : s.poll.1.ledger = s.ledger := by
  unfold poll
  split
  · rfl
  · exact ledger_pollRest ..

@[simp] theorem ledger_resumePoll (p : SuspendedPoll) (mask : Mask) :
    (s.resumePoll p mask).1.ledger = s.ledger := by
  simp [resumePoll]

@[simp] theorem ledger_resume (w : Work) : (s.resume w).1.ledger = s.ledger := by
  have hreceived := ledger_receive s w.wait.query
  cases w with
  | poll p =>
    have h := (ledger_resumePoll _ p (s.receive p.wait.query).2).trans hreceived
    simp only [resume, Work.wait] at h ⊢
    split <;> next hpoll => rwa [hpoll] at h
  | _ => exact hreceived

@[simp] theorem ledger_beginPoll : s.beginPoll.1.ledger = s.ledger := by
  have h := ledger_poll s
  unfold beginPoll
  split <;> next hpoll => rwa [hpoll] at h

@[simp] theorem ledger_query (x : String) : (s.query x).1.ledger = s.ledger := by
  have h := ledger_ask s x
  unfold query
  split
  · rfl
  · split <;> next hask => rwa [hask] at h

@[simp] theorem ledger_queryMask (x : String) : (s.queryMask x).1.ledger = s.ledger := by
  have h := ledger_ask s x
  unfold queryMask
  split <;> next hask => rwa [hask] at h

theorem lasting_ledger (ledger : Ledger) : Lasting fun s => s.ledger = ledger where
  signal _ h := h
  time _ h := h
  tick {t} h := by
    unfold tick
    split
    · split
      · exact (ledger_poll t).trans h
      · exact h
    · exact h
  wakeWaiter {t} q h := by
    rcases exists_waiter t q with ⟨tasks, others, query⟩ | ⟨others, poller, query⟩ | nobody
    · next before after name w =>
      rw [wakeWaiter_of_task tasks others query]
      exact (ledger_resume t w).trans h
    · next due p =>
      rw [wakeWaiter_of_poller others poller query]
      exact ((ledger_resumePoll _ p _).trans (ledger_receive t q)).trans h
    · rwa [wakeWaiter_of_nobody nobody]

@[simp] theorem ledger_settle : s.settle.ledger = s.ledger := (lasting_ledger s.ledger).settle rfl

@[simp] theorem ledger_await (name : TaskName) : (s.await name).ledger = s.ledger :=
  (lasting_ledger s.ledger).await name rfl

@[simp] theorem ledger_advance (ms : Nat) : (s.advance ms).ledger = s.ledger := by
  have hlasting := lasting_ledger s.ledger
  have hpassed := hlasting.passUntil (fun _ => false) (s.now + ms) (rfl : s.ledger = s.ledger)
  exact hlasting.time _ (hlasting.settle (hlasting.time _ hpassed))

@[simp] theorem ledger_addTask (name : TaskName) (begun : Session × (Outcome ⊕ Work)) :
    (addTask name begun).ledger = begun.1.ledger := rfl

@[simp] theorem ledger_complete (begun : Session × (Outcome ⊕ Work)) :
    (complete begun).1.ledger = begun.1.ledger :=
  (ledger_await (addTask .foreground begun) .foreground).trans (ledger_addTask ..)

@[simp] theorem ledger_deliver (response : Response) : (s.deliver response).1.ledger = s.ledger := by
  have hwoken (t : Session) (q : Nat) : (t.wakeWaiter q).ledger = t.ledger :=
    (lasting_ledger t.ledger).wakeWaiter q rfl
  exact (ledger_foldl _ hwoken _).trans (ledger_foldl _ (fun t q => ledger_signal t q _) _)

theorem ledger_act {step : Step} (h : step.deals = false) : (s.act step).1.ledger = s.ledger := by
  cases step with
  | setAnswer x => cases x <;> rfl
  | emit e =>
    simp only [act]
    split
    · exact ledger_handle s h
    · rfl
  | handle e => exact ledger_handle s h
  | moveContact x group =>
    rw [act, done_fst]
    exact ledger_guarded fun _ => ledger_shiftContact ..
  | subscribe x | subscribeIn group x =>
    rw [act, done_fst]
    exact ledger_guarded fun _ => ledger_addContact ..
  | createGroup parent name =>
    rw [act, done_fst]
    exact ledger_guarded fun _ => ledger_storeGroup ..
  | removeGroup name =>
    rw [act, done_fst]
    exact ledger_guarded fun _ => ledger_dropGroup ..
  | renameGroup name newName =>
    rw [act, done_fst]
    exact ledger_guarded fun _ => ledger_retitleGroup ..
  | createUnresolved group x data => simp only [act]; split <;> rfl
  | requireAuthorization | authorizationRequired | publish | setStatusMessage | setIncoming | setOutgoing
  | replacePolicy => cases h
  | _ => first | rfl | simp [act, done_fst, outcomeOf_fst, flagged, buddyStatus, buddyOffline]

end Session

end Roster
