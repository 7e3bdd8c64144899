import Roster.Proofs.PresenceChain
import Roster.Proofs.Refusal
import Roster.Proofs.Sweep

/-! What is said about ourselves. Our status changes by reports of the server and by a logout, our message
by reports alone, and whatever else happens is mute about both. So what a listener is told of either forms
a chain, which ends in what holds now. -/

namespace Roster

/-- Changes of a value that lead from one to another, each to another value and from where the one before
has led. -/
inductive Chained {γ α : Type} (old new : γ → α) : α → List γ → α → Prop
  | nil (a : α) : Chained old new a [] a
  | cons {c : γ} {cs : List γ} {b : α} (change : old c ≠ new c)
      (rest : Chained old new (new c) cs b) : Chained old new (old c) (c :: cs) b

namespace Chained

variable {γ α : Type} {old new : γ → α} {a b c : α} {cs ds : List γ}

theorem append (h : Chained old new a cs b) (h' : Chained old new b ds c) :
    Chained old new a (cs ++ ds) c := by
  induction h with
  | nil => exact h'
  | cons change _ ih => exact .cons change (ih h')

/-- The last change leads to the value at the end. -/
theorem last (h : Chained old new a cs b) : b = (cs.getLast?.map new).getD a := by
  induction h with
  | nil => rfl
  | @cons c cs b _ _ ih =>
    rw [ih, List.getLast?_cons]
    cases cs.getLast? <;> rfl

end Chained

def Notice.ownStatus? : Notice → Option OwnStatusChange
  | .ownStatus c => some c
  | _ => none

def Notice.statusMessage? : Notice → Option StatusMessageChange
  | .statusMessage c => some c
  | _ => none

/-- Somebody is told about ourselves. -/
def Occurrence.isOwn : Occurrence → Bool
  | .delivered _ n => n.channel = .provider
  | _ => false

/-- Ends a login. -/
def Step.disconnects : Step → Bool
  | .registrationChanged new => new.isDisconnect
  | _ => false

/-- May say something about ourselves. -/
def Step.concernsUs : Step → Bool
  | .registrationChanged _ | .ownInfo _ | .ownMessage _ | .handle _ | .emit _ => true
  | _ => false

theorem AccountMode.ownMask_known (mode : AccountMode) (info : UserInfo) :
    (mode.ownMask info).isUnknown = false := by
  have hreport (mask : Mask) : (if mask.isUnknown then Mask.online else mask).isUnknown = false := by
    split
    · rfl
    · next h => exact Bool.eq_false_iff.2 h
  cases mode with
  | extended => exact hreport info.mask
  | basic =>
    simp only [ownMask]
    split
    · rfl
    · exact hreport info.mask

namespace Session

/-- The changes of our own status that a listener was told of, in order. -/
def ownChanges (s : Session) (l : Listener) : List OwnStatusChange :=
  (s.heard l).filterMap Notice.ownStatus?

/-- The changes of our status message that a listener was told of, in order. -/
def messageChanges (s : Session) (l : Listener) : List StatusMessageChange :=
  (s.heard l).filterMap Notice.statusMessage?

theorem status_eq_offline_iff (s : Session) : s.status = .offline ↔ s.own.mask.isUnknown = true := by
  constructor
  · intro h
    by_contra hknown
    exact Mask.status_ne_offline (Bool.eq_false_iff.2 hknown) h
  · intro h
    rw [status, Mask.status, if_pos h]

/-- After a report about ourselves our status is what the mode reads in it. -/
theorem status_ownInfo (s : Session) (info : UserInfo) :
    (s.ownInfo info).1.status = (s.settings.mode.ownMask info).status := by
  simp only [ownInfo]
  split
  · next hsame => exact hsame
  · rfl

/-- Nothing about ourselves changes, and nothing is said about it. -/
structure Mute (s t : Session) : Prop where
  own : t.own = s.own
  trace : ∃ new, t.trace = s.trace ++ new ∧ ∀ o ∈ new, o.isOwn = false

section Mute

variable {s t u : Session}

theorem Mute.same (own : t.own = s.own) (trace : t.trace = s.trace) : s.Mute t :=
  ⟨own, [], by rw [trace, List.append_nil], by simp⟩

theorem Mute.refl (s : Session) : s.Mute s := .same rfl rfl

theorem Mute.trans (h₁ : s.Mute t) (h₂ : t.Mute u) : s.Mute u := by
  obtain ⟨new₁, e₁, hn₁⟩ := h₁.trace
  obtain ⟨new₂, e₂, hn₂⟩ := h₂.trace
  refine ⟨h₂.own.trans h₁.own, new₁ ++ new₂, by rw [e₂, e₁, List.append_assoc], fun o ho => ?_⟩
  exact (List.mem_append.1 ho).elim (hn₁ o) (hn₂ o)

theorem Mute.foldl {α : Type} {f : Session → α → Session} (h : ∀ s a, Mute s (f s a)) (s : Session)
    (as : List α) : s.Mute (as.foldl f s) := by
  induction as generalizing s with
  | nil => exact .refl s
  | cons a as ih => exact (h s a).trans (ih _)

theorem Alike.mute (h : s.Alike t) : s.Mute t := .same h.own h.trace

theorem Quiet.mute {x : String} (h : Quiet x s t) : s.Mute t := by
  obtain ⟨new, htrace, hnew⟩ := h.trace
  refine ⟨h.own, new, htrace, fun o ho => ?_⟩
  have hquiet := hnew o ho
  cases o with
  | delivered l n => cases n <;> first | rfl | cases hquiet
  | _ => rfl

theorem announce_mute (s : Session) {n : Notice} (h : n.channel ≠ .provider) :
    s.Mute (s.announce n) := by
  refine ⟨rfl, s.deliveries n, rfl, fun o ho => ?_⟩
  obtain ⟨l, -, rfl⟩ := List.mem_map.1 ho
  simpa [Occurrence.isOwn] using h

theorem withList_mute (s : Session) (list : ContactList) : s.Mute { s with list := list } := .same rfl rfl

theorem applyStatus_mute (s : Session) (x : String) (status : Status) (parent : Option Group) :
    s.Mute (s.applyStatus x status parent).1 := by
  unfold applyStatus
  split
  · exact .refl s
  · dsimp only
    split
    · exact withList_mute s _
    · exact (withList_mute s _).trans (announce_mute _ nofun)

theorem buddyIcon_mute (s : Session) (x : String) (icon : Option (List UInt8)) :
    s.Mute (s.buddyIcon x icon) := by
  unfold buddyIcon
  split
  · exact .refl s
  · exact (withList_mute s _).trans (announce_mute _ nofun)

theorem silenceGroup_mute (s : Session) (group : Group) : s.Mute (s.silenceGroup group) :=
  Mute.foldl (fun s (c : Contact) => applyStatus_mute s c.identifier .offline (some group)) s _

theorem silenceContacts_mute (s : Session) : s.Mute s.silenceContacts :=
  Mute.foldl silenceGroup_mute s _

theorem ask_mute (s : Session) (x : String) : s.Mute (s.ask x).1 := by
  have hsent : s.Mute (s.sending x) := ⟨rfl, [.requested (.userInfo x)], rfl, by simp [Occurrence.isOwn]⟩
  exact hsent.trans (ask_idle s x).toAlike.mute

theorem pollContact_mute (s : Session) (group : Group) (report : PollReport) (x : String)
    (status : Status) : s.Mute (s.pollContact group report x status).1 := by
  have happly := applyStatus_mute s x status (some group)
  rw [pollContact_fst]
  split
  · dsimp only
    split
    · refine happly.trans ⟨rfl, _, rfl, fun o ho => ?_⟩
      split at ho
      · rw [List.mem_singleton.1 ho]
        rfl
      · cases ho
    · exact happly
  · exact .refl s

theorem pollRest_mute (group : Group) (ids : List String) : ∀ (s : Session) (report : PollReport),
    s.Mute (s.pollRest group report ids).1 := by
  induction ids with
  | nil => exact fun s report => .refl s
  | cons x rest ih =>
    intro s report
    have hask := ask_mute s x
    rw [pollRest]
    rcases h : s.ask x with ⟨t, mask | wait⟩
    · rw [h] at hask
      exact (hask.trans (pollContact_mute ..)).trans (ih _ _)
    · rwa [h] at hask

theorem poll_mute (s : Session) : s.Mute s.poll.1 := by
  unfold poll
  split
  · exact .refl s
  · exact pollRest_mute ..

theorem resumePoll_mute (s : Session) (p : SuspendedPoll) (mask : Mask) :
    s.Mute (s.resumePoll p mask).1 :=
  (pollContact_mute ..).trans (pollRest_mute ..)

theorem resume_mute (s : Session) (w : Work) : s.Mute (s.resume w).1 := by
  have hreceive := (receive_idle s w.wait.query).toAlike.mute
  cases w with
  | poll p =>
    have h := hreceive.trans (resumePoll_mute _ p (s.receive p.wait.query).2)
    simp only [resume, Work.wait] at h ⊢
    split <;> next hpoll => rwa [hpoll] at h
  | _ => exact hreceive

theorem beginPoll_mute (s : Session) : s.Mute s.beginPoll.1 := by
  have h := poll_mute s
  unfold beginPoll
  split <;> next hpoll => rwa [hpoll] at h

theorem query_mute (s : Session) (x : String) : s.Mute (s.query x).1 := by
  have h := ask_mute s x
  unfold query
  split
  · exact .refl s
  · split <;> next hask => rwa [hask] at h

theorem queryMask_mute (s : Session) (x : String) : s.Mute (s.queryMask x).1 := by
  have h := ask_mute s x
  unfold queryMask
  split <;> next hask => rwa [hask] at h

theorem sendAll_mute (s : Session) (cs : List Command) : s.Mute (s.sendAll cs).1 :=
  (sendAll_quiet s "" cs).mute

theorem publish_mute (s : Session) (requested : Status) (message : String) :
    s.Mute (s.publish requested message).1 := by
  unfold publish
  split
  · exact .refl s
  · split
    · exact .refl s
    · exact .refl s
    · next commands _ =>
      have hsent := sendAll_mute s commands
      split
      · next hsend => rwa [hsend] at hsent
      · next t hsend =>
        rw [hsend] at hsent
        have hask := hsent.trans (ask_mute t t.localIdentifier)
        split <;> next h => rwa [h] at hask

theorem lasting_mute (s : Session) : Lasting s.Mute where
  signal q h := h.trans (signal_idle _ q .expiry).toAlike.mute
  time _ h := ⟨h.own, h.trace⟩
  tick {t} h := by
    unfold tick
    split
    · split
      · exact h.trans ⟨(poll_mute t).own, (poll_mute t).trace⟩
      · exact h
    · exact h
  wakeWaiter {t} q h := by
    rcases exists_waiter t q with ⟨tasks, others, query⟩ | ⟨others, poller, query⟩ | nobody
    · next before after name w =>
      rw [wakeWaiter_of_task tasks others query]
      exact h.trans ⟨(resume_mute t w).own, (resume_mute t w).trace⟩
    · next due p =>
      have hresumed := (receive_idle t q).toAlike.mute.trans (resumePoll_mute _ p (t.receive q).2)
      rw [wakeWaiter_of_poller others poller query]
      exact h.trans ⟨hresumed.own, hresumed.trace⟩
    · rwa [wakeWaiter_of_nobody nobody]

theorem settle_mute (s : Session) : s.Mute s.settle := (lasting_mute s).settle (.refl s)

theorem await_mute (s : Session) (name : TaskName) : s.Mute (s.await name) :=
  (lasting_mute s).await name (.refl s)

theorem advance_mute (s : Session) (ms : Nat) : s.Mute (s.advance ms) := by
  have hlasting := lasting_mute s
  have hpassed := hlasting.passUntil (fun _ => false) (s.now + ms) (.refl s)
  exact hlasting.time _ (hlasting.settle (hlasting.time _ hpassed))

theorem complete_mute {s : Session} {begun : Session × (Outcome ⊕ Work)} (h : s.Mute begun.1) :
    s.Mute (complete begun).1 := by
  have hawait := await_mute (addTask .foreground begun) .foreground
  have hadded : s.Mute (addTask .foreground begun) := ⟨h.own, h.trace⟩
  have hdone := hadded.trans hawait
  exact ⟨hdone.own, hdone.trace⟩

theorem deliver_mute (s : Session) (response : Response) : s.Mute (s.deliver response).1 := by
  have hcleared : s.Mute { s with server := { s.server with unanswered := [] } } := .same rfl rfl
  have hsignal (t : Session) (q : Nat) : t.Mute (t.signal q (.response response)) :=
    (signal_idle t q _).toAlike.mute
  have hsignalled := hcleared.trans (Mute.foldl hsignal _ s.server.unanswered)
  have hwoken (t : Session) (q : Nat) : t.Mute (t.wakeWaiter q) := (lasting_mute t).wakeWaiter q (.refl t)
  exact hsignalled.trans (Mute.foldl hwoken _ s.server.unanswered)

/-- What a step does about ourselves: nothing, or it takes in a report, or ends a login. -/
inductive Speaks (s : Session) (step : Step) : Session → Prop
  | mute {t : Session} (mute : s.Mute t) : Speaks s step t
  | status (info : UserInfo) : Speaks s step (s.ownInfo info).1
  | message (message : Option String) : Speaks s step (s.ownMessage message).1
  | reset {t : Session} (disconnects : step.disconnects = true) (mute : s.resetStatus.Mute t) :
      Speaks s step t

theorem register_mute (s : Session) : s.Mute s.register := by
  unfold register startPolling loadList
  dsimp only
  split
  · exact .same rfl rfl
  · exact .same rfl rfl

theorem disconnect_mute (s : Session) : s.resetStatus.Mute s.disconnect := by
  have hstopped : s.resetStatus.Mute s.stopPolling.resetStatus := by
    unfold resetStatus stopPolling
    dsimp only
    split
    · exact .same rfl rfl
    · exact .same rfl rfl
  exact hstopped.trans (silenceContacts_mute _)

theorem registrationChanged_speaks (s : Session) (new : Registration) :
    Speaks s (.registrationChanged new) (s.registrationChanged new) := by
  unfold registrationChanged
  split
  · exact .mute (register_mute s)
  · split
    · next hdisconnect => exact .reset hdisconnect (disconnect_mute s)
    · exact .mute (.refl s)

theorem handle_speaks (s : Session) (step : Step) (e : ServerEvent) : Speaks s step (s.handle e) := by
  cases e with
  | ownInfo info => exact .status info
  | ownExtraInfo message => exact .message message
  | buddyStatus info => exact .mute (applyStatus_mute ..)
  | buddyOffline x => exact .mute (applyStatus_mute ..)
  | buddyIcon x icon => exact .mute (buddyIcon_mute s x icon)
  | authorizationRequestReceived x _ => exact .mute (authorizationRequested_quiet s x).mute
  | authorizationAccepted x reason => exact .mute (authorizationAccepted_quiet s x reason).mute
  | authorizationDenied x reason => exact .mute (authorizationDenied_quiet s x reason).mute
  | futureAuthorizationGranted | youWereAdded => exact .mute (.refl s)

theorem editList_mute (s : Session) (r : Except Failure ContactList) : s.Mute (s.editList r).1 := by
  unfold editList
  split
  · exact withList_mute s _
  · exact .refl s

/-- No other step says anything about ourselves. -/
theorem act_mute (s : Session) {step : Step} (h : step.concernsUs = false) : s.Mute (s.act step).1 := by
  cases step with
  | registrationChanged | ownInfo | ownMessage | handle | emit => cases h
  | setAnswer x => cases x <;> exact .same rfl rfl
  | deliver response => exact deliver_mute s response
  | requireAuthorization x parent =>
    simp only [act]
    split
    · exact (authorizationRequired_quiet s x parent).mute
    · exact .refl s
  | authorizationRequired x parent => exact (authorizationRequired_quiet s x parent).mute
  | buddyStatus info => exact applyStatus_mute ..
  | buddyOffline x => exact applyStatus_mute ..
  | publish status message => exact complete_mute (publish_mute s status message)
  | query x => exact complete_mute (query_mute s x)
  | queryMask x => exact complete_mute (queryMask_mute s x)
  | poll => exact complete_mute (beginPoll_mute s)
  | spawnPoll task => exact ⟨(beginPoll_mute s).own, (beginPoll_mute s).trace⟩
  | spawnQuery task x => exact ⟨(query_mute s x).own, (query_mute s x).trace⟩
  | join task => exact await_mute s _
  | advance ms => exact advance_mute s ms
  | setStatusMessage message =>
    rw [act, done_fst, setStatusMessage]
    split
    · exact .refl s
    · exact sendAll_mute s _
  | subscribe x | subscribeIn group x =>
    rw [act, done_fst]
    exact (Quiet.guarded fun _ => addContact_quiet ..).mute
  | unsubscribe x =>
    rw [act, done_fst]
    exact (unsubscribe_quiet s x).mute
  | moveContact x group =>
    rw [act, done_fst]
    exact (Quiet.guarded fun _ => shiftContact_quiet ..).mute
  | createGroup parent name =>
    rw [act, done_fst]
    exact (Quiet.guarded fun _ => storeGroup_quiet s name _).mute
  | removeGroup name =>
    rw [act, done_fst]
    exact (Quiet.guarded fun _ => dropGroup_quiet s name _).mute
  | renameGroup name newName =>
    rw [act, done_fst]
    exact (Quiet.guarded fun _ => retitleGroup_quiet s name _ _).mute
  | createUnresolvedContact x data parent =>
    rw [act, outcomeOf_fst]
    exact (createUnresolvedContact_quiet s x data parent).mute
  | ensureAwaitingGroup => exact (ensureAwaitingGroup_quiet s "").mute
  | relocate x group => exact editList_mute s _
  | update c => exact editList_mute s _
  | detach x => exact editList_mute s _
  | addContact group x =>
    rw [act, done_fst]
    exact (addContact_quiet s group x).mute
  | deleteContact group x =>
    rw [act, done_fst]
    exact (deleteContact_quiet s group x).mute
  | shiftContact x group =>
    rw [act, done_fst]
    exact (shiftContact_quiet s x group).mute
  | storeGroup name =>
    rw [act, done_fst]
    exact (storeGroup_quiet s name name).mute
  | dropGroup name =>
    rw [act, done_fst]
    exact (dropGroup_quiet s name name).mute
  | retitleGroup name newName =>
    rw [act, done_fst]
    exact (retitleGroup_quiet s name name newName).mute
  | createUnresolved group x data =>
    simp only [act]
    split
    · exact withList_mute s _
    · exact .refl s
  | _ => exact .same rfl rfl

theorem act_speaks (s : Session) (step : Step) : Speaks s step (s.act step).1 := by
  cases step with
  | registrationChanged new => exact registrationChanged_speaks s new
  | ownInfo info => exact .status info
  | ownMessage message => exact .message message
  | handle e => exact handle_speaks s _ e
  | emit e =>
    simp only [act]
    split
    · exact handle_speaks s _ e
    · exact .mute (.refl s)
  | _ => exact .mute (act_mute s rfl)

end Mute

/-- What a listener is told leads from our status and message to our status and message; the message is told
to those alone who take everything. -/
structure Voiced (l : Listener) (s t : Session) : Prop where
  status : ∃ cs, t.ownChanges l = s.ownChanges l ++ cs ∧
    Chained OwnStatusChange.oldStatus OwnStatusChange.newStatus s.status cs t.status
  message : (∀ n, l.hears n = true) → ∃ cs, t.messageChanges l = s.messageChanges l ++ cs ∧
    Chained StatusMessageChange.oldMessage StatusMessageChange.newMessage s.own.message cs t.own.message

section Voiced

variable {l : Listener} {s t u : Session}

theorem ownChanges_append {new : List Occurrence} (h : t.trace = s.trace ++ new) :
    t.ownChanges l = s.ownChanges l ++ (notices l new).filterMap Notice.ownStatus? := by
  rw [ownChanges, heard_append h, List.filterMap_append]
  rfl

theorem messageChanges_append {new : List Occurrence} (h : t.trace = s.trace ++ new) :
    t.messageChanges l = s.messageChanges l ++ (notices l new).filterMap Notice.statusMessage? := by
  rw [messageChanges, heard_append h, List.filterMap_append]
  rfl

theorem ownChanges_announce (s : Session) (own : OwnPresence) (n : Notice) :
    ({ s with own := own }.announce n).ownChanges l =
      s.ownChanges l ++ (notices l (s.deliveries n)).filterMap Notice.ownStatus? :=
  ownChanges_append rfl

theorem messageChanges_announce (s : Session) (own : OwnPresence) (n : Notice) :
    ({ s with own := own }.announce n).messageChanges l =
      s.messageChanges l ++ (notices l (s.deliveries n)).filterMap Notice.statusMessage? :=
  messageChanges_append rfl

/-- A notice tells nothing of another kind. -/
theorem filterMap_deliveries {α : Type} {f : Notice → Option α} {n : Notice} (h : f n = none)
    (s : Session) (l : Listener) : (notices l (s.deliveries n)).filterMap f = [] := by
  rw [List.filterMap_eq_nil_iff]
  intro n' hn'
  obtain ⟨o, ho, hon⟩ := List.mem_filterMap.1 hn'
  obtain ⟨l', -, rfl⟩ := List.mem_map.1 ho
  simp only [Occurrence.notice?] at hon
  split at hon
  · cases hon
    exact h
  · cases hon

/-- Nobody is told anything about ourselves by what is mute. -/
theorem Mute.changes (h : s.Mute t) (l : Listener) :
    t.ownChanges l = s.ownChanges l ∧ t.messageChanges l = s.messageChanges l := by
  obtain ⟨new, htrace, hnew⟩ := h.trace
  have hchannel : ∀ n ∈ notices l new, n.channel ≠ .provider := by
    intro n hn
    obtain ⟨o, ho, hon⟩ := List.mem_filterMap.1 hn
    have hother := hnew o ho
    cases o with
    | delivered l' n' =>
      simp only [Occurrence.notice?] at hon
      split at hon
      · cases hon
        simpa [Occurrence.isOwn] using hother
      · cases hon
    | _ => cases hon
  have hstatus : (notices l new).filterMap Notice.ownStatus? = [] := by
    rw [List.filterMap_eq_nil_iff]
    intro n hn
    cases n with
    | ownStatus c => exact absurd rfl (hchannel _ hn)
    | _ => rfl
  have hmessage : (notices l new).filterMap Notice.statusMessage? = [] := by
    rw [List.filterMap_eq_nil_iff]
    intro n hn
    cases n with
    | statusMessage c => exact absurd rfl (hchannel _ hn)
    | _ => rfl
  rw [ownChanges_append htrace, messageChanges_append htrace, hstatus, hmessage, List.append_nil,
    List.append_nil]
  exact ⟨rfl, rfl⟩

theorem Voiced.refl (l : Listener) (s : Session) : Voiced l s s :=
  ⟨⟨[], (List.append_nil _).symm, .nil _⟩, fun _ => ⟨[], (List.append_nil _).symm, .nil _⟩⟩

theorem Voiced.trans (h₁ : Voiced l s t) (h₂ : Voiced l t u) : Voiced l s u := by
  constructor
  · obtain ⟨cs, hcs, hchain⟩ := h₁.status
    obtain ⟨ds, hds, hchain'⟩ := h₂.status
    exact ⟨cs ++ ds, by rw [hds, hcs, List.append_assoc], hchain.append hchain'⟩
  · intro hears
    obtain ⟨cs, hcs, hchain⟩ := h₁.message hears
    obtain ⟨ds, hds, hchain'⟩ := h₂.message hears
    exact ⟨cs ++ ds, by rw [hds, hcs, List.append_assoc], hchain.append hchain'⟩

theorem Mute.voiced (h : s.Mute t) (l : Listener) : Voiced l s t := by
  obtain ⟨hstatus, hmessage⟩ := h.changes l
  refine ⟨⟨[], by rw [hstatus, List.append_nil], ?_⟩,
    fun _ => ⟨[], by rw [hmessage, List.append_nil], ?_⟩⟩
  · rw [status, status, h.own]
    exact .nil _
  · rw [h.own]
    exact .nil _

/-- Somebody is registered for what is said about ourselves, and everybody is so once. -/
structure Follows (l : Listener) (s : Session) : Prop where
  lawful : s.hub.Lawful
  registered : l ∈ s.hub.provider.listeners

theorem Follows.of_hub (h : Follows l s) (hub : t.hub = s.hub) : Follows l t :=
  ⟨hub ▸ h.lawful, hub ▸ h.registered⟩

theorem Follows.deed {step : Step} (h : Follows l s) (deed : Deed s step t)
    (stays : step.unregisters l .provider = false) : Follows l t := by
  rcases deed.hub with hub | hub
  · exact h.of_hub hub
  · exact ⟨hub ▸ step.rehub_lawful h.lawful, hub ▸ Step.mem_rehub (c := .provider) stays h.registered⟩

/-- Our status becomes another one, and everybody is told. -/
theorem voiced_of_status (h : Follows l s) {mask : Mask} (change : s.status ≠ mask.status) :
    Voiced l s ({ s with own := { s.own with mask := mask } }.announce
      (.ownStatus ⟨s.status, mask.status⟩)) := by
  have heard : notices l (s.deliveries (.ownStatus ⟨s.status, mask.status⟩)) =
      [.ownStatus ⟨s.status, mask.status⟩] := by
    rw [notices_deliveries h.lawful, if_pos]
    exact ⟨h.registered, by cases l with | tally => rfl | named _ c => cases c <;> rfl⟩
  constructor
  · let told : OwnStatusChange := ⟨s.status, mask.status⟩
    refine ⟨[told], ?_, .cons (c := told) change (.nil _)⟩
    rw [ownChanges_announce, heard]
    rfl
  · intro _
    refine ⟨[], ?_, .nil _⟩
    rw [messageChanges_announce, filterMap_deliveries rfl s l]

theorem ownInfo_voiced (h : Follows l s) (info : UserInfo) : Voiced l s (s.ownInfo info).1 := by
  simp only [ownInfo]
  split
  · exact .refl l s
  · next hchange => exact voiced_of_status h hchange

/-- A mask that is reset was known, and so our status is another one. -/
theorem resetStatus_voiced (h : Follows l s) : Voiced l s s.resetStatus := by
  simp only [resetStatus]
  split
  · next hunknown =>
    have hmask : s.own.mask = .unknown := by simpa [Mask.isUnknown] using hunknown
    have hsame : ({ s with own := { s.own with mask := .unknown } } : Session) = s := by rw [← hmask]
    rw [hsame]
    exact .refl l s
  · next hknown =>
    have hchange : s.status ≠ Mask.unknown.status := by
      intro hoffline
      exact hknown (s.status_eq_offline_iff.1 (hoffline.trans Mask.status_unknown))
    exact voiced_of_status h hchange

theorem ownMessage_voiced (h : Follows l s) (message : Option String) :
    Voiced l s (s.ownMessage message).1 := by
  unfold ownMessage
  split
  · exact .refl l s
  · next message =>
    split
    · exact .refl l s
    · next hchange =>
      constructor
      · refine ⟨[], ?_, .nil _⟩
        rw [ownChanges_announce, filterMap_deliveries rfl s l]
      · intro hears
        have heard : notices l (s.deliveries (.statusMessage ⟨s.own.message, message⟩)) =
            [.statusMessage ⟨s.own.message, message⟩] := by
          rw [notices_deliveries h.lawful, if_pos ⟨h.registered, hears _⟩]
        let told : StatusMessageChange := ⟨s.own.message, message⟩
        refine ⟨[told], ?_, .cons (c := told) hchange (.nil _)⟩
        rw [messageChanges_announce, heard]
        rfl

theorem Speaks.voiced {step : Step} (speaks : Speaks s step t) (h : Follows l s) : Voiced l s t := by
  cases speaks with
  | mute mute => exact mute.voiced l
  | status info => exact ownInfo_voiced h info
  | message message => exact ownMessage_voiced h message
  | reset _ mute => exact (resetStatus_voiced h).trans (mute.voiced l)

theorem moments_voiced (steps : List Step) : ∀ {s : Session}, s.Sound → Follows l s →
    (∀ step ∈ steps, step.unregisters l .provider = false) →
    ∀ t ∈ s.moments steps, Voiced l s t := by
  induction steps with
  | nil =>
    intro s _ _ _ t ht
    rw [List.mem_singleton.1 ht]
    exact .refl l s
  | cons step steps ih =>
    intro s hs hl stays t ht
    have hact := (act_speaks s step).voiced hl
    have hsettle := settle_course (act_sound hs step)
    have hfollows := hl.deed (act_deed hs step) (stays step (by simp))
    rcases List.mem_cons.1 ht with rfl | ht
    · exact .refl l _
    rcases List.mem_cons.1 ht with rfl | ht
    · exact hact
    · have hlater := ih (perform_sound hs step) (hfollows.of_hub hsettle.frame.hub)
        (fun step' h => stays step' (List.mem_cons_of_mem _ h)) t ht
      exact (hact.trans ((settle_mute _).voiced l)).trans hlater

end Voiced

/-- A mask that is known stays so, unless a login ends. -/
theorem Speaks.known {s t : Session} {step : Step} (speaks : Speaks s step t)
    (stays : step.disconnects = false) (known : s.own.mask.isUnknown = false) :
    t.own.mask.isUnknown = false := by
  cases speaks with
  | mute mute => rwa [mute.own]
  | status info =>
    simp only [ownInfo]
    split
    · exact known
    · exact s.settings.mode.ownMask_known info
  | message message =>
    unfold ownMessage
    split
    · exact known
    · split <;> exact known
  | reset disconnects _ => simp [disconnects] at stays

/-- The end of a login is no news about our message. -/
theorem message_of_disconnects {s : Session} {step : Step} (h : step.disconnects = true)
    (l : Listener) : (s.act step).1.own.message = s.own.message ∧
      (s.act step).1.messageChanges l = s.messageChanges l := by
  cases step with
  | registrationChanged new =>
    have hmute := disconnect_mute s
    have hreset : s.resetStatus.own.message = s.own.message ∧
        s.resetStatus.messageChanges l = s.messageChanges l := by
      simp only [resetStatus]
      split
      · exact ⟨rfl, rfl⟩
      · refine ⟨rfl, ?_⟩
        rw [messageChanges_announce, filterMap_deliveries rfl s l,
          List.append_nil]
    rw [act, registrationChanged_of_isDisconnect h]
    rw [hmute.own, (hmute.changes l).2]
    exact hreset
  | _ => cases h

/-- Nothing is known of ourselves at first. -/
theorem own_of_build {a : Assembly} {s : Session} (built : a.build = .ok s) : s.own = {} := by
  unfold Assembly.build at built
  split at built <;> cases built
  rfl

/-- Through a run, what a listener that is registered from the start is told about our own status and about
our message forms a chain each. The one starts from being offline, the other from the empty message, and
they end in the status and in the message of the moment. Our mask is unknown exactly while we are offline,
and of all steps only one that ends a login makes it so; but no such step is news about our message. -/
theorem own_changes_form_chains {a : Assembly} {s₀ : Session} (built : a.build = .ok s₀)
    (steps : List Step) (l : Listener) (registered : l ∈ s₀.hub.provider.listeners)
    (stays : ∀ step ∈ steps, step.unregisters l .provider = false) :
    (∀ t ∈ s₀.moments steps,
      Chained OwnStatusChange.oldStatus OwnStatusChange.newStatus .offline (t.ownChanges l) t.status ∧
      t.status = ((t.ownChanges l).getLast?.map OwnStatusChange.newStatus).getD .offline ∧
      (t.own.mask.isUnknown = true ↔ t.status = .offline) ∧
      ((∀ n, l.hears n = true) →
        Chained StatusMessageChange.oldMessage StatusMessageChange.newMessage "" (t.messageChanges l)
          t.own.message ∧
        t.own.message =
          ((t.messageChanges l).getLast?.map StatusMessageChange.newMessage).getD "")) ∧
    (∀ before step, before ++ [step] <+: steps →
      let s := s₀.run before
      (step.disconnects = false → s.own.mask.isUnknown = false →
        (s.act step).1.own.mask.isUnknown = false ∧ (s.perform step).1.own.mask.isUnknown = false) ∧
      (step.disconnects = true → ∀ t ∈ [(s.act step).1, (s.perform step).1],
        t.own.message = s.own.message ∧ t.messageChanges l = s.messageChanges l)) := by
  have hfresh := Assembly.fresh_of_build built
  have hfollows : Follows l s₀ := ⟨Assembly.lawful_of_build built, registered⟩
  have hown := own_of_build built
  have hheard : s₀.heard l = [] := by rw [heard_eq, hfresh.trace]; rfl
  refine ⟨fun t ht => ?_, fun before step hbefore => ?_⟩
  · have hvoiced := moments_voiced steps hfresh.sound hfollows stays t ht
    obtain ⟨cs, hcs, hchain⟩ := hvoiced.status
    have hnone : s₀.ownChanges l = [] := by rw [ownChanges, hheard]; rfl
    have hoffline : s₀.status = .offline := by rw [status, hown]; exact Mask.status_unknown
    rw [hnone, List.nil_append] at hcs
    rw [← hcs, hoffline] at hchain
    refine ⟨hchain, hchain.last, t.status_eq_offline_iff.symm, fun hears => ?_⟩
    obtain ⟨ms, hms, hchain⟩ := hvoiced.message hears
    have hnone : s₀.messageChanges l = [] := by rw [messageChanges, hheard]; rfl
    rw [hnone, List.nil_append] at hms
    rw [← hms, hown] at hchain
    exact ⟨hchain, hchain.last⟩
  · intro s
    have hsettle := settle_mute (s.act step).1
    refine ⟨fun hstays hknown => ?_, fun hdisconnects t ht => ?_⟩
    · have hact := (act_speaks s step).known hstays hknown
      refine ⟨hact, ?_⟩
      change (s.act step).1.settle.own.mask.isUnknown = false
      rwa [hsettle.own]
    · have hact := message_of_disconnects (s := s) hdisconnects l
      rcases List.mem_cons.1 ht with rfl | ht
      · exact hact
      · obtain rfl : t = (s.act step).1.settle := List.mem_singleton.1 ht
        rw [hsettle.own, (hsettle.changes l).2]
        exact hact

/-- We come online with a message, and log out. -/
theorem own_chains_of_logout :
    let a : Assembly :=
      { connection := some ⟨"12345", true⟩, list := some ⟨"root", [⟨.root "root", none⟩], []⟩
        listeners := [.tally] }
    let s₀ : Session :=
      { settings := {}, localIdentifier := "12345", reRequests := false
        list := ⟨"root", [⟨.root "root", none⟩], []⟩, desk := ⟨{}, 0, false⟩
        hub := ⟨⟨[.tally]⟩, ⟨[.tally]⟩, ⟨[.tally]⟩, ⟨[.tally]⟩⟩ }
    let steps : List Step :=
      [.ownInfo (.plain "12345" .online), .ownMessage (some "Hello"), .registrationChanged .unregistered]
    let t := s₀.run steps
    a.build = .ok s₀ ∧ .tally ∈ s₀.hub.provider.listeners ∧
      (∀ step ∈ steps, step.unregisters .tally .provider = false) ∧
      t.ownChanges .tally = [⟨.offline, .online⟩, ⟨.online, .offline⟩] ∧
      t.messageChanges .tally = [⟨"", "Hello"⟩] ∧
      t.status = .offline ∧ t.own.message = "Hello" := by
  intro a s₀ steps t
  have built : a.build = .ok s₀ := rfl
  have registered : .tally ∈ s₀.hub.provider.listeners := by decide
  have stays : ∀ step ∈ steps, step.unregisters .tally .provider = false := by decide
  have hstatuses : t.ownChanges .tally = [⟨.offline, .online⟩, ⟨.online, .offline⟩] := by
    decide +kernel
  have hmessages : t.messageChanges .tally = [⟨"", "Hello"⟩] := by decide +kernel
  have hlast : t ∈ s₀.moments steps :=
    List.mem_of_getLast? (getLast?_moments steps s₀)
  obtain ⟨-, hstatus, -, hmessage⟩ :=
    (own_changes_form_chains built steps .tally registered stays).1 t hlast
  rw [hstatuses] at hstatus
  rw [(hmessage fun _ => rfl).2, hmessages]
  exact ⟨built, registered, stays, hstatuses, rfl, hstatus, rfl⟩

end Session

end Roster
