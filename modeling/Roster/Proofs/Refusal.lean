import Roster.Proofs.QueryOutcome

/-! What an application asks for in vain. Every operation checks first, then lets the server refuse, and
only then changes anything; so one that fails has changed nothing, and nothing becomes due by it. -/

namespace Roster

/-- Asked for by an application, which needs a connection for it. -/
def Step.needsConnection : Step → Bool
  | .publish .. | .setStatusMessage _ | .query _ | .subscribe _ | .subscribeIn .. | .unsubscribe _
  | .moveContact .. | .createGroup .. | .removeGroup _ | .renameGroup .. => true
  | _ => false

/-- Asked for by an application, and perhaps in vain. -/
def Step.isRequest : Step → Bool
  | .createUnresolvedContact .. => true
  | step => step.needsConnection

namespace Session

/-- If it fails, it leaves the session as it was. -/
def Harmless {α : Type} (s : Session) (r : Session × Except Failure α) : Prop :=
  ∀ f, r.2 = .error f → r.1 = s

section Harmless

variable {s : Session}

theorem Harmless.guarded {α : Type} {check : Except Failure α}
    {next : α → Session × Except Failure Unit} (h : ∀ a, check = .ok a → s.Harmless (next a)) :
    s.Harmless (s.guarded check next) := by
  unfold Session.guarded
  split
  · exact fun _ _ => rfl
  · next a => exact h a rfl

theorem addContact_harmless (s : Session) (group : Option String) (x : String) :
    s.Harmless (s.addContact group x) := by
  unfold addContact
  split
  · exact fun _ _ => rfl
  · exact nofun

theorem deleteContact_harmless (s : Session) (group x : String) :
    s.Harmless (s.deleteContact group x) := by
  unfold deleteContact
  split
  · exact fun _ _ => rfl
  · split <;> exact nofun

/-- The list does not refuse to move somebody it knows to a group it has. -/
theorem shiftContact_harmless {x group : String} (known : (s.list.contact? x).isSome)
    (there : (s.list.group? group).isSome) : s.Harmless (s.shiftContact x group) := by
  unfold shiftContact
  split
  · exact fun _ _ => rfl
  · next t hcommit =>
    have hlist : t.list = s.list := by
      unfold commit at hcommit
      split at hcommit <;> cases hcommit
      rfl
    have hmoves : t.list.relocate x group =
        .ok (t.list.modifyMember x fun m => { m with group := group }) := by
      rw [ContactList.relocate, hlist, if_neg (by simpa [Option.isSome_iff_ne_none] using there),
        if_neg (by simpa [Option.isSome_iff_ne_none] using known)]
    dsimp only
    rw [hmoves]
    dsimp only
    split <;> (intro f hf; cases hf)

theorem storeGroup_harmless (s : Session) (name : String) : s.Harmless (s.storeGroup name) := by
  unfold storeGroup
  split
  · exact fun _ _ => rfl
  · exact nofun

theorem dropGroup_harmless (s : Session) (name : String) : s.Harmless (s.dropGroup name) := by
  unfold dropGroup
  split
  · exact fun _ _ => rfl
  · dsimp only
    split <;> exact nofun

theorem retitleGroup_harmless (s : Session) (name newName : String) :
    s.Harmless (s.retitleGroup name newName) := by
  unfold retitleGroup
  split
  · exact fun _ _ => rfl
  · dsimp only
    split <;> exact nofun

theorem sendAll_of_takes {s : Session} (h : s.server.refusesCommands = false) (cs : List Command) :
    (s.sendAll cs).2 = .ok () := by
  induction cs generalizing s with
  | nil => rfl
  | cons c cs ih =>
    have hsent : s.send c = .ok (s.record (.commanded c)) := by simp [send, h]
    simp only [sendAll, hsent]
    exact ih h

/-- A server that refuses commands refuses the first of several. -/
theorem sendAll_harmless (s : Session) (cs : List Command) : s.Harmless (s.sendAll cs) := by
  intro f hfails
  cases hrefuses : s.server.refusesCommands with
  | false =>
    rw [sendAll_of_takes hrefuses] at hfails
    cases hfails
  | true =>
    cases cs with
    | nil => rfl
    | cons c cs => simp [sendAll, send, hrefuses]

theorem setStatusMessage_harmless (s : Session) (message : String) :
    s.Harmless (s.setStatusMessage message) := by
  unfold setStatusMessage
  split
  · exact fun _ _ => rfl
  · exact sendAll_harmless s _

theorem subscribe_harmless (s : Session) (x : String) : s.Harmless (s.subscribe x) :=
  .guarded fun _ _ => addContact_harmless s _ x

theorem subscribeIn_harmless (s : Session) (group x : String) : s.Harmless (s.subscribeIn group x) :=
  .guarded fun _ _ => addContact_harmless s _ x

theorem unsubscribe_harmless (s : Session) (x : String) : s.Harmless (s.unsubscribe x) := by
  refine .guarded fun (contact, group) _ => ?_
  dsimp only
  split
  · exact .guarded fun _ _ => nofun
  · split <;> exact deleteContact_harmless s _ x

theorem isSome_of_requireGroup {s : Session} {name : String} {g : Group}
    (h : s.requireGroup name = .ok g) : (s.list.group? g.name).isSome := by
  unfold requireGroup at h
  split at h
  · next hg =>
    cases h
    rw [ContactList.name_of_group? hg, hg]
    rfl
  · cases h

/-- Whoever may be moved is known, and the group is there. -/
theorem isSome_of_requireMovable {s : Session} {x group : String} {target : Group}
    (h : s.requireMovable x group = .ok target) :
    (s.list.contact? x).isSome ∧ (s.list.group? target.name).isSome := by
  simp only [requireMovable, bind, Except.bind, throw, throwThe, MonadExceptOf.throw, pure,
    Except.pure] at h
  split at h
  · cases h
  split at h
  · cases h
  next hknown =>
  split at h
  · cases h
  next hgroup =>
  split at h
  · cases h
  split at h
  · cases h
  cases h
  exact ⟨by simpa [Option.isSome_iff_ne_none] using hknown, isSome_of_requireGroup hgroup⟩

theorem moveContact_harmless (s : Session) (x group : String) : s.Harmless (s.moveContact x group) :=
  .guarded fun _ h => shiftContact_harmless (isSome_of_requireMovable h).1 (isSome_of_requireMovable h).2

theorem createGroup_harmless (s : Session) (parent name : String) :
    s.Harmless (s.createGroup parent name) :=
  .guarded fun _ _ => storeGroup_harmless s name

theorem removeGroup_harmless (s : Session) (name : String) : s.Harmless (s.removeGroup name) :=
  .guarded fun _ _ => dropGroup_harmless s _

theorem renameGroup_harmless (s : Session) (name newName : String) :
    s.Harmless (s.renameGroup name newName) :=
  .guarded fun _ _ => retitleGroup_harmless s _ newName

theorem createUnresolvedContact_harmless (s : Session) (x : String) (data parent : Option String) :
    s.Harmless (s.createUnresolvedContact x data parent) := by
  unfold createUnresolvedContact
  dsimp only
  split
  · exact nofun
  · exact fun _ _ => rfl

theorem query_of_failed {s : Session} {x : String} {f : Failure}
    (h : (s.query x).2 = .inl (.failed f)) : (s.query x).1 = s := by
  unfold query at h ⊢
  split
  · rfl
  · next hregistered =>
    rw [if_neg hregistered] at h
    split at h <;> cases h

theorem publish_of_failed {s : Session} {status : Status} {message : String} {f : Failure}
    (h : (s.publish status message).2 = .inl (.failed f)) : (s.publish status message).1 = s := by
  unfold publish at h ⊢
  split
  · rfl
  · next hregistered =>
    rw [if_neg hregistered] at h
    split
    · rfl
    · rfl
    · next commands hcommands =>
      have hsent := sendAll_harmless s commands
      simp only [hcommands] at h
      split at h
      · next hfails =>
        rw [hfails] at hsent
        exact hsent _ rfl
      · split at h <;> cases h

/-- An operation that is over at once does not let time pass. -/
theorem complete_of_inl (s : Session) (o : Outcome) :
    complete (s, .inl o) = ({ s with tasks := s.tasks.filter (·.name ≠ .foreground) }, o) := by
  have htask : (addTask .foreground (s, .inl o)).task? .foreground =
      some ⟨.foreground, .finished o⟩ := by simp [task?, addTask, TaskState.ofResult]
  have hawait : (addTask .foreground (s, .inl o)).await .foreground =
      addTask .foreground (s, .inl o) := by rw [await, htask]
  simp only [complete, hawait, outcome?, htask]
  simp [addTask, Task.outcome?]

theorem outcomeOf_failed {α : Type} {g : α → Outcome} (hg : ∀ a f, g a ≠ .failed f)
    {r : Session × Except Failure α} {f : Failure} (h : (outcomeOf g r).2 = .failed f) :
    r.2 = .error f := by
  obtain ⟨t, e | a⟩ := r
  · cases h
    rfl
  · exact absurd h (hg a f)

theorem Harmless.done {r : Session × Except Failure Unit} (hr : s.Harmless r) {f : Failure}
    (h : (done r).2 = .failed f) : (done r).1 = s := by
  rw [done_fst]
  exact hr f (outcomeOf_failed nofun h)

end Harmless

/-- What is kept by whatever is done while time passes. -/
structure Lasting (P : Session → Prop) : Prop where
  signal : ∀ {s : Session} (q : Nat), P s → P (s.signal q .expiry)
  wakeWaiter : ∀ {s : Session} (q : Nat), P s → P (s.wakeWaiter q)
  tick : ∀ {s : Session}, P s → P s.tick
  time : ∀ {s : Session} (moment : Nat), P s → P { s with now := moment }

section Lasting

variable {P : Session → Prop} {s : Session}

theorem Lasting.settle (h : Lasting P) (hs : P s) : P s.settle := by
  have hexpired (qs : List Nat) : ∀ {s : Session}, P s → P (qs.foldl expire s) := by
    induction qs with
    | nil => exact id
    | cons q qs ih => exact fun hs => ih (h.wakeWaiter q (h.signal q hs))
  exact h.tick (hexpired s.overdue hs)

theorem Lasting.passUntil (h : Lasting P) (stop : Session → Bool) (moment : Nat) (hs : P s) :
    P (passUntil stop moment s) :=
  passUntil_keeps (fun _ next hs _ _ => h.time next (h.settle (h.time next hs))) s hs

theorem Lasting.await (h : Lasting P) (name : TaskName) (hs : P s) : P (s.await name) := by
  unfold Session.await
  split
  · exact h.passUntil _ _ hs
  · exact hs

end Lasting

/-- The task of a name has not failed. -/
def Unfailed (name : TaskName) (s : Session) : Prop :=
  ∃ task, s.task? name = some task ∧ ∀ f, task.state ≠ .finished (.failed f)

theorem Unfailed.of_tasks {name : TaskName} {s t : Session} (h : s.Unfailed name)
    (tasks : t.tasks = s.tasks) : t.Unfailed name := by
  rwa [Unfailed, task?, tasks]

/-- What goes on after a query does not fail. -/
theorem resume_ne_failed (s : Session) (w : Work) (f : Failure) :
    (s.resume w).2 ≠ .inl (.failed f) := by
  cases w with
  | poll p =>
    simp only [resume]
    split <;> simp
  | _ => simp [resume]

theorem ofResult_ne_failed {r : Outcome ⊕ Work} (h : ∀ f, r ≠ .inl (.failed f)) (f : Failure) :
    TaskState.ofResult r ≠ .finished (.failed f) := by
  cases r with
  | inl o => exact fun ho => h f (by cases ho; rfl)
  | inr w => exact nofun

theorem lasting_unfailed (name : TaskName) : Lasting (Unfailed name) where
  signal _ h := h
  time _ h := h
  tick {s} h := by
    unfold tick
    split
    · split
      · exact h.of_tasks (poll_begins s).1.tasks
      · exact h
    · exact h
  wakeWaiter {s} q h := by
    rcases exists_waiter s q with ⟨tasks, others, query⟩ | ⟨others, poller, query⟩ | nobody
    · next before after name' w =>
      obtain ⟨task, htask, hsound⟩ := h
      rw [task?, tasks] at htask
      rw [wakeWaiter_of_task tasks others query]
      by_cases hsame : task = ⟨name', .working w⟩
      · subst hsame
        -- those before it do not wait for the query, so the one that is found is the one that goes on
        have hbefore : before.find? (·.name = name) = none := by
          refine Option.eq_none_iff_forall_ne_some.2 fun t hfind => ?_
          rw [List.find?_append, hfind] at htask
          cases htask
          simpa [Task.wait?, query] using others _ (List.mem_of_find?_eq_some hfind)
        have hname : name' = name := by simpa using List.find?_some htask
        refine ⟨⟨name', .ofResult (s.resume w).2⟩, ?_, ofResult_ne_failed (resume_ne_failed s w)⟩
        rw [task?, List.find?_append, hbefore]
        simp [hname]
      · exact ⟨task, task?_of_replaced htask hsame, hsound⟩
    · next due p =>
      have hasks := ((resumePoll_begins (s.receive q).1 p (s.receive q).2).of_asks (receive_asks s q)).1
      rw [wakeWaiter_of_poller others poller query]
      exact h.of_tasks hasks.tasks
    · rwa [wakeWaiter_of_nobody nobody]

/-- An operation that waits does not fail. -/
theorem failed_of_complete {begun : Session × (Outcome ⊕ Work)} {f : Failure}
    (h : (complete begun).2 = .failed f) : begun.2 = .inl (.failed f) := by
  obtain ⟨t, o | w⟩ := begun
  · rw [complete_of_inl] at h
    exact congrArg Sum.inl h
  · have hbegun : (addTask .foreground (t, .inr w)).Unfailed .foreground :=
      ⟨⟨.foreground, .working w⟩, by simp [task?, addTask, TaskState.ofResult], nofun⟩
    obtain ⟨task, htask, hsound⟩ := (lasting_unfailed .foreground).await .foreground hbegun
    obtain ⟨name, w' | o⟩ := task
    · simp [complete, outcome?, htask, Task.outcome?] at h
    · obtain rfl : o = .failed f := by simpa [complete, outcome?, htask, Task.outcome?] using h
      exact absurd rfl (hsound f)

/-- Nobody waits in the foreground for an operation that fails. -/
theorem complete_of_failed {s : Session} {begun : Session × (Outcome ⊕ Work)}
    (harmless : ∀ f, begun.2 = .inl (.failed f) → begun.1 = s) {f : Failure}
    (h : (complete begun).2 = .failed f) :
    (complete begun).1 = { s with tasks := s.tasks.filter (·.name ≠ .foreground) } := by
  have hfailed := failed_of_complete h
  obtain ⟨t, r⟩ := begun
  obtain rfl : r = .inl (.failed f) := hfailed
  obtain rfl : t = s := harmless f rfl
  rw [complete_of_inl]

theorem act_of_failed {s : Session} {op : Step} (request : op.isRequest = true) {f : Failure}
    (h : (s.act op).2 = .failed f) :
    ∃ ts, ts.Sublist s.tasks ∧ (s.act op).1 = { s with tasks := ts } := by
  have hkept {t : Session} (ht : t = s) : ∃ ts, ts.Sublist s.tasks ∧ t = { s with tasks := ts } :=
    ⟨s.tasks, List.Sublist.refl _, ht⟩
  cases op with
  | publish status message =>
    exact ⟨_, List.filter_sublist, complete_of_failed (fun _ hf => publish_of_failed hf) h⟩
  | query x => exact ⟨_, List.filter_sublist, complete_of_failed (fun _ hf => query_of_failed hf) h⟩
  | setStatusMessage message => exact hkept ((setStatusMessage_harmless s message).done h)
  | subscribe x => exact hkept ((subscribe_harmless s x).done h)
  | subscribeIn group x => exact hkept ((subscribeIn_harmless s group x).done h)
  | unsubscribe x => exact hkept ((unsubscribe_harmless s x).done h)
  | moveContact x group => exact hkept ((moveContact_harmless s x group).done h)
  | createGroup parent name => exact hkept ((createGroup_harmless s parent name).done h)
  | removeGroup name => exact hkept ((removeGroup_harmless s name).done h)
  | renameGroup name newName => exact hkept ((renameGroup_harmless s name newName).done h)
  | createUnresolvedContact x data parent =>
    have hcontact (c : Contact) (f : Failure) : Outcome.contact c ≠ .failed f := nofun
    rw [act] at h ⊢
    rw [outcomeOf_fst]
    exact hkept (createUnresolvedContact_harmless s x data parent f (outcomeOf_failed hcontact h))
  | _ => cases request

theorem Prompt.withTasks {s : Session} (hs : s.Prompt) {ts : List Task} (h : ts.Sublist s.tasks) :
    ({ s with tasks := ts } : Session).Prompt :=
  ⟨fun w hw => hs.waits w (((h.filterMap _).append_right _).subset hw), hs.poller⟩

theorem guarded_of_error {α : Type} {s : Session} {check : Except Failure α} {f : Failure}
    (h : check = .error f) (next : α → Session × Except Failure Unit) :
    done (s.guarded check next) = (s, .failed f) := by
  subst h
  rfl

theorem act_of_unconnected {s : Session} (h : s.server.registered = false) {op : Step}
    (needs : op.needsConnection = true) : (s.act op).2 = .failed .notConnected := by
  have hnone : s.requireConnection = .error .notConnected := by simp [requireConnection, h]
  have hcheck {α : Type} (next : Unit → Except Failure α) :
      (s.requireConnection >>= next) = .error .notConnected := by rw [hnone]; rfl
  cases op with
  | publish status message =>
    have hpublish : s.publish status message = (s, .inl (.failed .notConnected)) := by
      simp [publish, h]
    rw [act, hpublish, complete_of_inl]
  | query x =>
    have hquery : s.query x = (s, .inl (.failed .notConnected)) := by simp [query, h]
    rw [act, hquery, complete_of_inl]
  | setStatusMessage message => simp [act, setStatusMessage, h, done, outcomeOf]
  | subscribe x => rw [act, subscribe, guarded_of_error hnone]
  | subscribeIn group x => rw [act, subscribeIn, guarded_of_error (hcheck _)]
  | unsubscribe x => rw [act, unsubscribe, guarded_of_error (hcheck _)]
  | moveContact x group => rw [act, moveContact, requireMovable, guarded_of_error (hcheck _)]
  | createGroup parent name => rw [act, createGroup, requireParent, guarded_of_error (hcheck _)]
  | removeGroup name => rw [act, removeGroup, guarded_of_error (hcheck _)]
  | renameGroup name newName => rw [act, renameGroup, guarded_of_error (hcheck _)]
  | _ => cases needs

/-- An operation of an application that fails leaves the groups and the contacts of the list, our own
status and message, and those who have been seen as they were; nobody has been told or sent anything, and
no change of the list has been recorded. Without a connection every one fails that needs it, for that
reason. -/
theorem failed_request_changes_nothing {s : Session} (reachable : s.Reachable) {op : Step}
    (request : op.isRequest = true) :
    (∀ f, (s.perform op).2 = .failed f →
      (s.perform op).1.list = s.list ∧ (s.perform op).1.own = s.own ∧
        (s.perform op).1.seen = s.seen ∧ (s.perform op).1.trace = s.trace) ∧
    (s.server.registered = false → op.needsConnection = true →
      (s.perform op).2 = .failed .notConnected) := by
  refine ⟨fun f hfailed => ?_, fun hregistered needs => act_of_unconnected hregistered needs⟩
  obtain ⟨ts, hsublist, hact⟩ := act_of_failed request hfailed
  have hperform : (s.perform op).1 = { s with tasks := ts } := by
    change (s.act op).1.settle = _
    rw [hact]
    exact (reachable.settles.2.withTasks hsublist).settle
  rw [hperform]
  exact ⟨rfl, rfl, rfl, rfl⟩

/-- The server refuses to move a contact, and then is not there to be asked. -/
theorem refused_move_changes_nothing :
    let s₀ : Session :=
      { settings := {}, localIdentifier := "12345"
        list := ⟨"Contacts", [⟨.root "Contacts", none⟩, ⟨.stored "Friends", some "Contacts"⟩],
          [⟨.resolve "777", "Contacts"⟩]⟩ }
    let s := s₀.run [.refuseListChanges true]
    let t := s₀.run [.setRegistered false]
    let op : Step := .moveContact "777" "Friends"
    s.Reachable ∧ op.isRequest = true ∧
      (s.perform op).2 = .failed (.brokenDown .network "server refused the operation") ∧
      (s.perform op).1.list = s.list ∧ (s.perform op).1.trace = s.trace ∧
      t.Reachable ∧ t.server.registered = false ∧ (t.perform op).2 = .failed .notConnected := by
  intro s₀ s t op
  have hreachable (steps : List Step) : (s₀.run steps).Reachable :=
    ⟨{ connection := some ⟨"12345", true⟩, list := some s₀.list, hasPolicy := true, reRequests := true },
      s₀, steps, rfl, rfl⟩
  have request : op.isRequest = true := rfl
  have refused : (s.perform op).2 = .failed (.brokenDown .network "server refused the operation") := by
    decide +kernel
  obtain ⟨hlist, -, -, htrace⟩ :=
    (failed_request_changes_nothing (hreachable [.refuseListChanges true]) request).1 _ refused
  have unregistered : t.server.registered = false := by decide +kernel
  have failed :=
    (failed_request_changes_nothing (hreachable [.setRegistered false]) request).2 unregistered rfl
  exact ⟨hreachable _, request, refused, hlist, htrace, hreachable _, unregistered, failed⟩

end Session

end Roster
