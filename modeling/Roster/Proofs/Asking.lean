import Roster.Proofs.Clockwork

/-! Asking, and going on. An operation that asks may end at once or wait for what it has asked; whoever
waits for a query goes on when it is over, perhaps to ask for something else. -/

namespace Roster

/-- A query that is over, its answer taken or given up. -/
def Correlator.spent : Correlator := { completed := true }

/-- The mask that a query is answered with. -/
def Signal.mask (sig : Signal) : Mask := sig.mask?.getD .unknown

theorem Correlator.receive_signal (sig : Signal) : (({} : Correlator).signal sig).receive =
    (.spent, sig.mask?.elim .closed .mask) := by
  cases h : sig.mask? <;> simp [signal, receive, spent, h]

namespace Session

/-- Queries are sent, and nothing else about waiting changes but one query at most. -/
structure Asks (q? : Option Nat) (s t : Session) : Prop where
  tasks : t.tasks = s.tasks
  poller : t.poller = s.poller
  now : t.now = s.now
  settings : t.settings = s.settings
  reRequests : t.reRequests = s.reRequests
  more : s.queries.length ≤ t.queries.length
  queries : ∀ q < s.queries.length, q? ≠ some q → t.queries[q]? = s.queries[q]?

/-- A wait for a query that has been sent since. -/
structure Recent (s t : Session) (w : Wait) : Prop where
  new : s.queries.length ≤ w.query
  sent : w.query < t.queries.length
  time : t.now < w.deadline

theorem Asks.of_clockwork {s t : Session} (h : t.clockwork = s.clockwork) : s.Asks none t := by
  obtain ⟨hqueries, htasks, hpoller, hnow, hsettings, hreRequests⟩ := Clockwork.mk.inj h
  exact ⟨htasks, hpoller, hnow, hsettings, hreRequests, Nat.le_of_eq (by rw [hqueries]), fun _ _ _ => by rw [hqueries]⟩

theorem Asks.refl (s : Session) : s.Asks none s := .of_clockwork rfl

theorem Asks.trans {q? : Option Nat} {s t u : Session} (h₁ : s.Asks q? t) (h₂ : t.Asks none u) :
    s.Asks q? u where
  tasks := h₂.tasks.trans h₁.tasks
  poller := h₂.poller.trans h₁.poller
  now := h₂.now.trans h₁.now
  settings := h₂.settings.trans h₁.settings
  reRequests := h₂.reRequests.trans h₁.reRequests
  more := Nat.le_trans h₁.more h₂.more
  queries q hq hne :=
    (h₂.queries q (Nat.lt_of_lt_of_le hq h₁.more) nofun).trans (h₁.queries q hq hne)

theorem Recent.of_asks {q? : Option Nat} {s t u : Session} {w : Wait} (h : s.Asks q? t)
    (hw : t.Recent u w) : s.Recent u w :=
  ⟨Nat.le_trans h.more hw.new, hw.sent, hw.time⟩

/-- A query that has been signalled is received once. -/
theorem receive_of_signalled {s : Session} {q : Nat} {sig : Signal}
    (h : s.queries[q]? = some (({} : Correlator).signal sig)) :
    s.receive q = ({ s with queries := s.queries.set q .spent }, sig.mask) := by
  simp only [receive, h, Option.map_some, Correlator.receive_signal, Signal.mask]
  cases hm : sig.mask? with
  | some m => rfl
  | none =>
    have hspent : ({} : Correlator).signal sig = .spent := by simp [Correlator.signal, Correlator.spent, hm]
    obtain ⟨hlt, heq⟩ := List.getElem?_eq_some_iff.1 (hspent ▸ h)
    have hset : s.queries.set q .spent = s.queries := by rw [← heq, List.set_getElem_self]
    rw [hset]
    rfl

theorem receive_asks (s : Session) (q : Nat) : s.Asks (some q) (s.receive q).1 := by
  unfold receive
  split
  · exact ⟨rfl, rfl, rfl, rfl, rfl, Nat.le_of_eq (List.length_set ..).symm,
      fun q' _ hne => List.getElem?_set_ne fun h => hne (congrArg some h)⟩
  · exact ⟨rfl, rfl, rfl, rfl, rfl, Nat.le_refl _, fun _ _ _ => rfl⟩

theorem modify_concat {α : Type} (xs : List α) (a : α) (f : α → α) :
    (xs ++ [a]).modify xs.length f = xs ++ [f a] := by
  induction xs with
  | nil => rfl
  | cons x xs ih => rw [List.cons_append, List.length_cons, List.modify_succ_cons, ih, List.cons_append]

/-- Asking is sending a query and taking what it comes to at once, or waiting for it. -/
theorem ask_eq (s : Session) (x : String) : s.ask x =
    match Answer.signal? (s.server.answerTo x) with
    | some sig =>
      let r := ((s.sending x).signal s.queries.length sig).receive s.queries.length
      (r.1, .inl r.2)
    | none =>
      let t : Session := { s.sending x with
        server := { s.server with unanswered := s.server.unanswered ++ [s.queries.length] } }
      if s.settings.queryTimeoutMs = 0 then (t.signal s.queries.length .expiry, .inl .unknown)
      else (t, .inr ⟨s.queries.length, s.now + s.settings.queryTimeoutMs⟩) := rfl

/-- What is sent comes last, and what is done with it concerns no other query. -/
theorem asks_of_concat {s t : Session} {c : Correlator} (tasks : t.tasks = s.tasks)
    (poller : t.poller = s.poller) (now : t.now = s.now) (settings : t.settings = s.settings)
    (reRequests : t.reRequests = s.reRequests) (queries : t.queries = s.queries ++ [c]) :
    s.Asks none t := by
  refine ⟨tasks, poller, now, settings, reRequests, by rw [queries]; simp, fun q hq _ => ?_⟩
  rw [queries, List.getElem?_append_left hq]

/-- A query that is answered at once is over. -/
theorem ask_of_signal {s : Session} {x : String} {sig : Signal}
    (h : Answer.signal? (s.server.answerTo x) = some sig) :
    s.Asks none (s.ask x).1 ∧ (s.ask x).2 = .inl sig.mask ∧
      (s.ask x).1.queries = s.queries ++ [.spent] := by
  have hqueries : ((s.sending x).signal s.queries.length sig).queries =
      s.queries ++ [({} : Correlator).signal sig] := modify_concat ..
  have hsignalled : ((s.sending x).signal s.queries.length sig).queries[s.queries.length]? =
      some (({} : Correlator).signal sig) := by
    rw [hqueries]
    simp
  have hreceived := receive_of_signalled hsignalled
  have hset : (s.queries ++ [({} : Correlator).signal sig]).set s.queries.length .spent =
      s.queries ++ [.spent] := by simp
  rw [ask_eq, h]
  dsimp only
  rw [hreceived, hqueries, hset]
  exact ⟨asks_of_concat rfl rfl rfl rfl rfl rfl, rfl, rfl⟩

/-- Without time to wait a query that is met with silence is over, too. -/
theorem ask_of_no_time {s : Session} {x : String}
    (h : Answer.signal? (s.server.answerTo x) = none) (htime : s.settings.queryTimeoutMs = 0) :
    s.Asks none (s.ask x).1 ∧ (s.ask x).2 = .inl .unknown ∧
      (s.ask x).1.queries = s.queries ++ [.spent] := by
  have hqueries : (s.ask x).1.queries = s.queries ++ [.spent] := by
    rw [ask_eq, h, if_pos htime]
    exact modify_concat ..
  rw [ask_eq, h, if_pos htime] at *
  exact ⟨asks_of_concat rfl rfl rfl rfl rfl hqueries, rfl, hqueries⟩

/-- A query that is met with silence is waited for. -/
theorem ask_of_silence {s : Session} {x : String}
    (h : Answer.signal? (s.server.answerTo x) = none) (htime : s.settings.queryTimeoutMs ≠ 0) :
    s.Asks none (s.ask x).1 ∧
      (s.ask x).2 = .inr ⟨s.queries.length, s.now + s.settings.queryTimeoutMs⟩ ∧
      (s.ask x).1.queries = s.queries ++ [({} : Correlator)] := by
  rw [ask_eq, h, if_neg htime]
  exact ⟨asks_of_concat rfl rfl rfl rfl rfl rfl, rfl, rfl⟩

/-- An operation has asked, and if it is to wait, then for what it has asked. -/
def Begins {α β : Type} (q? : Option Nat) (wait : β → Wait) (s : Session)
    (r : Session × (α ⊕ β)) : Prop :=
  s.Asks q? r.1 ∧ ∀ b, r.2 = .inr b → s.Recent r.1 (wait b)

theorem ask_begins (s : Session) (x : String) : s.Begins none id (s.ask x) := by
  cases h : Answer.signal? (s.server.answerTo x) with
  | some sig =>
    obtain ⟨hasks, hresult, -⟩ := ask_of_signal h
    exact ⟨hasks, fun w hw => by rw [hresult] at hw; cases hw⟩
  | none =>
    by_cases htime : s.settings.queryTimeoutMs = 0
    · obtain ⟨hasks, hresult, -⟩ := ask_of_no_time h htime
      exact ⟨hasks, fun w hw => by rw [hresult] at hw; cases hw⟩
    · obtain ⟨hasks, hresult, hqueries⟩ := ask_of_silence h htime
      refine ⟨hasks, fun w hw => ?_⟩
      rw [hresult] at hw
      cases hw
      refine ⟨Nat.le_refl _, by rw [hqueries]; simp, ?_⟩
      rw [hasks.now]
      exact Nat.lt_add_of_pos_right (Nat.pos_of_ne_zero htime)

theorem Begins.recent {α β : Type} {q? : Option Nat} {wait : β → Wait} {s t : Session}
    {r : Session × (α ⊕ β)} (h : s.Begins q? wait r) (queries : t.queries = r.1.queries)
    (now : t.now = r.1.now) : ∀ w ∈ r.2.getRight?.map wait, s.Recent t w := by
  intro w hw
  obtain ⟨b, hb, rfl⟩ := Option.map_eq_some_iff.1 hw
  obtain ⟨hnew, hsent, htime⟩ := h.2 b (Sum.getRight?_eq_some_iff.1 hb)
  exact ⟨hnew, queries ▸ hsent, now ▸ htime⟩

theorem Begins.of_asks {α β : Type} {q? : Option Nat} {wait : β → Wait} {s t : Session}
    {r : Session × (α ⊕ β)} (hr : t.Begins none wait r) (h : s.Asks q? t) : s.Begins q? wait r :=
  ⟨h.trans hr.1, fun b hb => (hr.2 b hb).of_asks h⟩

theorem pollContact_asks (s : Session) (g : Group) (report : PollReport) (x : String)
    (status : Status) : s.Asks none (s.pollContact g report x status).1 := by
  refine .of_clockwork ?_
  have happly := clockwork_applyStatus s x status (some g)
  rw [pollContact_fst]
  split
  · dsimp only
    split
    · exact happly
    · exact happly
  · rfl

theorem pollRest_begins (g : Group) (ids : List String) : ∀ (s : Session) (report : PollReport),
    s.Begins none SuspendedPoll.wait (s.pollRest g report ids) := by
  induction ids with
  | nil => exact fun s report => ⟨.refl s, nofun⟩
  | cons x rest ih =>
    intro s report
    have hask := ask_begins s x
    rw [pollRest]
    rcases h : s.ask x with ⟨t, mask | w⟩
    · rw [h] at hask
      have hdealt := hask.1.trans (pollContact_asks t g
        { report with checked := report.checked + 1 } x mask.status)
      exact (ih _ _).of_asks hdealt
    · rw [h] at hask
      refine ⟨hask.1, ?_⟩
      rintro p ⟨⟩
      exact hask.2 w rfl

theorem poll_begins (s : Session) : s.Begins none SuspendedPoll.wait s.poll := by
  unfold poll
  split
  · exact ⟨.refl s, nofun⟩
  · exact pollRest_begins ..

theorem resumePoll_begins (s : Session) (p : SuspendedPoll) (mask : Mask) :
    s.Begins none SuspendedPoll.wait (s.resumePoll p mask) :=
  (pollRest_begins ..).of_asks (pollContact_asks s p.group p.report p.current mask.status)

theorem beginPoll_begins (s : Session) : s.Begins none Work.wait s.beginPoll := by
  have h := poll_begins s
  unfold beginPoll
  split <;> next hpoll =>
    rw [hpoll] at h
    exact ⟨h.1, fun w hw => by cases hw <;> exact h.2 _ rfl⟩

theorem query_begins (s : Session) (x : String) : s.Begins none Work.wait (s.query x) := by
  have h := ask_begins s x
  unfold query
  split
  · exact ⟨.refl s, nofun⟩
  · split <;> next hask =>
      rw [hask] at h
      exact ⟨h.1, fun w hw => by cases hw <;> exact h.2 _ rfl⟩

theorem queryMask_begins (s : Session) (x : String) : s.Begins none Work.wait (s.queryMask x) := by
  have h := ask_begins s x
  unfold queryMask
  split <;> next hask =>
    rw [hask] at h
    exact ⟨h.1, fun w hw => by cases hw <;> exact h.2 _ rfl⟩

theorem publish_begins (s : Session) (requested : Status) (message : String) :
    s.Begins none Work.wait (s.publish requested message) := by
  unfold publish
  split
  · exact ⟨.refl s, nofun⟩
  · split
    · exact ⟨.refl s, nofun⟩
    · exact ⟨.refl s, nofun⟩
    · next commands _ =>
      have hsent : s.Asks none (s.sendAll commands).1 := .of_clockwork (clockwork_sendAll ..)
      split
      · next hsend =>
        rw [hsend] at hsent
        exact ⟨hsent, nofun⟩
      · next t hsend =>
        rw [hsend] at hsent
        have hask := (ask_begins t t.localIdentifier).of_asks hsent
        split <;> next h =>
          rw [h] at hask
          exact ⟨hask.1, fun w hw => by cases hw <;> exact hask.2 _ rfl⟩

theorem resume_begins (s : Session) (w : Work) :
    s.Begins (some w.wait.query) Work.wait (s.resume w) := by
  have hreceive := receive_asks s w.wait.query
  cases w with
  | query w => exact ⟨hreceive, nofun⟩
  | queryMask w => exact ⟨hreceive, nofun⟩
  | publish w => exact ⟨hreceive, nofun⟩
  | poll p =>
    have h := (resumePoll_begins (s.receive p.wait.query).1 p (s.receive p.wait.query).2).of_asks
      hreceive
    simp only [resume, Work.wait]
    split <;> next hpoll =>
      rw [hpoll] at h
      exact ⟨h.1, fun w hw => by cases hw <;> exact h.2 _ rfl⟩

/-- Whom a query lets go on: the first task that waits for it, or else the poller, if it does. -/
inductive Waiter (s : Session) (q : Nat) : Prop
  | task {before after : List Task} {name : TaskName} {w : Work}
      (tasks : s.tasks = before ++ ⟨name, .working w⟩ :: after)
      (others : ∀ t ∈ before, t.wait?.any (·.query = q) = false) (query : w.wait.query = q)
  | poller {due : Nat} {p : SuspendedPoll}
      (others : ∀ t ∈ s.tasks, t.wait?.any (·.query = q) = false)
      (poller : s.poller = some ⟨due, some p⟩) (query : p.wait.query = q)
  | nobody (h : ∀ w ∈ s.waits, w.query ≠ q)

theorem exists_waiter (s : Session) (q : Nat) : s.Waiter q := by
  cases hfind : s.tasks.find? (fun t => t.wait?.any (·.query = q)) with
  | some task =>
    obtain ⟨hwaits, before, after, htasks, hbefore⟩ := List.find?_eq_some_iff_append.1 hfind
    obtain ⟨name, w | o⟩ := task
    · exact .task htasks (fun t ht => by simpa using hbefore t ht) (by simpa [Task.wait?] using hwaits)
    · simp [Task.wait?] at hwaits
  | none =>
    have hothers := List.find?_eq_none.1 hfind
    have hnone : ∀ t ∈ s.tasks, t.wait?.any (·.query = q) = false :=
      fun t ht => by simpa using hothers t ht
    by_cases hpoller : ∃ due p, s.poller = some ⟨due, some p⟩ ∧ p.wait.query = q
    · obtain ⟨due, p, hpoller, hq⟩ := hpoller
      exact .poller hnone hpoller hq
    · refine .nobody fun w hw hq => ?_
      rcases List.mem_append.1 hw with hw | hw
      · obtain ⟨t, ht, hwait⟩ := List.mem_filterMap.1 hw
        have := hnone t ht
        simp [hwait, hq] at this
      · obtain ⟨p, hp, rfl⟩ := Option.map_eq_some_iff.1 (Option.mem_toList.1 hw)
        obtain ⟨⟨due, poll⟩, hsome, rfl⟩ := Option.bind_eq_some_iff.1 hp
        exact hpoller ⟨due, p, hsome, hq⟩

section Wake

variable {s : Session} {q : Nat}

theorem wakeWaiter_of_task {before after : List Task} {name : TaskName} {w : Work}
    (tasks : s.tasks = before ++ ⟨name, .working w⟩ :: after)
    (others : ∀ t ∈ before, t.wait?.any (·.query = q) = false) (query : w.wait.query = q) :
    s.wakeWaiter q =
      { (s.resume w).1 with
        tasks := before ++ ⟨name, .ofResult (s.resume w).2⟩ :: after } := by
  have hindex : s.tasks.findIdx? (fun t => t.wait?.any (·.query = q)) = some before.length := by
    rw [tasks, List.findIdx?_append, List.findIdx?_eq_none_iff.2 others, List.findIdx?_cons,
      if_pos (by simp [Task.wait?, query])]
    simp
  have htask : s.tasks[before.length]? = some ⟨name, .working w⟩ := by
    rw [tasks]
    simp
  have hset : (s.resume w).1.tasks.set before.length ⟨name, .ofResult (s.resume w).2⟩ =
      before ++ ⟨name, .ofResult (s.resume w).2⟩ :: after := by
    rw [(resume_begins s w).1.tasks, tasks]
    simp
  simp only [wakeWaiter, hindex, htask, hset]

theorem wakeWaiter_of_poller {due : Nat} {p : SuspendedPoll}
    (others : ∀ t ∈ s.tasks, t.wait?.any (·.query = q) = false)
    (poller : s.poller = some ⟨due, some p⟩) (query : p.wait.query = q) :
    s.wakeWaiter q =
      let r := (s.receive q).1.resumePoll p (s.receive q).2
      { r.1 with poller := some (.after due r.2) } := by
  have hindex := List.findIdx?_eq_none_iff.2 others
  simp only [wakeWaiter, hindex, poller, if_pos query]

theorem wakeWaiter_of_nobody (h : ∀ w ∈ s.waits, w.query ≠ q) : s.wakeWaiter q = s := by
  have hindex : s.tasks.findIdx? (fun t => t.wait?.any (·.query = q)) = none := by
    refine List.findIdx?_eq_none_iff.2 fun t ht => ?_
    cases hw : t.wait? with
    | none => rfl
    | some w =>
      have hne := h w (List.mem_append_left _ (List.mem_filterMap.2 ⟨t, ht, hw⟩))
      simpa using hne
  simp only [wakeWaiter, hindex]
  split
  · next due p hpoller =>
    rw [if_neg]
    exact h p.wait (List.mem_append_right _ (by simp [hpoller]))
  · rfl

end Wake

end Session

end Roster
