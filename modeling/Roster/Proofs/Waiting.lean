import Roster.Proofs.Asking
import Mathlib.Data.List.Nodup

/-! Waiting for queries. Every wait is for a query of its own, and the newest queries come last: so what is
done for one query leaves those that wait for others alone. Once everything due has been done, nothing is
due. -/

namespace Roster.Session

/-- Nobody waits for a query that has not been sent, nor two for the same; and the poller has a period. -/
structure Ordered (s : Session) : Prop where
  numbered : ∀ w ∈ s.waits, w.query < s.queries.length
  distinct : (s.waits.map Wait.query).Nodup
  period : s.poller.isSome = true → 0 < s.settings.pollIntervalSecs

/-- What waited for a query has gone on, perhaps to wait for one of its own. Nobody else has. -/
structure Woken (q : Nat) (s t : Session) : Prop where
  now : t.now = s.now
  settings : t.settings = s.settings
  more : s.queries.length ≤ t.queries.length
  queries : ∀ q' < s.queries.length, q' ≠ q → t.queries[q']? = s.queries[q']?
  waits : ∀ w ∈ t.waits, (w ∈ s.waits ∧ w.query ≠ q) ∨ s.Recent t w
  distinct : (t.waits.map Wait.query).Nodup
  poller : t.poller.isSome = s.poller.isSome
  tasks : ∀ name task, s.task? name = some task → (∀ w ∈ task.wait?, w.query ≠ q) →
    t.task? name = some task

theorem Ordered.unique {s : Session} (hs : s.Ordered) {w w' : Wait} (hw : w ∈ s.waits)
    (hw' : w' ∈ s.waits) (h : w.query = w'.query) : w = w' :=
  List.inj_on_of_nodup_map hs.distinct hw hw' h

/-- Order is kept where waits are given up, or begun for what has just been sent. -/
theorem Ordered.later {s t : Session} (hs : s.Ordered) (more : s.queries.length ≤ t.queries.length)
    (waits : ∀ w ∈ t.waits, w ∈ s.waits ∨ s.Recent t w) (distinct : (t.waits.map Wait.query).Nodup)
    (period : t.poller.isSome = true → 0 < t.settings.pollIntervalSecs) : t.Ordered := by
  refine ⟨fun w hw => ?_, distinct, period⟩
  rcases waits w hw with hold | hrecent
  · exact Nat.lt_of_lt_of_le (hs.numbered w hold) more
  · exact hrecent.sent

/-- What waits for a query that was there before has waited before. -/
theorem old_of_query {s t : Session} {q : Nat} (waits : ∀ w ∈ t.waits, w ∈ s.waits ∨ s.Recent t w)
    (hq : q < s.queries.length) : ∀ w ∈ t.waits, w.query = q → w ∈ s.waits := by
  intro w hw hquery
  rcases waits w hw with hold | hrecent
  · exact hold
  · exact absurd hrecent.new (Nat.not_le.2 (hquery ▸ hq))

theorem Woken.ordered {q : Nat} {s t : Session} (hs : s.Ordered) (h : Woken q s t) : t.Ordered :=
  hs.later h.more (fun w hw => (h.waits w hw).imp_left And.left) h.distinct fun hp =>
    h.settings ▸ hs.period (h.poller ▸ hp)

/-- Some waits may be over, and there may be a new one. -/
theorem waits_of_perm {s t : Session} (hs : s.Ordered) {old : List Wait} {new : Option Wait}
    (perm : t.waits.Perm (new.toList ++ old)) (sublist : old.Sublist s.waits)
    (recent : ∀ w ∈ new, s.Recent t w) :
    (∀ w ∈ t.waits, w ∈ old ∨ s.Recent t w) ∧ (t.waits.map Wait.query).Nodup := by
  have hold : (old.map Wait.query).Nodup := hs.distinct.sublist (sublist.map _)
  refine ⟨fun w hw => ?_, ((perm.map _).nodup_iff).2 ?_⟩
  · rcases List.mem_append.1 (perm.subset hw) with hnew | hw
    · exact .inr (recent w (Option.mem_toList.1 hnew))
    · exact .inl hw
  · cases new with
    | none => exact hold
    | some w =>
      refine List.nodup_cons.2 ⟨fun hmem => ?_, hold⟩
      obtain ⟨w', hw', heq⟩ := List.mem_map.1 hmem
      have hnumber := hs.numbered w' (sublist.subset hw')
      have hnew := (recent w rfl).new
      omega

/-- A wait that is over makes way for a new one, or for none. -/
theorem waits_of_replaced {q : Nat} {s t : Session} (hs : s.Ordered) {before after : List Wait}
    {w : Wait} {new : Option Wait} (old : s.waits = before ++ w :: after) (query : w.query = q)
    (replaced : t.waits = before ++ new.toList ++ after) (recent : ∀ w' ∈ new, s.Recent t w') :
    (∀ w ∈ t.waits, (w ∈ s.waits ∧ w.query ≠ q) ∨ s.Recent t w) ∧
      (t.waits.map Wait.query).Nodup := by
  have hsublist : (before ++ after).Sublist s.waits := by
    rw [old]
    exact (List.Sublist.refl _).append (List.sublist_cons_self ..)
  have hperm : t.waits.Perm (new.toList ++ (before ++ after)) := by
    rw [replaced, ← List.append_assoc]
    exact List.perm_append_comm.append_right _
  have hdistinct := hs.distinct
  rw [old, List.map_append, List.map_cons, List.nodup_middle, query, ← List.map_append] at hdistinct
  have hnone := (List.nodup_cons.1 hdistinct).1
  obtain ⟨hwaits, hnodup⟩ := waits_of_perm hs hperm hsublist recent
  refine ⟨fun w' hw' => (hwaits w' hw').imp_left fun hw' => ⟨hsublist.subset hw', ?_⟩, hnodup⟩
  exact fun h => hnone (h ▸ List.mem_map_of_mem hw')

theorem filterMap_cons_eq {α β : Type} (f : α → Option β) (a : α) (as : List α) :
    (a :: as).filterMap f = (f a).toList ++ as.filterMap f := by
  cases h : f a <;> simp [h]

@[simp] theorem wait?_ofResult (name : TaskName) (r : Outcome ⊕ Work) :
    Task.wait? ⟨name, .ofResult r⟩ = r.getRight?.map Work.wait := by
  cases r <;> rfl

theorem poll_after_eq (due : Nat) (r : PollReport ⊕ SuspendedPoll) :
    (Poller.after due r).poll = r.getRight? := by
  cases r <;> rfl

theorem due_after (due : Nat) (r : PollReport ⊕ SuspendedPoll) : (Poller.after due r).due = due := by
  cases r <;> rfl

/-- A task that has gone on is not found under another name, nor is another in its place. -/
theorem task?_of_replaced {before after : List Task} {name : TaskName} {old new : TaskState}
    {n : TaskName} {task : Task}
    (h : (before ++ ⟨name, old⟩ :: after).find? (·.name = n) = some task)
    (hne : task ≠ ⟨name, old⟩) :
    (before ++ ⟨name, new⟩ :: after).find? (·.name = n) = some task := by
  rw [List.find?_append] at h ⊢
  cases hbefore : before.find? (·.name = n) with
  | some t => rwa [hbefore] at h
  | none =>
    rw [hbefore] at h
    rw [Option.none_or] at h ⊢
    by_cases hname : name = n
    · simp [hname] at h
      exact absurd (h.symm.trans (by rw [hname])) hne
    · simpa [hname] using h

theorem wakeWaiter_woken {s : Session} (hs : s.Ordered) (q : Nat) : Woken q s (s.wakeWaiter q) := by
  rcases exists_waiter s q with ⟨tasks, others, query⟩ | ⟨others, poller, query⟩ | nobody
  · next before after name w =>
    have hbegins := resume_begins s w
    have hasks := hbegins.1
    -- the task goes on in its place, and what it waits for now comes where its old wait was
    rw [wakeWaiter_of_task tasks others query]
    have hold : s.waits = before.filterMap Task.wait? ++ w.wait :: (after.filterMap Task.wait? ++
        ((s.poller.bind Poller.poll).map SuspendedPoll.wait).toList) := by
      rw [waits, tasks, List.filterMap_append, filterMap_cons_eq]
      simp [Task.wait?]
    let t : Session := { (s.resume w).1 with
      tasks := before ++ ⟨name, .ofResult (s.resume w).2⟩ :: after }
    have hnew : t.waits = before.filterMap Task.wait? ++
        ((s.resume w).2.getRight?.map Work.wait).toList ++ (after.filterMap Task.wait? ++
          ((s.poller.bind Poller.poll).map SuspendedPoll.wait).toList) := by
      rw [waits, List.filterMap_append, filterMap_cons_eq, wait?_ofResult, hasks.poller]
      simp
    have hreplaced := waits_of_replaced hs hold query hnew (hbegins.recent rfl rfl)
    refine ⟨hasks.now, hasks.settings, hasks.more, ?_, hreplaced.1, hreplaced.2,
      congrArg Option.isSome hasks.poller, ?_⟩
    · intro q' hq' hne
      exact hasks.queries q' hq' fun h => hne (query ▸ (Option.some.inj h).symm)
    · intro n task hfind hwait
      rw [task?, tasks] at hfind
      refine task?_of_replaced hfind ?_
      rintro rfl
      exact hwait w.wait rfl query
  · next due p =>
    have hbegins :=
      (resumePoll_begins (s.receive q).1 p (s.receive q).2).of_asks (receive_asks s q)
    have hasks := hbegins.1
    rw [wakeWaiter_of_poller others poller query]
    have hold : s.waits = s.tasks.filterMap Task.wait? ++ p.wait :: [] := by
      rw [waits, poller]
      rfl
    let r := (s.receive q).1.resumePoll p (s.receive q).2
    let t : Session := { r.1 with poller := some (.after due r.2) }
    have hnew : t.waits = s.tasks.filterMap Task.wait? ++
        (r.2.getRight?.map SuspendedPoll.wait).toList ++ [] := by
      rw [waits, hasks.tasks, Option.bind_some, poll_after_eq]
      simp [r]
    have hreplaced := waits_of_replaced hs hold query hnew (hbegins.recent rfl rfl)
    refine ⟨hasks.now, hasks.settings, hasks.more, ?_, hreplaced.1, hreplaced.2,
      by rw [poller]; rfl, ?_⟩
    · exact fun q' hq' hne => hasks.queries q' hq' fun h => hne (Option.some.inj h).symm
    · intro n task hfind _
      rwa [task?, hasks.tasks]
  · rw [wakeWaiter_of_nobody nobody]
    exact ⟨rfl, rfl, Nat.le_refl _, fun _ _ _ => rfl, fun w hw => .inl ⟨hw, nobody w hw⟩,
      hs.distinct, rfl, fun _ _ h _ => h⟩

theorem Ordered.signal {s : Session} (hs : s.Ordered) (q : Nat) (sig : Signal) :
    (s.signal q sig).Ordered := by
  refine ⟨fun w hw => ?_, hs.distinct, hs.period⟩
  have hlength : (s.signal q sig).queries.length = s.queries.length := List.length_modify ..
  rw [hlength]
  exact hs.numbered w hw

theorem queries_signal_of_ne {q q' : Nat} (h : q' ≠ q) (s : Session) (sig : Signal) :
    (s.signal q sig).queries[q']? = s.queries[q']? := by
  simp [signal, h.symm]

theorem expire_woken {s : Session} (hs : s.Ordered) (q : Nat) : Woken q s (s.expire q) := by
  have h := wakeWaiter_woken (hs.signal q .expiry) q
  have hlength : (s.signal q .expiry).queries.length = s.queries.length := List.length_modify ..
  refine ⟨h.now, h.settings, hlength ▸ h.more, fun q' hq' hne => ?_, fun w hw => ?_, h.distinct,
    h.poller, h.tasks⟩
  · rw [← queries_signal_of_ne hne s .expiry]
    exact h.queries q' (hlength ▸ hq') hne
  · refine (h.waits w hw).imp_right fun hrecent => ⟨hlength ▸ hrecent.new, hrecent.sent, hrecent.time⟩

/-- Nothing is due. -/
structure Prompt (s : Session) : Prop where
  waits : ∀ w ∈ s.waits, s.now < w.deadline
  poller : ∀ due, s.poller = some ⟨due, none⟩ → s.now < due

theorem mem_overdue {s : Session} {q : Nat} :
    q ∈ s.overdue ↔ ∃ w ∈ s.waits, w.deadline ≤ s.now ∧ w.query = q := by
  simp [overdue, List.mem_mergeSort, and_assoc]

theorem lt_nextTick {s : Session} (h : 0 < s.settings.pollIntervalSecs) (due : Nat) :
    s.now < s.nextTick due := by
  unfold nextTick tickTolerance
  dsimp only
  split <;> omega

/-- Where nothing is due, nothing is done. -/
theorem Prompt.settle {s : Session} (h : s.Prompt) : s.settle = s := by
  have hnone : s.overdue = [] := by
    refine List.eq_nil_iff_forall_not_mem.2 fun q hq => ?_
    obtain ⟨w, hw, hdue, -⟩ := mem_overdue.1 hq
    exact absurd (h.waits w hw) (Nat.not_lt.2 hdue)
  rw [Session.settle, hnone, List.foldl_nil, tick]
  split
  · next due hpoller => rw [if_neg (Nat.not_le.2 (h.poller due hpoller))]
  · rfl

/-- Nothing is done for a query, nor for the task of a name that waits for it, if for any. -/
structure Spares (name : TaskName) (q : Nat) (s t : Session) : Prop where
  query : t.queries[q]? = s.queries[q]?
  task : ∀ task, s.task? name = some task → (∀ w ∈ task.wait?, w.query = q) →
    t.task? name = some task
  waits : ∀ w ∈ t.waits, w.query = q → w ∈ s.waits

section Spares

variable {name : TaskName} {q q' : Nat} {s t u : Session}

theorem Spares.refl (name : TaskName) (q : Nat) (s : Session) : Spares name q s s :=
  ⟨rfl, fun _ h _ => h, fun _ h _ => h⟩

theorem Spares.trans (h₁ : Spares name q s t) (h₂ : Spares name q t u) : Spares name q s u :=
  ⟨h₂.query.trans h₁.query, fun task h hw => h₂.task task (h₁.task task h hw) hw,
    fun w hw hq => h₁.waits w (h₂.waits w hw hq) hq⟩

theorem Spares.length_lt (h : Spares name q s t) (hq : q < s.queries.length) :
    q < t.queries.length := by
  have hsome : t.queries[q]?.isSome := by
    rw [h.query]
    simpa using hq
  simpa using hsome

theorem Woken.spares (h : Woken q' s t) (hq : q < s.queries.length) (hne : q ≠ q') :
    Spares name q s t := by
  refine ⟨h.queries q hq hne, fun task htask hw => ?_,
    old_of_query (fun w hw => (h.waits w hw).imp_left And.left) hq⟩
  exact h.tasks name task htask fun w hwait => by rw [hw w hwait]; exact hne

end Spares

/-- The poller has ticked, if that was due. -/
structure Ticked (s t : Session) : Prop where
  now : t.now = s.now
  waits : ∀ w ∈ t.waits, w ∈ s.waits ∨ s.Recent t w
  ordered : t.Ordered
  poller : ∀ due, t.poller = some ⟨due, none⟩ → t.now < due
  spares : ∀ name, ∀ q < s.queries.length, Spares name q s t

theorem tick_ticked {s : Session} (hs : s.Ordered) : s.Ticked s.tick := by
  unfold tick
  split
  · next due hpoller =>
    split
    · have hbegins := poll_begins s
      have hasks := hbegins.1
      have hperiod := hs.period (by rw [hpoller]; rfl)
      let t : Session := { s.poll.1 with poller := some (.after (s.nextTick due) s.poll.2) }
      have hwaits : t.waits.Perm ((s.poll.2.getRight?.map SuspendedPoll.wait).toList ++ s.waits) := by
        refine List.Perm.trans (.of_eq ?_) List.perm_append_comm
        rw [waits, waits, hpoller, hasks.tasks, Option.bind_some, poll_after_eq]
        simp
      obtain ⟨hold, hdistinct⟩ :=
        waits_of_perm hs hwaits (List.Sublist.refl _) (hbegins.recent rfl rfl)
      refine ⟨hasks.now, hold,
        hs.later hasks.more hold hdistinct fun _ => hasks.settings ▸ hperiod, ?_, ?_⟩
      · rintro due' h
        have hnext : s.nextTick due = due' :=
          (due_after ..).symm.trans (congrArg Poller.due (Option.some.inj h))
        rw [← hnext, hasks.now]
        exact lt_nextTick hperiod due
      · refine fun name q hq =>
          ⟨hasks.queries q hq nofun, fun task htask _ => ?_, old_of_query hold hq⟩
        rwa [task?, hasks.tasks]
    · next hdue =>
      refine ⟨rfl, fun w hw => .inl hw, hs, fun due' h => ?_, fun name q _ => .refl name q s⟩
      rw [hpoller] at h
      cases h
      exact Nat.not_le.1 hdue
  · next hnot =>
    refine ⟨rfl, fun w hw => .inl hw, hs, fun due h => ?_, fun name q _ => .refl name q s⟩
    exact absurd h (hnot due)

/-- Some queries have been given up. -/
structure Expired (qs : List Nat) (s t : Session) : Prop where
  now : t.now = s.now
  ordered : t.Ordered
  more : s.queries.length ≤ t.queries.length
  waits : ∀ w ∈ t.waits, (w ∈ s.waits ∧ w.query ∉ qs) ∨ s.now < w.deadline
  spares : ∀ name, ∀ q < s.queries.length, q ∉ qs → Spares name q s t

theorem foldl_expire_expired (qs : List Nat) : ∀ {s : Session}, s.Ordered →
    s.Expired qs (qs.foldl expire s) := by
  induction qs with
  | nil =>
    exact fun hs => ⟨rfl, hs, Nat.le_refl _, fun w hw => .inl ⟨hw, List.not_mem_nil⟩,
      fun name q _ _ => .refl name q _⟩
  | cons q qs ih =>
    intro s hs
    have hfirst := expire_woken hs q
    have hrest := ih (hfirst.ordered hs)
    refine ⟨hrest.now.trans hfirst.now, hrest.ordered,
      Nat.le_trans hfirst.more hrest.more, fun w hw => ?_, fun name q' hq' hnone => ?_⟩
    · rw [← hfirst.now]
      rcases hrest.waits w hw with ⟨hold, hnone⟩ | hlate
      · rcases hfirst.waits w hold with ⟨hold, hne⟩ | hrecent
        · exact .inl ⟨hold, List.not_mem_cons_of_ne_of_not_mem hne hnone⟩
        · exact .inr hrecent.time
      · exact .inr hlate
    · obtain ⟨hne, hnone⟩ := not_or.1 (mt List.mem_cons.2 hnone)
      exact (hfirst.spares hq' hne).trans
        (hrest.spares name q' (Nat.lt_of_lt_of_le hq' hfirst.more) hnone)

/-- Everything due has been done. -/
structure Settles (s t : Session) : Prop where
  now : t.now = s.now
  ordered : t.Ordered
  prompt : t.Prompt
  spares : ∀ name, ∀ q < s.queries.length, q ∉ s.overdue → Spares name q s t

theorem settle_settles {s : Session} (hs : s.Ordered) : s.Settles s.settle := by
  have hexpired := foldl_expire_expired s.overdue hs
  have hticked := tick_ticked hexpired.ordered
  have hnow : s.settle.now = s.now := hticked.now.trans hexpired.now
  refine ⟨hnow, hticked.ordered,
    ⟨fun w hw => ?_, hticked.poller⟩, fun name q hq hnone => ?_⟩
  · rcases hticked.waits w hw with hold | hrecent
    · rw [hnow]
      rcases hexpired.waits w hold with ⟨hold, hnone⟩ | hlate
      · exact Nat.not_le.1 fun hdue => hnone (mem_overdue.2 ⟨w, hold, hdue, rfl⟩)
      · exact hlate
    · exact hrecent.time
  · exact (hexpired.spares name q hq hnone).trans
      (hticked.spares name q (Nat.lt_of_lt_of_le hq hexpired.more))

end Roster.Session
