import Roster.Proofs.Passing

/-! One query among others. A query takes one signal, which lets the task that waits for it go on, and is
over then. Whatever is done for other queries spares it; and where it is over, nothing is done for it. -/

namespace Roster

/-- What is asked for: a status, while we are registered, or the mask alone. -/
inductive Inquiry
  | status
  | mask
  deriving DecidableEq, Repr

namespace Inquiry

def step (i : Inquiry) (x : String) : Step :=
  match i with
  | status => .query x
  | mask => .queryMask x

def ask (i : Inquiry) (s : Session) (x : String) : Session × (Outcome ⊕ Work) :=
  match i with
  | status => s.query x
  | mask => s.queryMask x

def work : Inquiry → Wait → Work
  | status => .query
  | mask => .queryMask

def outcome : Inquiry → Mask → Outcome
  | status => fun m => .status m.status
  | mask => .mask

@[simp] theorem work_wait (i : Inquiry) (w : Wait) : (i.work w).wait = w := by cases i <;> rfl

end Inquiry

/-- The mask that a query comes to if this is the first signal that reaches it in time, if any does. Only
of users that are connected the server has information, whatever the mask in it. -/
def Signal.verdict : Option Signal → Mask
  | some (.response (.userInfo info)) => if info.mask.isUnknown then .online else info.mask
  | _ => .unknown

theorem Signal.verdict_some (sig : Signal) : verdict (some sig) = sig.mask := by
  cases sig with
  | response r => cases r <;> rfl
  | timeout => rfl
  | expiry => rfl

theorem Mask.status_ne_offline {m : Mask} (h : m.isUnknown = false) : m.status ≠ .offline := by
  have hpriority : ∀ p ∈ priority, p.2 ≠ Status.offline := by decide
  rw [status, if_neg (by simp [h])]
  split
  · next hfind => exact hpriority _ (List.mem_of_find?_eq_some hfind)
  · decide

theorem Signal.verdict_offline_iff (first? : Option Signal) :
    (verdict first?).status = .offline ↔ ∀ info, first? ≠ some (.response (.userInfo info)) := by
  constructor
  · rintro h info rfl
    refine Mask.status_ne_offline ?_ h
    change (if info.mask.isUnknown then Mask.online else info.mask).isUnknown = false
    split
    · rfl
    · next hknown => exact Bool.eq_false_iff.2 hknown
  · intro h
    unfold verdict
    split
    · next info => exact absurd rfl (h info)
    · exact Mask.status_unknown

namespace Session

/-- A query has been answered or given up, and nobody waits for it. -/
structure Over (q : Nat) (s : Session) : Prop where
  query : s.queries[q]? = some .spent
  waits : ∀ w ∈ s.waits, w.query ≠ q

section Over

variable {name : TaskName} {q : Nat} {s t : Session}

/-- A query takes one signal. -/
theorem signal_of_completed {c : Correlator} (h : s.queries[q]? = some c) (hc : c.completed = true)
    (sig : Signal) : s.signal q sig = s := by
  have hsame : s.queries.modify q (·.signal sig) = s.queries := by
    obtain ⟨hlt, heq⟩ := List.getElem?_eq_some_iff.1 h
    rw [List.modify_eq_set_getElem?, h]
    change s.queries.set q (c.signal sig) = s.queries
    rw [Correlator.signal_of_completed hc, ← heq, List.set_getElem_self]
  rw [Session.signal, hsame]

theorem Over.lt (h : Over q s) : q < s.queries.length := (List.getElem?_eq_some_iff.1 h.query).1

theorem Over.of_spares (h : Over q s) (ht : Spares name q s t) : Over q t where
  query := ht.query.trans h.query
  waits w hw hquery := h.waits w (ht.waits w hw hquery) hquery

theorem Over.signal (h : Over q s) (sig : Signal) : s.signal q sig = s :=
  signal_of_completed h.query rfl sig

theorem Over.wakeWaiter (h : Over q s) : s.wakeWaiter q = s := wakeWaiter_of_nobody h.waits

theorem Over.expire (h : Over q s) : s.expire q = s := by rw [Session.expire, h.signal, h.wakeWaiter]

/-- A signal concerns one query, and none that is over. -/
theorem signal_wakeWaiter_spares (name : TaskName) (hs : s.Ordered) (hq : q < s.queries.length) {q' : Nat}
    (h : q = q' → Over q s) (sig : Signal) :
    Spares name q s ((s.signal q' sig).wakeWaiter q') := by
  by_cases hqq : q = q'
  · rw [← hqq, (h hqq).signal, (h hqq).wakeWaiter]
    exact .refl name q s
  · have hfirst := signal_spares hqq name s sig
    exact hfirst.trans ((wakeWaiter_woken (hs.signal q' sig) q').spares (hfirst.length_lt hq) hqq)

theorem Over.not_mem_overdue (h : Over q s) : q ∉ s.overdue := by
  intro hq
  obtain ⟨w, hw, -, hquery⟩ := mem_overdue.1 hq
  exact h.waits w hw hquery

theorem Over.passes_spares (h : Over q s) (ht : Passes name s t) : Spares name q s t := by
  induction ht with
  | aside ht => exact ht.spares q h.lt
  | @arrive s moment hs _ =>
    have hat := at_spares name q s moment
    have hthen := h.of_spares hat
    exact hat.trans ((arrive_settles hs _).spares name q hthen.lt hthen.not_mem_overdue)
  | trans _ _ ih₁ ih₂ => exact (ih₁ h).trans (ih₂ (h.of_spares (ih₁ h)))

section Separate

variable {f : Session → Nat → Session} {K : Session → Prop}

/-- Done for one after another, it spares those among which a query is not, and those for which there is
nothing more to do. -/
theorem Separate.foldl_spares (hf : Separate f) (kept : ∀ {s t}, Spares name q s t → K s → K t)
    (qs : List Nat) (same : q ∈ qs → ∀ s, K s → f s q = s) : ∀ {s : Session}, s.Ordered →
    q < s.queries.length → K s → Spares name q s (qs.foldl f s) := by
  induction qs with
  | nil => exact fun _ _ _ => .refl name q _
  | cons q' qs ih =>
    intro s hs hq hK
    have hfirst : Spares name q s (f s q') := by
      by_cases hqq : q = q'
      · rw [← hqq, same (hqq ▸ List.mem_cons_self) s hK]
        exact .refl name q s
      · exact hf.spares name hs hq hqq
    exact hfirst.trans (ih (fun hmem => same (List.mem_cons_of_mem _ hmem)) (hf.ordered q' hs)
      (hfirst.length_lt hq) (kept hfirst hK))

theorem Separate.foldl_spares_of_not_mem (hf : Separate f) (name : TaskName) (hs : s.Ordered)
    (hq : q < s.queries.length) {qs : List Nat} (hqs : q ∉ qs) : Spares name q s (qs.foldl f s) :=
  hf.foldl_spares (K := fun _ => True) (fun _ h => h) qs (fun hmem => absurd hmem hqs) hs hq trivial

/-- Done for one after another, it is done for each once, if there is nothing more to do then. -/
theorem Separate.foldl_of_mem {L : Session → Prop} (hf : Separate f)
    (lt : ∀ {s}, K s → q < s.queries.length) (kept : ∀ {s t}, Spares name q s t → K s → K t)
    (kept' : ∀ {s t}, Spares name q s t → L s → L t) (turns : ∀ {s}, s.Ordered → K s → L (f s q))
    (lt' : ∀ {s}, L s → q < s.queries.length) (same : ∀ {s}, L s → f s q = s) (qs : List Nat) :
    ∀ {s : Session}, q ∈ qs → s.Ordered → K s → L (qs.foldl f s) := by
  induction qs with
  | nil => nofun
  | cons q' qs ih =>
    intro s hmem hs hK
    by_cases hqq : q = q'
    · have hL := turns hs hK
      rw [List.foldl_cons, ← hqq]
      exact kept' (hf.foldl_spares kept' qs (fun _ _ => same) (hf.ordered q hs) (lt' hL) hL) hL
    · have hrest := (List.mem_cons.1 hmem).resolve_left hqq
      exact ih hrest (hf.ordered q' hs) (kept (hf.spares name hs (lt hK) hqq) hK)

theorem Over.foldl_spares (h : Over q s) (hs : s.Ordered) (hf : Separate f) (name : TaskName)
    (same : ∀ {s}, Over q s → f s q = s) (qs : List Nat) : Spares name q s (qs.foldl f s) :=
  hf.foldl_spares (fun ht h => h.of_spares ht) qs (fun _ _ => same) hs h.lt h

/-- Nothing is done for a query that is over, whether it is done or not. -/
theorem Over.foldl_filter_ne (hf : Separate f) (same : ∀ {s}, Over q s → f s q = s) (qs : List Nat) :
    ∀ {s : Session}, s.Ordered → Over q s → (qs.filter (· ≠ q)).foldl f s = qs.foldl f s := by
  induction qs with
  | nil => exact fun _ _ => rfl
  | cons q' qs ih =>
    intro s hs h
    rw [List.foldl_cons]
    by_cases hqq : q = q'
    · rw [← hqq, same h, List.filter_cons_of_neg (by simp)]
      exact ih hs h
    · rw [List.filter_cons_of_pos (by simpa using Ne.symm hqq), List.foldl_cons]
      exact ih (hf.ordered q' hs) (h.of_spares (hf.spares .foreground hs h.lt hqq))

end Separate

end Over

/-- A task waits for a query, which is in some state. -/
structure Awaiting (i : Inquiry) (name : TaskName) (w : Wait) (c : Correlator) (s : Session) :
    Prop where
  task : s.task? name = some ⟨name, .working (i.work w)⟩
  query : s.queries[w.query]? = some c

/-- A task has asked, and the query is over. -/
structure Decided (name : TaskName) (q : Nat) (outcome : Outcome) (s : Session) : Prop where
  task : s.task? name = some ⟨name, .finished outcome⟩
  closed : Over q s

section Awaiting

variable {i : Inquiry} {name : TaskName} {w : Wait} {c : Correlator} {s t : Session}

theorem Awaiting.of_spares (h : Awaiting i name w c s) (ht : Spares name w.query s t) :
    Awaiting i name w c t where
  task := ht.task _ h.task fun w' hw => by
    rw [← Option.some.inj hw, i.work_wait]
  query := ht.query.trans h.query

theorem Decided.of_spares {q : Nat} {outcome : Outcome} (h : Decided name q outcome s)
    (ht : Spares name q s t) : Decided name q outcome t where
  task := ht.task _ h.task nofun
  closed := h.closed.of_spares ht

theorem Awaiting.lt (h : Awaiting i name w c s) : w.query < s.queries.length :=
  (List.getElem?_eq_some_iff.1 h.query).1

theorem Awaiting.mem_waits (h : Awaiting i name w c s) : w ∈ s.waits :=
  List.mem_append_left _ (List.mem_filterMap.2
    ⟨_, List.mem_of_find?_eq_some h.task, congrArg some (i.work_wait w)⟩)

theorem Awaiting.signal (h : Awaiting i name w c s) (sig : Signal) :
    Awaiting i name w (c.signal sig) (s.signal w.query sig) where
  task := h.task
  query := by simp [Session.signal, h.query]

/-- Nobody else waits for the same query. -/
theorem Ordered.eq_of_waits (hs : s.Ordered) {before after : List Task} {task task' : Task}
    {w w' : Wait} (tasks : s.tasks = before ++ task :: after)
    (others : ∀ t ∈ before, t.wait?.any (·.query = w.query) = false) (waits : task.wait? = some w)
    (mem : task' ∈ s.tasks) (waits' : task'.wait? = some w') (same : w'.query = w.query) :
    task' = task := by
  rw [tasks] at mem
  rcases List.mem_append.1 mem with hbefore | hmem
  · have hnot := others task' hbefore
    simp [waits', same] at hnot
  · rcases List.mem_cons.1 hmem with heq | hafter
    · exact heq
    · have hdistinct := hs.distinct
      rw [Session.waits, tasks, List.filterMap_append, filterMap_cons_eq, waits, List.append_assoc,
        List.map_append, Option.toList_some, List.singleton_append, List.cons_append,
        List.map_cons, List.nodup_middle] at hdistinct
      refine absurd ?_ (List.nodup_cons.1 hdistinct).1
      rw [← same]
      exact List.mem_append_right _ (List.mem_map_of_mem
        (List.mem_append_left _ (List.mem_filterMap.2 ⟨task', hafter, waits'⟩)))

/-- A task whose query has been signalled goes on. -/
theorem Awaiting.wakeWaiter {sig : Signal} (hs : s.Ordered)
    (h : Awaiting i name w (({} : Correlator).signal sig) s) :
    Decided name w.query (i.outcome sig.mask) (s.wakeWaiter w.query) := by
  have hfound := List.mem_of_find?_eq_some h.task
  have hwoken := wakeWaiter_woken hs w.query
  have hwaits : ∀ w' ∈ (s.wakeWaiter w.query).waits, w'.query ≠ w.query := by
    intro w' hw' hquery
    rcases hwoken.waits w' hw' with ⟨-, hne⟩ | hrecent
    · exact hne hquery
    · exact absurd hrecent.new (Nat.not_le.2 (hquery ▸ h.lt))
  rcases exists_waiter s w.query with ⟨tasks, others, query⟩ | ⟨others, -, -⟩ | nobody
  · next before after name' work =>
    -- no two wait for the same query, so the one that is found is ours
    have hsame := hs.eq_of_waits tasks (fun t ht => query ▸ others t ht) rfl hfound
      (congrArg some (i.work_wait w)) query.symm
    cases hsame
    have hwake := wakeWaiter_of_task tasks others query
    have hresume : s.resume (i.work w) =
        ({ s with queries := s.queries.set w.query .spent }, .inl (i.outcome sig.mask)) := by
      cases i <;> rw [resume, Inquiry.work_wait, receive_of_signalled h.query] <;> rfl
    rw [hresume] at hwake
    refine ⟨?_, ⟨?_, hwaits⟩⟩
    · have hbefore : before.find? (·.name = name) = none := by
        refine Option.eq_none_iff_forall_ne_some.2 fun t hfind => ?_
        have htask := h.task
        rw [task?, tasks, List.find?_append, hfind] at htask
        have hnot := others t (List.mem_of_find?_eq_some hfind)
        cases htask
        simp [Task.wait?] at hnot
      rw [hwake, task?, List.find?_append, hbefore]
      simp [TaskState.ofResult]
    · rw [hwake]
      simp [h.lt]
  · have hnone := others _ hfound
    simp [Task.wait?] at hnone
  · exact absurd rfl (nobody w h.mem_waits)

theorem Awaiting.expire (hs : s.Ordered) (h : Awaiting i name w {} s) :
    Decided name w.query (i.outcome .unknown) (s.expire w.query) :=
  (h.signal .expiry).wakeWaiter (hs.signal w.query .expiry)

/-- A query is given up when its deadline has come. -/
theorem Awaiting.settle_of_due (hs : s.Ordered) (h : Awaiting i name w {} s) (due : w.deadline ≤ s.now) :
    Decided name w.query (i.outcome .unknown) s.settle := by
  have hgiven := separate_expire.foldl_of_mem Awaiting.lt (fun ht h => h.of_spares ht)
    (fun ht h => h.of_spares ht) (fun hs h => h.expire hs) (fun h => h.closed.lt)
    (fun h => h.closed.expire) s.overdue (mem_overdue.2 ⟨w, h.mem_waits, due, rfl⟩) hs h
  have hticked := tick_ticked (separate_expire.foldl hs s.overdue).1
  exact hgiven.of_spares (hticked.spares name w.query hgiven.closed.lt)

/-- A delivery answers the queries that have not been answered. -/
theorem Awaiting.deliver (hs : s.Ordered) (h : Awaiting i name w {} s) (r : Response) :
    if w.query ∈ s.server.unanswered then
      Decided name w.query (i.outcome (Signal.response r).mask) (s.deliver r).1
    else Awaiting i name w {} (s.deliver r).1 := by
  have hsignal := separate_signal (.response r)
  have hemptied := hs.withServer { s.server with unanswered := [] }
  have hwaits := h.of_spares (withServer_spares name w.query s { s.server with unanswered := [] })
  have hordered := (hsignal.foldl hemptied s.server.unanswered).1
  split
  · next hmem =>
    -- all are signalled first, and only then those who wait go on
    have hsignalled := hsignal.foldl_of_mem Awaiting.lt (fun ht h => h.of_spares ht)
      (fun ht h => h.of_spares ht) (fun _ h => h.signal (.response r)) Awaiting.lt
      (fun h => signal_of_completed h.query (Correlator.completed_signal ..) _)
      s.server.unanswered hmem hemptied hwaits
    exact separate_wakeWaiter.foldl_of_mem Awaiting.lt (fun ht h => h.of_spares ht)
      (fun ht h => h.of_spares ht) (fun hs h => h.wakeWaiter hs) (fun h => h.closed.lt)
      (fun h => h.closed.wakeWaiter) s.server.unanswered hmem hordered hsignalled
  · next hmem =>
    have hsignalled := hwaits.of_spares (hsignal.foldl_spares_of_not_mem name hemptied hwaits.lt hmem)
    exact hsignalled.of_spares
      (separate_wakeWaiter.foldl_spares_of_not_mem name hordered hsignalled.lt hmem)

end Awaiting

end Session

end Roster
