import Roster.Proofs.Course

/-! Time is a course: tasks going on when their queries are over, the poller's ticks, and waiting for
something to happen. -/

namespace Roster.Session

theorem mem_polls {s : Session} {p : SuspendedPoll} :
    p ∈ s.polls ↔ (∃ t ∈ s.tasks, t.poll? = some p) ∨ s.poller.bind Poller.poll = some p := by
  simp [polls, List.mem_filterMap]

theorem poll?_eq_some_iff {name : TaskName} {state : TaskState} {p : SuspendedPoll} :
    Task.poll? ⟨name, state⟩ = some p ↔ state = .working (.poll p) := by
  unfold Task.poll?
  split <;> simp_all

theorem ofResult_eq_poll_iff {r : Outcome ⊕ Work} {p : SuspendedPoll} :
    TaskState.ofResult r = .working (.poll p) ↔ r = .inr (.poll p) := by
  cases r <;> simp [TaskState.ofResult]

theorem poll_after {due : Nat} {r : PollReport ⊕ SuspendedPoll} {p : SuspendedPoll} :
    (Poller.after due r).poll = some p ↔ r = .inr p := by
  cases r <;> simp [Poller.after]

/-- A turn that changes only the tasks, the poller, the server, the keeper and the time. -/
theorem Turn.wait {s s' : Session} (hs : s.Sound) (alike : s.Alike s')
    (polls : ∀ p ∈ s'.polls, p ∈ s.polls ∨ s.Awaits p) : Turn s s' := by
  refine .silent alike fun p hp => ?_
  have hp : s.Awaits p := (polls p hp).elim (hs.awaited p) id
  exact hp.mono alike.settings (alike.trace ▸ List.prefix_refl _)

/-- The poller goes on when its poll has. -/
theorem poller_course {s : Session} (due : Nat) {r : Session × (PollReport ⊕ SuspendedPoll)}
    (hs : s.Sound) (h : s.Polling r) :
    Course s { r.1 with poller := some (Poller.after due r.2) } := by
  refine h.1.tail (.wait (h.1.sound hs) ⟨rfl, rfl, rfl, rfl, rfl, rfl, rfl, rfl⟩ ?_)
  intro p hp
  rcases mem_polls.1 hp with hmem | hpoller
  · exact .inl (mem_polls.2 (.inl hmem))
  · exact .inr (h.2 p (poll_after.1 hpoller))

theorem resume_begun {s : Session} {w : Work} (hs : s.Sound)
    (hw : ∀ p, w = .poll p → p ∈ s.polls) : s.Begun (s.resume w) := by
  have hreceive (q : Nat) : Turn s (s.receive q).1 := by
    have h := receive_idle s q
    refine .wait hs h.toAlike fun p hp => .inl ?_
    rwa [h.still.polls] at hp
  cases w with
  | query w => exact ⟨.single (hreceive _), nofun⟩
  | queryMask w => exact ⟨.single (hreceive _), nofun⟩
  | publish w => exact ⟨.single (hreceive _), nofun⟩
  | poll p =>
    have h := resumePoll_polling hs (hw p rfl) (Prod.eta (s.receive p.wait.query)).symm
    simp only [resume, Work.wait]
    rcases hr : (s.receive p.wait.query).1.resumePoll p (s.receive p.wait.query).2 with ⟨t, r | p'⟩
    · rw [hr] at h
      exact ⟨h.1, nofun⟩
    · rw [hr] at h
      exact ⟨h.1, fun q hq => h.2 q (by cases hq; rfl)⟩

theorem beginPoll_begun {s : Session} (hs : s.Sound) : s.Begun s.beginPoll := by
  have h := poll_polling s hs
  simp only [beginPoll]
  rcases hr : s.poll with ⟨t, r | p⟩
  · rw [hr] at h
    exact ⟨h.1, nofun⟩
  · rw [hr] at h
    exact ⟨h.1, fun q hq => h.2 q (by cases hq; rfl)⟩

theorem addTask_course {s : Session} {name : TaskName} {begun : Session × (Outcome ⊕ Work)}
    (hs : s.Sound) (h : s.Begun begun) : Course s (addTask name begun) := by
  obtain ⟨t, r⟩ := begun
  refine h.1.tail (.wait (h.1.sound hs) ⟨rfl, rfl, rfl, rfl, rfl, rfl, rfl, rfl⟩ ?_)
  intro p hp
  rcases mem_polls.1 hp with ⟨task, hmem, hpoll⟩ | hpoller
  · rcases List.mem_cons.1 hmem with rfl | hmem
    · exact .inr (h.2 p (ofResult_eq_poll_iff.1 (poll?_eq_some_iff.1 hpoll)))
    · exact .inl (mem_polls.2 (.inl ⟨task, hmem, hpoll⟩))
  · exact .inl (mem_polls.2 (.inr hpoller))

theorem wakeWaiter_course {s : Session} (hs : s.Sound) (q : Nat) : Course s (s.wakeWaiter q) := by
  unfold wakeWaiter
  split
  · split
    · next i _ name w htask =>
      have hw (p : SuspendedPoll) (h : w = .poll p) : p ∈ s.polls :=
        mem_polls.2 (.inl ⟨_, List.mem_of_getElem? htask, by rw [poll?_eq_some_iff, h]⟩)
      have h := resume_begun hs hw
      rcases hr : s.resume w with ⟨t, r⟩
      rw [hr] at h
      refine h.1.tail (.wait (h.1.sound hs) ⟨rfl, rfl, rfl, rfl, rfl, rfl, rfl, rfl⟩ ?_)
      intro p hp
      rcases mem_polls.1 hp with ⟨task, hmem, hpoll⟩ | hpoller
      · rcases List.mem_or_eq_of_mem_set hmem with hmem | rfl
        · exact .inl (mem_polls.2 (.inl ⟨task, hmem, hpoll⟩))
        · exact .inr (h.2 p (ofResult_eq_poll_iff.1 (poll?_eq_some_iff.1 hpoll)))
      · exact .inl (mem_polls.2 (.inr hpoller))
    · exact .refl
  · split
    · next due p hpoller =>
      split
      · next hq =>
        have hp : p ∈ s.polls := mem_polls.2 (.inr (by rw [hpoller]; rfl))
        have h := resumePoll_polling hs hp (Prod.eta (s.receive p.wait.query)).symm
        rw [← hq]
        exact poller_course due hs h
      · exact .refl
    · exact .refl

theorem expire_course {s : Session} (hs : s.Sound) (q : Nat) : Course s (s.expire q) := by
  have h := signal_idle s q .expiry
  have turn : Turn s (s.signal q .expiry) := by
    refine .wait hs h.toAlike fun p hp => .inl ?_
    rwa [h.still.polls] at hp
  exact .head turn (wakeWaiter_course (turn.sound hs) q)

theorem tick_course {s : Session} (hs : s.Sound) : Course s s.tick := by
  unfold tick
  split
  · split
    · exact poller_course _ hs (poll_polling s hs)
    · exact .refl
  · exact .refl

theorem settle_course {s : Session} (hs : s.Sound) : Course s s.settle := by
  have h := Course.foldl (fun _ q hs => expire_course hs q) s hs s.overdue
  exact h.trans (tick_course (h.sound hs))

/-- The time alone is no news. -/
theorem now_turn {s : Session} (hs : s.Sound) (now : Nat) : Turn s { s with now := now } :=
  .wait hs ⟨rfl, rfl, rfl, rfl, rfl, rfl, rfl, rfl⟩ fun _ hp => .inl hp

theorem arrive_course {s : Session} (hs : s.Sound) (moment : Nat) :
    Course s (s.arrive moment) := by
  have hnow := now_turn hs moment
  have hsettle := settle_course (hnow.sound hs)
  exact (Relation.ReflTransGen.head hnow hsettle).tail
    (now_turn (hsettle.sound (hnow.sound hs)) moment)

theorem passUntil_course (stop : Session → Bool) (moment : Nat) (s : Session) (hs : s.Sound) :
    Course s (passUntil stop moment s) := by
  fun_induction passUntil stop moment s with
  | case1 => exact .refl
  | case2 s _ next _ _ ih =>
    have h := arrive_course hs next
    exact h.trans (ih (h.sound hs))
  | case3 => exact .refl
  | case4 => exact .refl

theorem advance_course {s : Session} (hs : s.Sound) (ms : Nat) : Course s (s.advance ms) := by
  have h := passUntil_course (fun _ => false) (s.now + ms) s hs
  exact h.trans (arrive_course (h.sound hs) _)

theorem await_course {s : Session} (hs : s.Sound) (name : TaskName) : Course s (s.await name) := by
  unfold await
  split
  · exact passUntil_course _ _ s hs
  · exact .refl

theorem complete_course {s : Session} {begun : Session × (Outcome ⊕ Work)} (hs : s.Sound)
    (h : s.Begun begun) : Course s (complete begun).1 := by
  have hadd : Course s (addTask .foreground begun) := addTask_course hs h
  have hawait : Course s _ := hadd.trans (await_course (hadd.sound hs) .foreground)
  refine hawait.tail (.wait (hawait.sound hs) ⟨rfl, rfl, rfl, rfl, rfl, rfl, rfl, rfl⟩ ?_)
  intro p hp
  rcases mem_polls.1 hp with ⟨task, hmem, hpoll⟩ | hpoller
  · exact .inl (mem_polls.2 (.inl ⟨task, (List.mem_filter.1 hmem).1, hpoll⟩))
  · exact .inl (mem_polls.2 (.inr hpoller))

theorem deliver_course {s : Session} (hs : s.Sound) (response : Response) :
    Course s (s.deliver response).1 := by
  have hclear : Turn s { s with server := { s.server with unanswered := [] } } :=
    .wait hs ⟨rfl, rfl, rfl, rfl, rfl, rfl, rfl, rfl⟩ fun _ hp => .inl hp
  have hsignal (t : Session) (q : Nat) (ht : t.Sound) :
      Course t (t.signal q (.response response)) := by
    refine .single (.wait ht (signal_idle ..).toAlike fun p hp => .inl ?_)
    rwa [(signal_idle ..).still.polls] at hp
  have hfirst : Course s _ := (Relation.ReflTransGen.single hclear).trans
    (Course.foldl hsignal _ (hclear.sound hs) s.server.unanswered)
  exact hfirst.trans
    (Course.foldl (fun _ q ht => wakeWaiter_course ht q) _ (hfirst.sound hs) s.server.unanswered)

end Roster.Session
