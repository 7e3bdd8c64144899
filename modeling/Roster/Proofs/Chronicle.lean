import Roster.Proofs.QueryOutcome
import Roster.Proofs.ReRequests

/-! The chronicle of a run: every login and logout, and every stretch that a poll goes without waiting, in
the order in which they come about. A run is a path of beats, and each beat says what becomes of the time,
of the poller and of the polls that wait, and what goes into the chronicle for it. -/

namespace Roster

/-- What a poll comes to: it is over, or it waits. -/
abbrev PollState := PollReport ⊕ SuspendedPoll

/-- A part of a poll that goes on without waiting: from its beginning or from the answer to a query it has
waited for, to the next such query or to its end. -/
structure Stretch where
  byPoller : Bool
  resumed : Option SuspendedPoll
  before : Session
  deriving DecidableEq, Repr

namespace Stretch

def run (x : Stretch) : Session × PollState :=
  match x.resumed with
  | none => x.before.poll
  | some p =>
    let (s, mask) := x.before.receive p.wait.query
    s.resumePoll p mask

def after (x : Stretch) : Session := x.run.1

def result (x : Stretch) : PollState := x.run.2

end Stretch

inductive Entry
  | login (moment : Nat)
  | logout (moment : Nat)
  | stretch (stretch : Stretch)
  deriving DecidableEq, Repr

-- What is entered: one function for each that lets somebody go on, and in the same cases.
namespace Chronicle

/-- The entries of a loop over a session. -/
def along {α : Type} (f : Session → α → Session) (entries : Session → α → List Entry) (s : Session) :
    List α → List Entry
  | [] => []
  | a :: as => entries s a ++ along f entries (f s a) as

def resume (s : Session) : Work → List Entry
  | .poll p => [.stretch ⟨false, some p, s⟩]
  | _ => []

def wakeWaiter (s : Session) (query : Nat) : List Entry :=
  match s.tasks.find? (fun t => t.wait?.any (·.query = query)) with
  | some ⟨_, .working w⟩ => resume s w
  | some _ => []
  | none =>
    match s.poller with
    | some ⟨_, some p⟩ => if p.wait.query = query then [.stretch ⟨true, some p, s⟩] else []
    | _ => []

def tick (s : Session) : List Entry :=
  match s.poller with
  | some ⟨due, none⟩ => if due ≤ s.now then [.stretch ⟨true, none, s⟩] else []
  | _ => []

def expire (s : Session) (query : Nat) : List Entry := wakeWaiter (s.signal query .expiry) query

def settle (s : Session) : List Entry :=
  along Session.expire expire s s.overdue ++ tick (s.overdue.foldl Session.expire s)

def arrive (s : Session) (moment : Nat) : List Entry := settle { s with now := moment }

def passUntil (stop : Session → Bool) (moment : Nat) (s : Session) : List Entry :=
  if stop s then []
  else
    match s.nextMoment? with
    | some next =>
      if s.now < next ∧ next ≤ moment then
        arrive s next ++ passUntil stop moment (s.arrive next)
      else []
    | none => []
termination_by moment - s.now
decreasing_by simp [Session.arrive]; omega

def advance (s : Session) (ms : Nat) : List Entry :=
  let target := s.now + ms
  passUntil (fun _ => false) target s ++ arrive (Session.passUntil (fun _ => false) target s) target

def await (s : Session) (name : TaskName) : List Entry :=
  match s.task? name with
  | some ⟨_, .working w⟩ =>
    passUntil (fun s => (s.outcome? name).isSome) (w.horizon s.settings.queryTimeoutMs) s
  | _ => []

def complete (begun : Session × (Outcome ⊕ Work)) : List Entry :=
  await (Session.addTask .foreground begun) .foreground

def deliver (s : Session) (response : Response) : List Entry :=
  let queries := s.server.unanswered
  let s := { s with server := { s.server with unanswered := [] } }
  let s := queries.foldl (fun s q => s.signal q (.response response)) s
  along Session.wakeWaiter wakeWaiter s queries

def registrationChanged (s : Session) (new : Registration) : List Entry :=
  if new = .registered then [.login s.now]
  else if new.isDisconnect then [.logout s.now]
  else []

def act (s : Session) : Step → List Entry
  | .deliver response => deliver s response
  | .registrationChanged new => registrationChanged s new
  | .publish status message => complete (s.publish status message)
  | .query identifier => complete (s.query identifier)
  | .queryMask identifier => complete (s.queryMask identifier)
  | .poll => .stretch ⟨false, none, s⟩ :: complete s.beginPoll
  | .spawnPoll _ => [.stretch ⟨false, none, s⟩]
  | .join task => await s (.background task)
  | .advance ms => advance s ms
  | _ => []

def perform (s : Session) (step : Step) : List Entry := act s step ++ settle (s.act step).1

end Chronicle

namespace Session

/-- All that is entered while a session takes some steps. -/
def chronicle (s : Session) (steps : List Step) : List Entry :=
  Chronicle.along (fun s step => (s.perform step).1) Chronicle.perform s steps

/-- No time passes, and what decides about polling stays. -/
structure Keeps (s t : Session) : Prop where
  settings : t.settings = s.settings
  reRequests : t.reRequests = s.reRequests
  now : t.now = s.now

/-- One move of a session, as far as polls are concerned. No request is re-sent but in a stretch. -/
inductive Beat (s : Session) : List Entry → Session → Prop
  | aside {t : Session} (keeps : s.Keeps t) (poller : t.poller = s.poller)
      (polls : ∀ p ∈ t.polls, p ∈ s.polls) (trace : s.Refrains t) : Beat s [] t
  /-- A tick of the poller is not passed over. -/
  | time {moment : Nat} (later : s.now ≤ moment)
      (early : ∀ due, s.poller = some ⟨due, none⟩ → moment ≤ due) : Beat s [] { s with now := moment }
  | task {t : Session} (resumed : Option SuspendedPoll) (waited : ∀ p ∈ resumed, p ∈ s.polls)
      (keeps : s.Keeps t) (poller : t.poller = s.poller)
      (polls : ∀ p ∈ t.polls, p ∈ s.polls ∨ Stretch.result ⟨false, resumed, s⟩ = .inr p)
      (trace : t.trace = (Stretch.after ⟨false, resumed, s⟩).trace) :
      Beat s [.stretch ⟨false, resumed, s⟩] t
  | tick {t : Session} {due : Nat} (poller : s.poller = some ⟨due, none⟩) (come : due ≤ s.now)
      (keeps : s.Keeps t)
      (next : t.poller = some (.after (s.nextTick due) (Stretch.result ⟨true, none, s⟩)))
      (polls : ∀ p ∈ t.polls, p ∈ s.polls ∨ Stretch.result ⟨true, none, s⟩ = .inr p)
      (trace : t.trace = (Stretch.after ⟨true, none, s⟩).trace) :
      Beat s [.stretch ⟨true, none, s⟩] t
  | goesOn {t : Session} {due : Nat} {p : SuspendedPoll} (poller : s.poller = some ⟨due, some p⟩)
      (keeps : s.Keeps t) (next : t.poller = some (.after due (Stretch.result ⟨true, some p, s⟩)))
      (polls : ∀ p' ∈ t.polls, p' ∈ s.polls ∨ Stretch.result ⟨true, some p, s⟩ = .inr p')
      (trace : t.trace = (Stretch.after ⟨true, some p, s⟩).trace) :
      Beat s [.stretch ⟨true, some p, s⟩] t
  | login {t : Session} (keeps : s.Keeps t)
      (next : t.poller = if s.settings.mode.hasExtendedAuthorization && s.reRequests then
        s.startPolling.poller else s.poller)
      (polls : ∀ p ∈ t.polls, p ∈ s.polls) (trace : s.Refrains t) : Beat s [.login s.now] t
  | logout {t : Session} (keeps : s.Keeps t) (poller : t.poller = none)
      (polls : ∀ p ∈ t.polls, p ∈ s.polls) (trace : s.Refrains t) : Beat s [.logout s.now] t

/-- Beats after one another, with all that is entered for them. -/
inductive Beats (s : Session) : List Entry → Session → Prop
  | refl : Beats s [] s
  | tail {t u : Session} {entries more : List Entry} (beats : Beats s entries t)
      (beat : Beat t more u) : Beats s (entries ++ more) u

section Beats

variable {s t u : Session} {entries more : List Entry}

theorem Beat.beats (h : Beat s entries t) : Beats s entries t := Beats.refl.tail h

theorem Beats.trans (h₁ : Beats s entries t) (h₂ : Beats t more u) : Beats s (entries ++ more) u := by
  induction h₂ with
  | refl => simpa using h₁
  | tail _ beat ih =>
    rw [← List.append_assoc]
    exact ih.tail beat

/-- A loop over beats. -/
theorem Beats.along {α : Type} {f : Session → α → Session} {entries : Session → α → List Entry}
    {P : Session → Prop} (h : ∀ s a, P s → Beats s (entries s a) (f s a) ∧ P (f s a)) (as : List α) :
    ∀ s, P s → Beats s (Chronicle.along f entries s as) (as.foldl f s) := by
  induction as with
  | nil =>
    intro s _
    exact .refl
  | cons a as ih =>
    intro s hs
    obtain ⟨hfirst, hnext⟩ := h s a hs
    exact hfirst.trans (ih (f s a) hnext)

theorem Keeps.of_clockwork (h : t.clockwork = s.clockwork) : s.Keeps t := by
  obtain ⟨-, -, -, hnow, hsettings, hreRequests⟩ := Clockwork.mk.inj h
  exact ⟨hsettings, hreRequests, hnow⟩

/-- Nothing is done for anybody who waits. -/
theorem beats_of_clockwork (h : t.clockwork = s.clockwork) (trace : s.Refrains t) : Beats s [] t := by
  obtain ⟨-, htasks, hpoller, -, -, -⟩ := Clockwork.mk.inj h
  refine (Beat.aside (.of_clockwork h) hpoller ?_ trace).beats
  rw [polls, polls, htasks, hpoller]
  exact fun _ hp => hp

theorem resume_poll_trace (s : Session) (p : SuspendedPoll) :
    (s.resume (.poll p)).1.trace = (Stretch.after ⟨false, some p, s⟩).trace := by
  change _ = ((s.receive p.wait.query).1.resumePoll p (s.receive p.wait.query).2).1.trace
  simp only [resume, Work.wait]
  split <;> next hpoll => rw [hpoll]

theorem beginPoll_trace (s : Session) : s.beginPoll.1.trace = (Stretch.after ⟨false, none, s⟩).trace := by
  change _ = s.poll.1.trace
  unfold beginPoll
  split <;> next hpoll => rw [hpoll]

theorem resume_result {s : Session} {p p' : SuspendedPoll}
    (h : (s.resume (.poll p)).2 = .inr (.poll p')) : Stretch.result ⟨false, some p, s⟩ = .inr p' := by
  change ((s.receive p.wait.query).1.resumePoll p (s.receive p.wait.query).2).2 = .inr p'
  simp only [resume, Work.wait] at h
  split at h <;> cases h
  next hpoll => rw [hpoll]

theorem beginPoll_result {s : Session} {p : SuspendedPoll} (h : s.beginPoll.2 = .inr (.poll p)) :
    Stretch.result ⟨false, none, s⟩ = .inr p := by
  change s.poll.2 = .inr p
  unfold beginPoll at h
  split at h <;> cases h
  next hpoll => rw [hpoll]

/-- Where the tasks stay, the poller alone can wait anew. -/
theorem mem_polls_of_tasks {p : SuspendedPoll} (hp : p ∈ t.polls) (tasks : t.tasks = s.tasks) :
    p ∈ s.polls ∨ t.poller.bind Poller.poll = some p := by
  rcases mem_polls.1 hp with ⟨task, htask, hpoll⟩ | hpoll
  · exact .inl (mem_polls.2 (.inl ⟨task, tasks ▸ htask, hpoll⟩))
  · exact .inr hpoll

/-- The polls of the tasks once one has gone on. -/
theorem mem_polls_of_replaced {before after : List Task} {name : TaskName} {old : TaskState}
    {r : Outcome ⊕ Work} {p : SuspendedPoll} (tasks : s.tasks = before ++ ⟨name, old⟩ :: after)
    (tasks' : t.tasks = before ++ ⟨name, .ofResult r⟩ :: after) (poller : t.poller = s.poller)
    (hp : p ∈ t.polls) : p ∈ s.polls ∨ r = .inr (.poll p) := by
  rcases mem_polls.1 hp with ⟨task, htask, hpoll⟩ | hpoll
  · rw [tasks'] at htask
    have hold (h : task ∈ before ∨ task ∈ after) : p ∈ s.polls := by
      refine mem_polls.2 (.inl ⟨task, ?_, hpoll⟩)
      rw [tasks]
      simp only [List.mem_append, List.mem_cons]
      tauto
    rcases List.mem_append.1 htask with hbefore | htask
    · exact .inl (hold (.inl hbefore))
    · rcases List.mem_cons.1 htask with rfl | hafter
      · exact .inr (ofResult_eq_poll_iff.1 (poll?_eq_some_iff.1 hpoll))
      · exact .inl (hold (.inr hafter))
  · rw [poller] at hpoll
    exact .inl (mem_polls.2 (.inr hpoll))

/-- A task goes on in its place. -/
theorem resume_beats {before after : List Task} {name : TaskName} {w : Work}
    (tasks : s.tasks = before ++ ⟨name, .working w⟩ :: after) :
    Beats s (Chronicle.resume s w) { (s.resume w).1 with
      tasks := before ++ ⟨name, .ofResult (s.resume w).2⟩ :: after } := by
  have hasks := (resume_begins s w).1
  obtain ⟨t, ht⟩ : ∃ t : Session, t = { (s.resume w).1 with
    tasks := before ++ ⟨name, .ofResult (s.resume w).2⟩ :: after } := ⟨_, rfl⟩
  have hkeeps : s.Keeps t := by
    rw [ht]
    exact ⟨hasks.settings, hasks.reRequests, hasks.now⟩
  have hpoller : t.poller = s.poller := by
    rw [ht]
    exact hasks.poller
  have hpolls (p : SuspendedPoll) (hp : p ∈ t.polls) : p ∈ s.polls ∨ (s.resume w).2 = .inr (.poll p) :=
    mem_polls_of_replaced tasks (by rw [ht]) hpoller hp
  rw [← ht]
  cases w with
  | poll p =>
    have hwaits : p ∈ s.polls := by
      refine mem_polls.2 (.inl ⟨⟨name, .working (.poll p)⟩, ?_, rfl⟩)
      simp [tasks]
    refine (Beat.task (some p) ?_ hkeeps hpoller ?_ ?_).beats
    · rintro p' ⟨⟩
      exact hwaits
    · intro p' hp'
      exact (hpolls p' hp').imp_right resume_result
    · rw [ht]
      exact resume_poll_trace s p
  | _ =>
    refine (Beat.aside hkeeps hpoller ?_ (.of_trace_eq ?_)).beats
    · intro p hp
      exact (hpolls p hp).resolve_right (by simp [resume])
    · rw [ht]
      exact (receive_idle s _).trace

/-- Nobody waits for a query, and so nothing is entered. -/
theorem wakeWaiter_entries_of_nobody {q : Nat} (nobody : ∀ w ∈ s.waits, w.query ≠ q) :
    Chronicle.wakeWaiter s q = [] := by
  have hfind : s.tasks.find? (fun t => t.wait?.any (·.query = q)) = none := by
    rw [List.find?_eq_none]
    intro task htask
    cases hw : task.wait? with
    | none => simp
    | some w =>
      simpa using nobody w (List.mem_append_left _ (List.mem_filterMap.2 ⟨task, htask, hw⟩))
  rw [Chronicle.wakeWaiter, hfind]
  dsimp only
  split
  · next due p hpoller =>
    rw [if_neg]
    refine nobody p.wait (List.mem_append_right _ ?_)
    simp [hpoller]
  · rfl

/-- Those who do not wait for a query are passed over. -/
theorem find?_of_others {q : Nat} {others : List Task}
    (h : ∀ t ∈ others, t.wait?.any (·.query = q) = false) :
    others.find? (fun t => t.wait?.any (·.query = q)) = none := by
  rw [List.find?_eq_none]
  intro t ht
  simp [h t ht]

theorem wakeWaiter_entries_of_task {q : Nat} {before after : List Task} {name : TaskName} {w : Work}
    (tasks : s.tasks = before ++ ⟨name, .working w⟩ :: after)
    (others : ∀ t ∈ before, t.wait?.any (·.query = q) = false) (query : w.wait.query = q) :
    Chronicle.wakeWaiter s q = Chronicle.resume s w := by
  rw [Chronicle.wakeWaiter, tasks, List.find?_append, find?_of_others others]
  simp [Task.wait?, query]

theorem wakeWaiter_entries_of_poller {q due : Nat} {p : SuspendedPoll}
    (others : ∀ t ∈ s.tasks, t.wait?.any (·.query = q) = false)
    (poller : s.poller = some ⟨due, some p⟩) (query : p.wait.query = q) :
    Chronicle.wakeWaiter s q = [.stretch ⟨true, some p, s⟩] := by
  rw [Chronicle.wakeWaiter, find?_of_others others]
  simp [poller, query]

theorem wakeWaiter_beats (s : Session) (q : Nat) :
    Beats s (Chronicle.wakeWaiter s q) (s.wakeWaiter q) := by
  rcases exists_waiter s q with ⟨tasks, others, query⟩ | ⟨others, poller, query⟩ | nobody
  · rw [wakeWaiter_of_task tasks others query, wakeWaiter_entries_of_task tasks others query]
    exact resume_beats tasks
  · next due p =>
    have hasks :=
      ((resumePoll_begins (s.receive q).1 p (s.receive q).2).of_asks (receive_asks s q)).1
    rw [wakeWaiter_of_poller others poller query, wakeWaiter_entries_of_poller others poller query]
    subst query
    let r := (s.receive p.wait.query).1.resumePoll p (s.receive p.wait.query).2
    have hkeeps : s.Keeps { r.1 with poller := some (.after due r.2) } :=
      ⟨hasks.settings, hasks.reRequests, hasks.now⟩
    refine (Beat.goesOn poller hkeeps rfl (fun p' hp' => ?_) rfl).beats
    exact (mem_polls_of_tasks hp' hasks.tasks).imp_right poll_after.1
  · rw [wakeWaiter_of_nobody nobody, wakeWaiter_entries_of_nobody nobody]
    exact .refl

theorem signal_beats (s : Session) (q : Nat) (sig : Signal) : Beats s [] (s.signal q sig) := by
  have hkeeps : s.Keeps (s.signal q sig) := ⟨rfl, rfl, rfl⟩
  exact (Beat.aside hkeeps rfl (fun _ hp => hp) (.of_trace_eq rfl)).beats

theorem expire_beats (s : Session) (q : Nat) : Beats s (Chronicle.expire s q) (s.expire q) :=
  (signal_beats s q .expiry).trans (wakeWaiter_beats _ q)

theorem tick_beats (s : Session) : Beats s (Chronicle.tick s) s.tick := by
  rcases poller : s.poller with _ | ⟨due, _ | p⟩
  · simp only [Chronicle.tick, Session.tick, poller]
    exact .refl
  · by_cases come : due ≤ s.now
    · have hasks := (poll_begins s).1
      have hkeeps : s.Keeps { s.poll.1 with poller := some (.after (s.nextTick due) s.poll.2) } :=
        ⟨hasks.settings, hasks.reRequests, hasks.now⟩
      simp only [Chronicle.tick, Session.tick, poller, if_pos come]
      refine (Beat.tick poller come hkeeps rfl (fun p hp => ?_) rfl).beats
      exact (mem_polls_of_tasks hp hasks.tasks).imp_right poll_after.1
    · simp only [Chronicle.tick, Session.tick, poller, if_neg come]
      exact .refl
  · simp only [Chronicle.tick, Session.tick, poller]
    exact .refl

theorem settle_beats (s : Session) : Beats s (Chronicle.settle s) s.settle := by
  have hexpired := Beats.along (P := fun _ => True) (fun s q _ => ⟨expire_beats s q, trivial⟩)
    s.overdue s trivial
  exact hexpired.trans (tick_beats _)

/-- Arriving at a moment passes over no tick of the poller that is due before. -/
theorem arrive_beats (hs : s.Ordered) {moment : Nat} (later : s.now ≤ moment)
    (early : ∀ due, s.poller = some ⟨due, none⟩ → moment ≤ due) :
    Beats s (Chronicle.arrive s moment) (s.arrive moment) := by
  rw [arrive_eq hs]
  exact (Beat.time later early).beats.trans (settle_beats _)

/-- The next moment is no later than the next tick. -/
theorem nextMoment_le_due {next due : Nat} (h : s.nextMoment? = some next)
    (poller : s.poller = some ⟨due, none⟩) : next ≤ due := by
  unfold nextMoment? at h
  refine (List.min?_eq_some_iff.1 h).2 due (List.mem_append_right _ ?_)
  simp [poller]

theorem passUntil_beats (stop : Session → Bool) (moment : Nat) (s : Session) (hs : s.Ordered) :
    Beats s (Chronicle.passUntil stop moment s) (passUntil stop moment s) := by
  fun_induction passUntil stop moment s with
  | case1 s hstop =>
    rw [Chronicle.passUntil, if_pos hstop]
    exact .refl
  | case2 s hstop next hnext hlater ih =>
    have harrive := arrive_beats hs (Nat.le_of_lt hlater.1)
      fun due poller => nextMoment_le_due hnext poller
    rw [Chronicle.passUntil, if_neg hstop, hnext]
    simp only [hlater, and_self, if_true]
    exact harrive.trans (ih (arrive_settles hs next).ordered)
  | case3 s hstop next hnext hnot =>
    rw [Chronicle.passUntil, if_neg hstop, hnext]
    simp only [hnot, if_false]
    exact .refl
  | case4 s hstop hnext =>
    rw [Chronicle.passUntil, if_neg hstop, hnext]
    exact .refl

/-- Once time has passed up to a moment, the next tick comes after it. -/
theorem lt_due_of_passUntil (moment : Nat) (s : Session) (hs : s.Ordered) (hprompt : s.Prompt) {due : Nat}
    (poller : (passUntil (fun _ => false) moment s).poller = some ⟨due, none⟩) : moment < due := by
  fun_induction passUntil (fun _ => false) moment s with
  | case1 s hstop => cases hstop
  | case2 s hstop next hnext hlater ih =>
    have hsettles := arrive_settles hs next
    exact ih hsettles.ordered hsettles.prompt poller
  | case3 s hstop next hnext hnot =>
    -- the next moment is still to come, so it is after the moment
    have hdue := nextMoment_le_due hnext poller
    have hcoming := hprompt.lt_nextMoment hnext
    omega
  | case4 s hstop hnext =>
    unfold nextMoment? at hnext
    rw [List.min?_eq_none_iff] at hnext
    simp [poller] at hnext

theorem advance_beats (hs : s.Ordered) (hprompt : s.Prompt) (ms : Nat) :
    Beats s (Chronicle.advance s ms) (s.advance ms) := by
  have hpassed := passUntil_beats (fun _ => false) (s.now + ms) s hs
  have hpasses : Passes .foreground s (passUntil (fun _ => false) (s.now + ms) s) :=
    passUntil_passes hs _ _
  have hnow := now_passUntil_le (s := s) (fun _ => false) (Nat.le_add_right s.now ms)
  refine hpassed.trans (arrive_beats hpasses.ordered hnow fun due poller => ?_)
  exact Nat.le_of_lt (lt_due_of_passUntil _ s hs hprompt poller)

theorem await_beats (hs : s.Ordered) (name : TaskName) :
    Beats s (Chronicle.await s name) (s.await name) := by
  rcases htask : s.task? name with _ | ⟨name', w | o⟩
  · simp only [Chronicle.await, Session.await, htask]
    exact .refl
  · simp only [Chronicle.await, Session.await, htask]
    exact passUntil_beats _ _ s hs
  · simp only [Chronicle.await, Session.await, htask]
    exact .refl

theorem complete_beats {begun : Session × (Outcome ⊕ Work)} (hs : s.Ordered)
    (h : s.Begins none Work.wait begun) (added : Beats s entries (addTask .foreground begun)) :
    Beats s (entries ++ Chronicle.complete begun) (complete begun).1 := by
  have hawaited := await_beats (addTask_ordered hs .foreground h) .foreground
  set t := (addTask .foreground begun).await .foreground
  have hkeeps : t.Keeps { t with tasks := t.tasks.filter (·.name ≠ .foreground) } := ⟨rfl, rfl, rfl⟩
  have hdropped := Beat.aside (s := t) hkeeps rfl (fun p hp => ?_) (.of_trace_eq rfl)
  · have hdone := (added.trans hawaited).tail hdropped
    rwa [List.append_nil] at hdone
  · rcases mem_polls.1 hp with ⟨task, htask, hpoll⟩ | hpoll
    · exact mem_polls.2 (.inl ⟨task, (List.mem_filter.1 htask).1, hpoll⟩)
    · exact mem_polls.2 (.inr hpoll)

/-- A task has begun, and may be a poll that waits. -/
theorem mem_polls_addTask {begun : Session × (Outcome ⊕ Work)} {name : TaskName} {p : SuspendedPoll}
    (h : s.Begins none Work.wait begun) (hp : p ∈ (addTask name begun).polls) :
    p ∈ s.polls ∨ begun.2 = .inr (.poll p) := by
  rcases mem_polls.1 hp with ⟨task, htask, hpoll⟩ | hpoll
  · rcases List.mem_cons.1 htask with rfl | htask
    · exact .inr (ofResult_eq_poll_iff.1 (poll?_eq_some_iff.1 hpoll))
    · exact .inl (mem_polls.2 (.inl ⟨task, h.1.tasks ▸ htask, hpoll⟩))
  · exact .inl (mem_polls.2 (.inr (h.1.poller ▸ hpoll)))

/-- A task has begun that is no poll. -/
theorem addTask_beats {begun : Session × (Outcome ⊕ Work)} (name : TaskName)
    (h : s.Begins none Work.wait begun) (other : ∀ p, begun.2 ≠ .inr (.poll p))
    (trace : s.Refrains begun.1) : Beats s [] (addTask name begun) := by
  have hkeeps : s.Keeps (addTask name begun) := ⟨h.1.settings, h.1.reRequests, h.1.now⟩
  have hpolls (p : SuspendedPoll) (hp : p ∈ (addTask name begun).polls) : p ∈ s.polls :=
    (mem_polls_addTask h hp).resolve_right (other p)
  exact (Beat.aside hkeeps h.1.poller hpolls trace).beats

theorem beginPoll_beats (s : Session) (name : TaskName) :
    Beats s [.stretch ⟨false, none, s⟩] (addTask name s.beginPoll) := by
  have h := beginPoll_begins s
  have hkeeps : s.Keeps (addTask name s.beginPoll) := ⟨h.1.settings, h.1.reRequests, h.1.now⟩
  refine (Beat.task none nofun hkeeps h.1.poller (fun p hp => ?_) (beginPoll_trace s)).beats
  exact (mem_polls_addTask h hp).imp_right beginPoll_result

theorem query_ne_poll (s : Session) (x : String) (p : SuspendedPoll) :
    (s.query x).2 ≠ .inr (.poll p) := by
  unfold query
  split
  · exact nofun
  · split <;> exact nofun

theorem queryMask_ne_poll (s : Session) (x : String) (p : SuspendedPoll) :
    (s.queryMask x).2 ≠ .inr (.poll p) := by
  unfold queryMask
  split <;> exact nofun

theorem publish_ne_poll (s : Session) (status : Status) (message : String) (p : SuspendedPoll) :
    (s.publish status message).2 ≠ .inr (.poll p) := by
  unfold publish
  split
  · exact nofun
  · split
    · exact nofun
    · exact nofun
    · split
      · exact nofun
      · split <;> exact nofun

theorem deliver_beats (s : Session) (response : Response) :
    Beats s (Chronicle.deliver s response) (s.deliver response).1 := by
  have hcleared : Beats s [] { s with server := { s.server with unanswered := [] } } :=
    beats_of_clockwork rfl (.of_trace_eq rfl)
  have hsignalled (qs : List Nat) : ∀ t : Session,
      Beats t [] (qs.foldl (fun t q => t.signal q (.response response)) t) := by
    induction qs with
    | nil =>
      intro t
      exact .refl
    | cons q qs ih =>
      intro t
      exact (signal_beats t q _).trans (ih _)
  have hwoken (t : Session) : Beats t
      (Chronicle.along wakeWaiter Chronicle.wakeWaiter t s.server.unanswered)
      (s.server.unanswered.foldl wakeWaiter t) :=
    Beats.along (P := fun _ => True) (fun t q _ => ⟨wakeWaiter_beats t q, trivial⟩) _ t trivial
  exact (hcleared.trans (hsignalled s.server.unanswered _)).trans (hwoken _)

theorem register_beat (s : Session) : Beat s [.login s.now] s.register := by
  have htrace := register_refrains s
  let attached : Session := { s with server := { s.server with attached := true } }
  by_cases hpolling : (s.settings.mode.hasExtendedAuthorization && s.reRequests) = true
  · have hregister : s.register = attached.loadList.startPolling := if_pos hpolling
    rw [hregister] at htrace ⊢
    refine .login ⟨rfl, rfl, rfl⟩ ?_ (fun p hp => ?_) htrace
    · rw [if_pos hpolling]
      rfl
    · have hold : p ∈ s.polls ∨ _ := mem_polls_of_tasks hp rfl
      refine hold.resolve_right fun hpoll => ?_
      unfold startPolling at hpoll
      dsimp only at hpoll
      split at hpoll <;> cases hpoll
  · have hregister : s.register = attached.loadList := if_neg hpolling
    rw [hregister] at htrace ⊢
    refine .login ⟨rfl, rfl, rfl⟩ ?_ (fun _ hp => hp) htrace
    rw [if_neg hpolling]
    rfl

theorem disconnect_beat (s : Session) : Beat s [.logout s.now] s.disconnect := by
  have hclockwork : s.disconnect.clockwork = s.stopPolling.clockwork := by
    rw [disconnect, clockwork_silenceContacts, clockwork_resetStatus]
  obtain ⟨-, htasks, hpoller, hnow, hsettings, hreRequests⟩ := Clockwork.mk.inj hclockwork
  refine .logout ⟨hsettings, hreRequests, hnow⟩ hpoller (fun p hp => ?_) (disconnect_refrains s)
  have hold : p ∈ s.polls ∨ _ := mem_polls_of_tasks hp htasks
  refine hold.resolve_right fun hpoll => ?_
  rw [hpoller] at hpoll
  cases hpoll

theorem registrationChanged_beats (s : Session) (new : Registration) :
    Beats s (Chronicle.registrationChanged s new) (s.registrationChanged new) := by
  by_cases hregistered : new = .registered
  · simp only [Chronicle.registrationChanged, Session.registrationChanged, if_pos hregistered]
    exact (register_beat s).beats
  · by_cases hdisconnect : new.isDisconnect = true
    · simp only [Chronicle.registrationChanged, Session.registrationChanged, if_neg hregistered,
        if_pos hdisconnect]
      exact (disconnect_beat s).beats
    · simp only [Chronicle.registrationChanged, Session.registrationChanged, if_neg hregistered,
        if_neg hdisconnect]
      exact .refl

theorem act_beats (hs : s.Ordered) (hprompt : s.Prompt) (step : Step) :
    Beats s (Chronicle.act s step) (s.act step).1 := by
  by_cases htimed : step.isTimed = false
  · have hentries : Chronicle.act s step = [] := by
      cases step <;> first | rfl | cases htimed
    rw [hentries]
    exact beats_of_clockwork (clockwork_act s htimed) (act_refrains s htimed)
  · cases step with
    | deliver response => exact deliver_beats s response
    | registrationChanged new => exact registrationChanged_beats s new
    | publish status message =>
      have hbegins := publish_begins s status message
      exact complete_beats hs hbegins
        (addTask_beats _ hbegins (publish_ne_poll s status message) (publish_refrains s status message))
    | query x =>
      have hbegins := query_begins s x
      exact complete_beats hs hbegins
        (addTask_beats _ hbegins (query_ne_poll s x) (query_refrains s x))
    | queryMask x =>
      have hbegins := queryMask_begins s x
      exact complete_beats hs hbegins
        (addTask_beats _ hbegins (queryMask_ne_poll s x) (queryMask_refrains s x))
    | poll => exact complete_beats hs (beginPoll_begins s) (beginPoll_beats s .foreground)
    | spawnPoll task => exact beginPoll_beats s (.background task)
    | spawnQuery task x =>
      exact addTask_beats _ (query_begins s x) (query_ne_poll s x) (query_refrains s x)
    | join task => exact await_beats hs _
    | advance ms => exact advance_beats hs hprompt ms
    | _ => exact absurd rfl htimed

theorem perform_beats (hs : s.Ordered) (hprompt : s.Prompt) (step : Step) :
    Beats s (Chronicle.perform s step) (s.perform step).1 :=
  (act_beats hs hprompt step).trans (settle_beats _)

theorem run_beats (hs : s.Ordered) (hprompt : s.Prompt) (steps : List Step) :
    Beats s (s.chronicle steps) (s.run steps) := by
  refine Beats.along (P := fun s => s.Ordered ∧ s.Prompt) ?_ steps s ⟨hs, hprompt⟩
  rintro s step ⟨hs, hprompt⟩
  have hsettles := perform_settles hs step
  exact ⟨perform_beats hs hprompt step, hsettles.ordered, hsettles.prompt⟩

end Beats

end Session

end Roster
