import Roster.Proofs.Chronicle
import Roster.Proofs.Line.Deeds
import Roster.Proofs.Supported

/-! What is confirmed, and who may touch it: our own presence, the list, who has been seen, and what the
listeners have been told. An errand publishes or asks; it sends and waits, and takes what it is answered,
and none of that confirms anything, on whatever line, at whatever moment and with whatever answer. Other
things happen while it waits, and of those that go on by themselves polls alone confirm something. -/

namespace Roster

/-- A listener is told something. -/
def Occurrence.isTold : Occurrence → Bool
  | .delivered .. => true
  | _ => false

/-- What an account shows. -/
structure Confirmed where
  own : OwnPresence
  list : ContactList
  seen : List String
  told : List Occurrence
  deriving DecidableEq

def Work.isPoll : Work → Bool
  | .poll _ => true
  | _ => false

/-- An operation that publishes or asks. -/
inductive Errand
  | publish (status : Status) (message : String)
  | setStatusMessage (message : String)
  | query (identifier : String)
  | queryMask (identifier : String)
  deriving DecidableEq, Repr

/-- The errand as a step, which waits for what it comes to. -/
def Errand.step : Errand → Step
  | publish status message => .publish status message
  | setStatusMessage message => .setStatusMessage message
  | query x => .query x
  | queryMask x => .queryMask x

/-- A step, a signal for one query, or an errand in the background. -/
inductive Event
  | move (line : Line) (step : Step)
  | signal (query : Nat) (signal : Signal)
  | errand (line : Line) (task : String) (errand : Errand)

/-- Publishes or asks, polls, or lets somebody go on that does, and that is all. -/
def Step.asks : Step → Bool
  | .publish .. | .setStatusMessage _ | .query _ | .queryMask _ | .spawnQuery .. | .poll | .spawnPoll _
  | .join _ | .deliver _ | .advance _ | .rest => true
  | _ => false

def Event.asks : Event → Bool
  | move _ step => step.asks
  | signal .. | errand .. => true

namespace Session

def confirmed (s : Session) : Confirmed :=
  ⟨s.own, s.list, s.seen, s.trace.filter Occurrence.isTold⟩

/-- Does an errand as far as it goes without waiting. -/
def start (line : Line) (s : Session) : Errand → Session × (Outcome ⊕ Work)
  | .publish status message => s.publishVia line status message
  | .setStatusMessage message =>
    let (t, outcome) := done (s.setStatusMessageVia line message)
    (t, .inl outcome)
  | .query x => s.query x
  | .queryMask x => s.queryMask x

/-- A session after an event, and everything that is due then. -/
def live (s : Session) : Event → Session
  | .move line step => (s.performVia line step).1
  | .signal q sig => ((s.signal q sig).wakeWaiter q).settle
  | .errand line task errand => (addTask (.background task) (s.start line errand)).settle

def liveAll (s : Session) (events : List Event) : Session := events.foldl live s

end Session

namespace Chronicle

def actVia (line : Line) (s : Session) : Step → List Entry
  | .publish status message => complete (s.publishVia line status message)
  | step => act s step

def live (s : Session) : Event → List Entry
  | .move line step => actVia line s step ++ settle (s.actVia line step).1
  | .signal q sig => wakeWaiter (s.signal q sig) q ++ settle ((s.signal q sig).wakeWaiter q)
  | .errand line task errand => settle (Session.addTask (.background task) (s.start line errand))

end Chronicle

namespace Session

section Errands

variable {s t : Session}

theorem confirmed_of_append {new : List Occurrence} (own : t.own = s.own) (list : t.list = s.list)
    (seen : t.seen = s.seen) (trace : t.trace = s.trace ++ new) (hnew : ∀ o ∈ new, o.isTold = false) :
    t.confirmed = s.confirmed := by
  have hnone : new.filter Occurrence.isTold = [] :=
    List.filter_eq_nil_iff.2 fun o ho => by simp [hnew o ho]
  rw [confirmed, confirmed, own, list, seen, trace, List.filter_append, hnone, List.append_nil]

theorem Alike.confirmed (h : s.Alike t) : t.confirmed = s.confirmed := by
  rw [Session.confirmed, Session.confirmed, h.own, h.list, h.seen, h.trace]

theorem Tells.confirmed (h : s.Tells t) : t.confirmed = s.confirmed := by
  obtain ⟨new, rfl, hnew⟩ := h
  refine confirmed_of_append rfl rfl rfl rfl fun o ho => ?_
  have hdealing := hnew o ho
  cases o with
  | delivered => cases hdealing
  | _ => rfl

theorem sendVia_confirmed {line : Line} {c : Command} (h : s.sendVia line c = .ok t) :
    t.confirmed = s.confirmed := by
  unfold sendVia at h
  split at h <;> cases h
  exact ((Tells.refl s).record (o := .commanded c) rfl).confirmed

theorem ask_confirmed (s : Session) (x : String) : (s.ask x).1.confirmed = s.confirmed := by
  have htrace : (s.sending x).trace = s.trace ++ [.requested (.userInfo x)] := rfl
  have hsent : (s.sending x).confirmed = s.confirmed :=
    confirmed_of_append rfl rfl rfl htrace (by simp [Occurrence.isTold])
  exact (ask_idle s x).toAlike.confirmed.trans hsent

theorem publishVia_confirmed (line : Line) (s : Session) (status : Status) (message : String) :
    (s.publishVia line status message).1.confirmed = s.confirmed := by
  unfold publishVia
  split
  · rfl
  · split
    · rfl
    · rfl
    · next commands _ =>
      have hsent := (sendAllVia_tells line s commands).confirmed
      split
      · next h => rwa [h] at hsent
      · next t h =>
        rw [h] at hsent
        have hask := (ask_confirmed t t.localIdentifier).trans hsent
        split <;> next ha => rwa [ha] at hask

theorem query_confirmed (s : Session) (x : String) : (s.query x).1.confirmed = s.confirmed := by
  have hask := ask_confirmed s x
  unfold query
  split
  · rfl
  · split <;> next h => rwa [h] at hask

theorem queryMask_confirmed (s : Session) (x : String) : (s.queryMask x).1.confirmed = s.confirmed := by
  have hask := ask_confirmed s x
  unfold queryMask
  split <;> next h => rwa [h] at hask

/-- Doing an errand confirms nothing. -/
theorem start_confirmed (line : Line) (s : Session) (errand : Errand) :
    (s.start line errand).1.confirmed = s.confirmed := by
  cases errand with
  | publish status message => exact publishVia_confirmed line s status message
  | setStatusMessage message =>
    have htells := setStatusMessageVia_tells line s message
    rw [start, done_fst]
    exact htells.confirmed
  | query x => exact query_confirmed s x
  | queryMask x => exact queryMask_confirmed s x

theorem start_begins (line : Line) (s : Session) (errand : Errand) :
    s.Begins none Work.wait (s.start line errand) := by
  cases errand with
  | publish status message => exact publishVia_begins line s status message
  | setStatusMessage message =>
    have hclockwork := (setStatusMessageVia_tells line s message).clockwork
    refine ⟨?_, nofun⟩
    rw [start, done_fst]
    exact .of_clockwork hclockwork
  | query x => exact query_begins s x
  | queryMask x => exact queryMask_begins s x

/-- An errand goes on and is over, and that confirms nothing. -/
theorem resume_confirmed {w : Work} (h : w.isPoll = false) (s : Session) :
    (s.resume w).1.confirmed = s.confirmed := by
  have hreceive := (receive_idle s w.wait.query).toAlike.confirmed
  cases w with
  | poll p => cases h
  | _ => exact hreceive

theorem signal_confirmed (s : Session) (q : Nat) (sig : Signal) :
    (s.signal q sig).confirmed = s.confirmed := (signal_idle s q sig).toAlike.confirmed

/-- Whoever waits for the query of an errand is that errand. -/
theorem wakeWaiter_of_errand (hs : s.Ordered) {name : TaskName} {w : Work}
    (waits : ⟨name, .working w⟩ ∈ s.tasks) (h : w.isPoll = false) :
    (s.wakeWaiter w.wait.query).confirmed = s.confirmed := by
  obtain ⟨before, after, tasks⟩ := List.append_of_mem waits
  -- no two wait for one query, so the first who waits for this one is the errand
  have hdistinct := hs.distinct
  rw [Session.waits, tasks, List.filterMap_append, filterMap_cons_eq] at hdistinct
  have hothers : ∀ t ∈ before, t.wait?.any (·.query = w.wait.query) = false := by
    intro t ht
    cases hwait : t.wait? with
    | none => rfl
    | some w' =>
      have hmem : w' ∈ before.filterMap Task.wait? := List.mem_filterMap.2 ⟨t, ht, hwait⟩
      simp only [Task.wait?, Option.toList_some, List.map_append, List.map_cons, List.append_assoc,
        List.nodup_append] at hdistinct
      simpa using hdistinct.2.2 _ (List.mem_map_of_mem hmem) _ (by simp)
  rw [wakeWaiter_of_task tasks hothers rfl]
  exact resume_confirmed h s

end Errands

theorem live_settles {s : Session} (hs : s.Ordered) (event : Event) :
    (s.live event).Ordered ∧ (s.live event).Prompt := by
  have hdone {t : Session} (ht : t.Ordered) : t.settle.Ordered ∧ t.settle.Prompt :=
    ⟨(settle_settles ht).ordered, (settle_settles ht).prompt⟩
  cases event with
  | move line step => exact hdone (actVia_ordered line hs step)
  | signal q sig => exact hdone ((wakeWaiter_woken (hs.signal q sig) q).ordered (hs.signal q sig))
  | errand line task errand => exact hdone (addTask_ordered hs _ (start_begins line s errand))

theorem liveAll_ordered {s : Session} (hs : s.Ordered) (events : List Event) :
    (s.liveAll events).Ordered := by
  induction events generalizing s with
  | nil => exact hs
  | cons event events ih => exact ih (live_settles hs event).1

/-- What is confirmed moves along the stretches of polls, and stays between them. -/
def Spans : Confirmed → List Entry → Confirmed → Prop
  | c, [], c' => c' = c
  | c, .stretch x :: entries, c' => x.before.confirmed = c ∧ Spans x.after.confirmed entries c'
  | c, .login _ :: entries, c' | c, .logout _ :: entries, c' => Spans c entries c'

section Spans

variable {s t u : Session} {entries more : List Entry}

theorem Spans.trans {c c' c'' : Confirmed} (h : Spans c entries c') (h' : Spans c' more c'') :
    Spans c (entries ++ more) c'' := by
  induction entries generalizing c with
  | nil =>
    obtain rfl : c' = c := h
    exact h'
  | cons entry entries ih =>
    cases entry with
    | stretch x => exact ⟨h.1, ih h.2⟩
    | login | logout => exact ih h

theorem spans_of_confirmed (h : t.confirmed = s.confirmed) : Spans s.confirmed [] t.confirmed := h

theorem Spans.along {α : Type} {f : Session → α → Session} {entries : Session → α → List Entry}
    (h : ∀ s a, Spans s.confirmed (entries s a) (f s a).confirmed) (s : Session) (as : List α) :
    Spans s.confirmed (Chronicle.along f entries s as) (as.foldl f s).confirmed := by
  induction as generalizing s with
  | nil => exact spans_of_confirmed rfl
  | cons a as ih => exact (h s a).trans (ih (f s a))

theorem resume_spans (s : Session) (w : Work) :
    Spans s.confirmed (Chronicle.resume s w) (s.resume w).1.confirmed := by
  cases w with
  | poll p =>
    refine ⟨rfl, ?_⟩
    simp only [Spans, resume, Work.wait, Stretch.after, Stretch.run]
    split <;> next h => rw [h]
  | _ => exact spans_of_confirmed (resume_confirmed rfl s)

theorem wakeWaiter_spans (s : Session) (q : Nat) :
    Spans s.confirmed (Chronicle.wakeWaiter s q) (s.wakeWaiter q).confirmed := by
  rcases exists_waiter s q with ⟨tasks, others, query⟩ | ⟨others, poller, query⟩ | nobody
  · rw [wakeWaiter_of_task tasks others query, wakeWaiter_entries_of_task tasks others query]
    exact resume_spans ..
  · rw [wakeWaiter_of_poller others poller query, wakeWaiter_entries_of_poller others poller query]
    subst query
    exact ⟨rfl, rfl⟩
  · rw [wakeWaiter_of_nobody nobody, wakeWaiter_entries_of_nobody nobody]
    rfl

theorem expire_spans (s : Session) (q : Nat) :
    Spans s.confirmed (Chronicle.expire s q) (s.expire q).confirmed :=
  (spans_of_confirmed (signal_confirmed s q .expiry)).trans (wakeWaiter_spans _ q)

theorem tick_spans (s : Session) : Spans s.confirmed (Chronicle.tick s) s.tick.confirmed := by
  rcases poller : s.poller with _ | ⟨due, _ | p⟩
  · simp only [Chronicle.tick, Session.tick, poller, Spans]
  · by_cases come : due ≤ s.now
    · simp only [Chronicle.tick, Session.tick, poller, if_pos come]
      exact ⟨rfl, rfl⟩
    · simp only [Chronicle.tick, Session.tick, poller, if_neg come, Spans]
  · simp only [Chronicle.tick, Session.tick, poller, Spans]

theorem settle_spans (s : Session) : Spans s.confirmed (Chronicle.settle s) s.settle.confirmed :=
  (Spans.along expire_spans s s.overdue).trans (tick_spans _)

theorem arrive_spans (s : Session) (moment : Nat) :
    Spans s.confirmed (Chronicle.arrive s moment) (s.arrive moment).confirmed :=
  settle_spans { s with now := moment }

theorem passUntil_spans (stop : Session → Bool) (moment : Nat) (s : Session) :
    Spans s.confirmed (Chronicle.passUntil stop moment s) (passUntil stop moment s).confirmed := by
  fun_induction passUntil stop moment s with
  | case1 s hstop =>
    rw [Chronicle.passUntil, if_pos hstop]
    rfl
  | case2 s hstop next hnext hlater ih =>
    rw [Chronicle.passUntil, if_neg hstop, hnext]
    simp only [hlater, and_self, if_true]
    exact (arrive_spans s next).trans ih
  | case3 s hstop next hnext hnot =>
    rw [Chronicle.passUntil, if_neg hstop, hnext]
    simp only [hnot, if_false, Spans]
  | case4 s hstop hnext =>
    rw [Chronicle.passUntil, if_neg hstop, hnext]
    rfl

theorem advance_spans (s : Session) (ms : Nat) :
    Spans s.confirmed (Chronicle.advance s ms) (s.advance ms).confirmed :=
  (passUntil_spans _ _ s).trans (arrive_spans _ _)

theorem await_spans (s : Session) (name : TaskName) :
    Spans s.confirmed (Chronicle.await s name) (s.await name).confirmed := by
  rcases htask : s.task? name with _ | ⟨name', w | o⟩
  · simp only [Chronicle.await, Session.await, htask, Spans]
  · simp only [Chronicle.await, Session.await, htask]
    exact passUntil_spans _ _ s
  · simp only [Chronicle.await, Session.await, htask, Spans]

theorem complete_spans (begun : Session × (Outcome ⊕ Work)) :
    Spans begun.1.confirmed (Chronicle.complete begun) (complete begun).1.confirmed :=
  await_spans (addTask .foreground begun) .foreground

theorem deliver_spans (s : Session) (response : Response) :
    Spans s.confirmed (Chronicle.deliver s response) (s.deliver response).1.confirmed := by
  have hsignalled (qs : List Nat) (t : Session) :
      (qs.foldl (fun t q => t.signal q (.response response)) t).confirmed = t.confirmed := by
    induction qs generalizing t with
    | nil => rfl
    | cons q qs ih => exact (ih _).trans (signal_confirmed t q _)
  have hanswered := hsignalled s.server.unanswered { s with server := { s.server with unanswered := [] } }
  exact (spans_of_confirmed hanswered).trans (Spans.along wakeWaiter_spans _ s.server.unanswered)

theorem beginPoll_spans (s : Session) :
    Spans s.confirmed [.stretch ⟨false, none, s⟩] s.beginPoll.1.confirmed := by
  refine ⟨rfl, ?_⟩
  simp only [Spans, beginPoll, Stretch.after, Stretch.run]
  split <;> next h => rw [h]

theorem actVia_spans (line : Line) (s : Session) {step : Step} (h : step.asks = true) :
    Spans s.confirmed (Chronicle.actVia line s step) (s.actVia line step).1.confirmed := by
  cases step with
  | publish status message =>
    exact (spans_of_confirmed (publishVia_confirmed line s status message)).trans (complete_spans _)
  | setStatusMessage message =>
    rw [actVia, done_fst]
    exact spans_of_confirmed (setStatusMessageVia_tells line s message).confirmed
  | query x => exact (spans_of_confirmed (query_confirmed s x)).trans (complete_spans _)
  | queryMask x => exact (spans_of_confirmed (queryMask_confirmed s x)).trans (complete_spans _)
  | spawnQuery task x => exact spans_of_confirmed (query_confirmed s x)
  | poll => exact (beginPoll_spans s).trans (complete_spans _)
  | spawnPoll task => exact beginPoll_spans s
  | join task => exact await_spans s _
  | deliver response => exact deliver_spans s response
  | advance ms => exact advance_spans s ms
  | rest => exact spans_of_confirmed rfl
  | _ => cases h

theorem live_spans (s : Session) {event : Event} (h : event.asks = true) :
    Spans s.confirmed (Chronicle.live s event) (s.live event).confirmed := by
  cases event with
  | move line step => exact (actVia_spans line s h).trans (settle_spans _)
  | signal q sig =>
    have hwoken := (spans_of_confirmed (signal_confirmed s q sig)).trans (wakeWaiter_spans _ q)
    exact hwoken.trans (settle_spans _)
  | errand line task errand =>
    have hadded : (addTask (.background task) (s.start line errand)).confirmed = s.confirmed :=
      start_confirmed line s errand
    exact (spans_of_confirmed hadded).trans (settle_spans _)

theorem liveAll_spans (s : Session) (events : List Event) (h : ∀ event ∈ events, event.asks = true) :
    Spans s.confirmed (Chronicle.along live Chronicle.live s events) (s.liveAll events).confirmed := by
  induction events generalizing s with
  | nil => exact spans_of_confirmed rfl
  | cons event events ih =>
    obtain ⟨hnow, hlater⟩ := List.forall_mem_cons.1 h
    exact (live_spans s hnow).trans (ih (s.live event) hlater)

end Spans

/-- Nobody polls, and what is confirmed is so. -/
structure Hushed (c : Confirmed) (s : Session) : Prop where
  confirmed : s.confirmed = c
  polls : ∀ task ∈ s.tasks, ∀ w, task.state = .working w → w.isPoll = false
  poller : s.poller = none

section Hushed

variable {s : Session} {c : Confirmed}

theorem lasting_hushed (c : Confirmed) : Lasting (Hushed c) where
  signal {s} q h := ⟨(signal_confirmed s q .expiry).trans h.confirmed, h.polls, h.poller⟩
  time _ h := ⟨h.confirmed, h.polls, h.poller⟩
  tick {s} h := by
    rw [tick, h.poller]
    exact h
  wakeWaiter {s} q h := by
    rcases exists_waiter s q with ⟨tasks, others, query⟩ | ⟨others, poller, query⟩ | nobody
    · next before after name w =>
      have hpoll : w.isPoll = false := h.polls ⟨name, .working w⟩ (by simp [tasks]) w rfl
      -- an errand that goes on is over: it leaves a task that waits for nothing
      obtain ⟨o, hdone⟩ : ∃ o, (s.resume w).2 = .inl o := by
        cases w with
        | poll => cases hpoll
        | _ => exact ⟨_, rfl⟩
      rw [wakeWaiter_of_task tasks others query, hdone]
      refine ⟨(resume_confirmed hpoll s).trans h.confirmed, fun task htask w' hw' => ?_,
        (resume_begins s w).1.poller.trans h.poller⟩
      rw [List.mem_append, List.mem_cons] at htask
      rcases htask with hbefore | rfl | hafter
      · exact h.polls task (by simp [tasks, hbefore]) w' hw'
      · cases hw'
      · exact h.polls task (by simp [tasks, hafter]) w' hw'
    · rw [h.poller] at poller
      cases poller
    · rwa [wakeWaiter_of_nobody nobody]

/-- Whoever waits for an errand waits while nobody polls. -/
theorem Hushed.complete {begun : Session × (Outcome ⊕ Work)} (h : Hushed c s)
    (confirmed : begun.1.confirmed = s.confirmed) (begins : s.Begins none Work.wait begun)
    (errand : ∀ w, begun.2 = .inr w → w.isPoll = false) : Hushed c (complete begun).1 := by
  have hadded : Hushed c (addTask .foreground begun) := by
    refine ⟨confirmed.trans h.confirmed, fun task htask w hw => ?_, begins.1.poller.trans h.poller⟩
    rcases List.mem_cons.1 htask with rfl | htask
    · refine errand w ?_
      cases hresult : begun.2 with
      | inl o => simp [hresult, TaskState.ofResult] at hw
      | inr w' => simpa [hresult, TaskState.ofResult] using hw
    · exact h.polls task (begins.1.tasks ▸ htask) w hw
  have hawaited := (lasting_hushed c).await .foreground hadded
  exact ⟨hawaited.confirmed, fun task htask => hawaited.polls task (List.mem_filter.1 htask).1,
    hawaited.poller⟩

theorem start_isPoll (line : Line) (s : Session) (errand : Errand) (w : Work)
    (h : (s.start line errand).2 = .inr w) : w.isPoll = false := by
  cases errand with
  | publish status message =>
    simp only [start, publishVia] at h
    split at h
    · cases h
    · split at h
      · cases h
      · cases h
      · split at h
        · cases h
        · split at h <;> cases h
          rfl
  | setStatusMessage message => cases h
  | query x =>
    simp only [start, query] at h
    split at h
    · cases h
    · split at h <;> cases h
      rfl
  | queryMask x =>
    simp only [start, queryMask] at h
    split at h <;> cases h
    rfl

theorem performVia_hushed (line : Line) (h : Hushed c s) (errand : Errand) :
    Hushed c (s.performVia line errand.step).1 := by
  refine (lasting_hushed c).settle ?_
  have hcompleted := h.complete (start_confirmed line s errand) (start_begins line s errand)
    (start_isPoll line s errand)
  cases errand with
  | setStatusMessage message =>
    have htells := setStatusMessageVia_tells line s message
    change Hushed c (done (s.setStatusMessageVia line message)).1
    rw [done_fst]
    obtain ⟨-, htasks, hpoller, -, -, -⟩ := Clockwork.mk.inj htells.clockwork
    exact ⟨htells.confirmed.trans h.confirmed, htasks ▸ h.polls, hpoller.trans h.poller⟩
  | _ => exact hcompleted

end Hushed

/-- An event says something about our status: it takes in a report about ourselves, or ends a login. -/
def reportsUs (s : Session) : Event → Bool
  | .move _ step => (s.ownReport? step).isSome || step.disconnects
  | _ => false

section Status

variable {s : Session} (line : Line)

theorem Tells.status {t : Session} (h : s.Tells t) : t.status = s.status := by
  obtain ⟨new, rfl, -⟩ := h
  rfl

theorem status_complete (begun : Session × (Outcome ⊕ Work)) :
    (complete begun).1.status = begun.1.status := (complete_mute (.refl begun.1)).status

theorem status_of_confirmed {s t : Session} (h : t.confirmed = s.confirmed) : t.status = s.status := by
  rw [status, status, show t.own = s.own from congrArg Confirmed.own h]

theorem status_handleVia {e : ServerEvent} (h : ∀ info, e ≠ .ownInfo info) :
    (s.handleVia line e).status = s.status := by
  cases e with
  | authorizationRequestReceived x reason =>
    have htells := authorizationRequestedVia_tells line s x
    exact htells.status.trans (greeting_quiet s x).mute.status
  | _ =>
    rw [handleVia_of_report line rfl]
    exact status_handle h

theorem status_authorizationRequiredVia (x : String) (parent : Option String) :
    (s.authorizationRequiredVia line x parent).1.status = s.status := by
  have htells := authorizationRequiredVia_tells line s x parent
  exact htells.status.trans (hosting_quiet s x parent).mute.status

theorem status_actVia {step : Step} (h : s.ownReport? step = none) (stays : step.disconnects = false) :
    (s.actVia line step).1.status = s.status := by
  cases step with
  | ownInfo info => cases h
  | ownMessage message => exact status_ownMessage s message
  | handle e =>
    refine status_handleVia line fun info he => ?_
    rw [he] at h
    cases h
  | emit e =>
    simp only [actVia]
    split
    · next hattached =>
      refine status_handleVia line fun info he => ?_
      simp [ownReport?, he, hattached] at h
    · rfl
  | registrationChanged new =>
    simp only [actVia, act, registrationChanged]
    split
    · exact (register_mute s).status
    · split
      · next hdisconnect => cases stays.symm.trans hdisconnect
      · rfl
  | requireAuthorization x parent =>
    simp only [actVia]
    split
    · exact status_authorizationRequiredVia line x parent
    · rfl
  | authorizationRequired x parent => exact status_authorizationRequiredVia line x parent
  | publish status message =>
    exact (status_complete _).trans (status_of_confirmed (publishVia_confirmed line s status message))
  | setStatusMessage message =>
    rw [actVia, done_fst]
    exact (setStatusMessageVia_tells line s message).status
  | _ => exact (act_mute s rfl).status

theorem status_live {event : Event} (h : s.reportsUs event = false) :
    (s.live event).status = s.status := by
  cases event with
  | move line step =>
    rw [reportsUs, Bool.or_eq_false_iff, Option.isSome_eq_false_iff, Option.isNone_iff_eq_none] at h
    exact (settle_mute _).status.trans (status_actVia line h.1 h.2)
  | signal q sig =>
    have hwoken := (lasting_mute (s.signal q sig)).wakeWaiter q (.refl _)
    exact ((settle_mute _).status.trans hwoken.status).trans (status_of_confirmed (signal_confirmed s q sig))
  | errand line task errand =>
    have hadded : (addTask (.background task) (s.start line errand)).status = s.status :=
      status_of_confirmed (start_confirmed line s errand)
    exact (settle_mute _).status.trans hadded

/-- Until something is said about our status, it is what it was. -/
theorem status_liveAll {events : List Event}
    (h : ∀ before event, before ++ [event] <+: events → (s.liveAll before).reportsUs event = false) :
    (s.liveAll events).status = s.status := by
  induction events generalizing s with
  | nil => rfl
  | cons event events ih =>
    have hnow : s.reportsUs event = false := h [] event (by simp)
    have hlater := ih fun before event' hb => h (event :: before) event' (by simpa using hb)
    exact hlater.trans (status_live hnow)

end Status

/-- In whatever has become of an account: a command that is sent, a query and an errand that is begun
confirm nothing, on whatever line; nor does an errand that goes on, with whatever answer or with none. What
happens of itself meanwhile confirms something along polls alone, and nothing where nobody polls; and our
status stays until something is said about it. -/
theorem errands_confirm_nothing {a : Assembly} {s₀ : Session} (built : a.build = .ok s₀)
    (past : List Event) :
    let s := s₀.liveAll past
    (∀ line c t, s.sendVia line c = .ok t → t.confirmed = s.confirmed) ∧
    (∀ x, (s.ask x).1.confirmed = s.confirmed) ∧
    (∀ line errand, (s.start line errand).1.confirmed = s.confirmed) ∧
    (∀ name w, ⟨name, .working w⟩ ∈ s.tasks → w.isPoll = false → ∀ sig,
      ((s.signal w.wait.query sig).wakeWaiter w.wait.query).confirmed = s.confirmed) ∧
    (∀ events, (∀ event ∈ events, event.asks = true) →
      Spans s.confirmed (Chronicle.along live Chronicle.live s events) (s.liveAll events).confirmed) ∧
    (s.polls = [] → s.poller = none → ∀ line errand,
      (s.performVia line (Errand.step errand)).1.confirmed = s.confirmed) ∧
    ∀ events,
      (∀ before event, before ++ [event] <+: events → (s.liveAll before).reportsUs event = false) →
      (s.liveAll events).status = s.status := by
  intro s
  have hordered : s.Ordered := liveAll_ordered (Assembly.calm_of_build built).ordered past
  refine ⟨fun line c t h => sendVia_confirmed h, fun x => ask_confirmed s x,
    fun line errand => start_confirmed line s errand, fun name w hw hpoll sig => ?_,
    fun events h => liveAll_spans s events h, fun hpolls hpoller line errand => ?_,
    fun events h => status_liveAll h⟩
  · have hwaits : ⟨name, .working w⟩ ∈ (s.signal w.wait.query sig).tasks := hw
    have hwoken := wakeWaiter_of_errand (hordered.signal w.wait.query sig) hwaits hpoll
    exact hwoken.trans (signal_confirmed s w.wait.query sig)
  · have hushed : Hushed s.confirmed s := by
      refine ⟨rfl, fun task htask w hw => ?_, hpoller⟩
      cases w with
      | poll p =>
        have hmem : p ∈ s.polls := mem_polls.2 (.inl ⟨task, htask, poll?_eq_some_iff.2 hw⟩)
        rw [hpolls] at hmem
        cases hmem
      | _ => rfl
    exact (performVia_hushed line hushed errand).confirmed

/-- We publish that we are away, and ask for somebody else meanwhile; the server answers that we are away,
and we stay online until it reports so. -/
theorem self_query_answered_away :
    let a : Assembly :=
      { connection := some ⟨"12345", true⟩, list := some (.ofRoot "root"), hasPolicy := true,
        reRequests := true }
    let s₀ : Session := { settings := {}, localIdentifier := "12345", list := .ofRoot "root" }
    let past : List Event :=
      [.move .plain (.ownInfo (.plain "12345" .online)), .move .plain (.setAnswer none .silence),
        .errand .plain "away" (.publish .away "lunch"), .move .plain (.spawnQuery "other" "555")]
    let s := s₀.liveAll past
    let w : Work := .publish ⟨0, 10000⟩
    let answer : Signal := .response (.userInfo (.plain "12345" (.ofFlag .away)))
    let events : List Event := [.signal w.wait.query answer, .move .plain (.advance 20000)]
    a.build = .ok s₀ ∧ ⟨.background "away", .working w⟩ ∈ s.tasks ∧ w.isPoll = false ∧
      ((s.signal w.wait.query answer).wakeWaiter w.wait.query).confirmed = s.confirmed ∧
      (∀ event ∈ events, event.asks = true) ∧
      Spans s.confirmed (Chronicle.along live Chronicle.live s events) (s.liveAll events).confirmed ∧
      s.polls = [] ∧ s.poller = none ∧
      (s.performVia .plain (Errand.query "777").step).1.confirmed = s.confirmed ∧
      s.status = .online ∧ (s.liveAll events).status = .online := by
  intro a s₀ past s w answer events
  have built : a.build = .ok s₀ := rfl
  obtain ⟨-, -, -, hresumed, hspans, hhushed, hstatus⟩ := errands_confirm_nothing built past
  have hmem : ⟨.background "away", .working w⟩ ∈ s.tasks := by decide +kernel
  have hasks : ∀ event ∈ events, event.asks = true := by simp [events, Event.asks, Step.asks]
  have hpolls : s.polls = [] := by decide +kernel
  have hpoller : s.poller = none := by decide +kernel
  have honline : s.status = .online := by decide +kernel
  have hsilent : ∀ before event, before ++ [event] <+: events →
      (s.liveAll before).reportsUs event = false := by
    intro before event hb
    rcases List.mem_cons.1 (hb.subset (List.mem_append_right _ List.mem_cons_self)) with rfl | hmem
    · rfl
    · rw [List.mem_singleton.1 hmem]
      rfl
  exact ⟨built, hmem, rfl, hresumed _ w hmem rfl answer, hasks, hspans events hasks, hpolls, hpoller,
    hhushed hpolls hpoller .plain (.query "777"), honline, (hstatus events hsilent).trans honline⟩

end Session

end Roster
