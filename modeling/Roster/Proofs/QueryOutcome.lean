import Roster.Proofs.Inquiry
import Roster.Proofs.Runs

/-! What a query comes to. The first signal that reaches a query before its deadline decides it, and where
none does, the deadline; whatever else happens meanwhile, and however many signals come later. -/

namespace Roster

/-- A step, or a signal for one query, whether or not anybody waits for it. -/
inductive Happening
  | step (step : Step)
  | signal (query : Nat) (signal : Signal)
  deriving DecidableEq, Repr

/-- The task that is started by what happens. -/
def Happening.starts? : Happening → Option TaskName
  | .step taken => taken.starts?
  | .signal .. => none

namespace Session

/-- A session after something has happened, and everything that is due then. -/
def undergo (s : Session) : Happening → Session
  | .step taken => (s.perform taken).1
  | .signal q sig => ((s.signal q sig).wakeWaiter q).settle

def undergoAll (s : Session) (happenings : List Happening) : Session := happenings.foldl undergo s

/-- Something has happened since the session was built. -/
def Arising (s : Session) : Prop :=
  ∃ (a : Assembly) (s₀ : Session) (happenings : List Happening),
    a.build = .ok s₀ ∧ s = s₀.undergoAll happenings

/-- The signal that reaches a query by what happens. -/
def signalTo? (s : Session) (q : Nat) : Happening → Option Signal
  | .signal q' sig => if q' = q then some sig else none
  | .step (.deliver r) => if q ∈ s.server.unanswered then some (.response r) else none
  | .step _ => none

/-- The first signal that reaches a query before its deadline. -/
def firstSignal? (s : Session) (w : Wait) : List Happening → Option Signal
  | [] => none
  | h :: hs => (if s.now < w.deadline then s.signalTo? w.query h else none).or
      ((s.undergo h).firstSignal? w hs)

theorem undergo_settles {s : Session} (hs : s.Ordered) (h : Happening) :
    (s.undergo h).Ordered ∧ (s.undergo h).Prompt := by
  cases h with
  | step taken =>
    have hsettles := perform_settles hs taken
    exact ⟨hsettles.ordered, hsettles.prompt⟩
  | signal q sig =>
    have hsettles := settle_settles ((wakeWaiter_woken (hs.signal q sig) q).ordered (hs.signal q sig))
    exact ⟨hsettles.ordered, hsettles.prompt⟩

theorem undergoAll_settles {s : Session} (hs : s.Ordered) (hprompt : s.Prompt)
    (happenings : List Happening) :
    (s.undergoAll happenings).Ordered ∧ (s.undergoAll happenings).Prompt := by
  induction happenings generalizing s with
  | nil => exact ⟨hs, hprompt⟩
  | cons h rest ih =>
    obtain ⟨hs', hprompt'⟩ := undergo_settles hs h
    exact ih hs' hprompt'

theorem Arising.settles {s : Session} (h : s.Arising) : s.Ordered ∧ s.Prompt := by
  obtain ⟨a, s₀, happenings, built, rfl⟩ := h
  obtain ⟨-, -, -, htasks, hpoller⟩ := Assembly.fresh_of_build built
  have hwaits : s₀.waits = [] := by rw [waits, htasks, hpoller]; rfl
  refine undergoAll_settles ⟨fun w hw => ?_, ?_, fun hp => ?_⟩ ⟨fun w hw => ?_, fun due hdue => ?_⟩ _
  · rw [hwaits] at hw
    cases hw
  · rw [hwaits]
    exact List.nodup_nil
  · rw [hpoller] at hp
    cases hp
  · rw [hwaits] at hw
    cases hw
  · rw [hpoller] at hdue
    cases hdue

theorem run_eq_undergoAll (s : Session) (steps : List Step) :
    s.run steps = s.undergoAll (steps.map .step) := by
  induction steps generalizing s with
  | nil => rfl
  | cons step steps ih => exact ih (s.perform step).1

theorem Reachable.settles {s : Session} (h : s.Reachable) : s.Ordered ∧ s.Prompt := by
  obtain ⟨a, s₀, steps, built, rfl⟩ := h
  exact Arising.settles ⟨a, s₀, steps.map .step, built, run_eq_undergoAll s₀ steps⟩

/-- A task that asked is where the first signal for its query and the time have brought it. -/
def Stands (i : Inquiry) (name : TaskName) (w : Wait) (first? : Option Signal) (s : Session) : Prop :=
  if first?.isSome ∨ w.deadline ≤ s.now then
    Decided name w.query (i.outcome (Signal.verdict first?)) s
  else Awaiting i name w {} s

section Stands

variable {i : Inquiry} {name : TaskName} {w : Wait} {first? : Option Signal} {s t : Session}

theorem Stands.decided (h : Stands i name w first? s) (done : first?.isSome ∨ w.deadline ≤ s.now) :
    Decided name w.query (i.outcome (Signal.verdict first?)) s := by
  rwa [Stands, if_pos done] at h

theorem Stands.awaiting (h : Stands i name w first? s) (pending : ¬(first?.isSome ∨ w.deadline ≤ s.now)) :
    Awaiting i name w {} s := by
  rwa [Stands, if_neg pending] at h

theorem Stands.of_spares (h : Stands i name w first? s) (now : t.now = s.now)
    (ht : Spares name w.query s t) : Stands i name w first? t := by
  unfold Stands at h ⊢
  rw [now]
  split at h
  · rw [if_pos ‹_›]
    exact h.of_spares ht
  · rw [if_neg ‹_›]
    exact h.of_spares ht

theorem Stands.lt (h : Stands i name w first? s) : w.query < s.queries.length := by
  by_cases hover : first?.isSome ∨ w.deadline ≤ s.now
  · exact (h.decided hover).closed.lt
  · exact (h.awaiting hover).lt

theorem Stands.arrive (hs : s.Ordered) (h : Stands i name w first? s) {moment : Nat}
    (later : s.now ≤ moment) : Stands i name w first? (s.arrive moment) := by
  have hsettles := arrive_settles hs moment
  have hnow : (s.arrive moment).now = moment := hsettles.now
  have hat := at_spares name w.query s moment
  unfold Stands at h ⊢
  rw [hnow]
  split at h
  · next hover =>
    rw [if_pos (hover.imp_right fun hdue => Nat.le_trans hdue later)]
    have hthen := h.of_spares hat
    exact hthen.of_spares
      (hsettles.spares name w.query hthen.closed.lt hthen.closed.not_mem_overdue)
  · next hwaiting =>
    obtain ⟨hnone, -⟩ := not_or.1 hwaiting
    have hthen := h.of_spares hat
    split
    · next hover =>
      have hdue := hover.resolve_left hnone
      rw [Option.not_isSome_iff_eq_none.1 hnone, arrive_eq hs]
      exact hthen.settle_of_due (hs.at moment) hdue
    · next hover =>
      refine hthen.of_spares (hsettles.spares name w.query hthen.lt fun hq => ?_)
      obtain ⟨w', hw', hdue, hquery⟩ := mem_overdue.1 hq
      have hsame := (hs.at moment).unique hw' hthen.mem_waits hquery
      exact hover (.inr (hsame ▸ hdue))

theorem Stands.passes (h : Stands i name w first? s) (ht : Passes name s t) :
    Stands i name w first? t := by
  induction ht with
  | aside ht => exact h.of_spares ht.now (ht.spares w.query h.lt)
  | arrive hs later => exact h.arrive hs later
  | trans _ _ ih₁ ih₂ => exact ih₂ (ih₁ h)

theorem Stands.settle (hs : s.Ordered) (h : Stands i name w first? s) :
    Stands i name w first? s.settle :=
  arrive_now hs ▸ h.arrive hs (Nat.le_refl _)

/-- A signal decides a query that waits for one, and no other. -/
theorem Stands.reached (h : Stands i name w first? s) (now : t.now = s.now) (sig? : Option Signal)
    (closed : Over w.query s → Spares name w.query s t)
    (waiting : Awaiting i name w {} s → match sig? with
      | some sig => Decided name w.query (i.outcome sig.mask) t
      | none => Awaiting i name w {} t) :
    Stands i name w (first?.or (if s.now < w.deadline then sig? else none)) t := by
  by_cases hover : first?.isSome ∨ w.deadline ≤ s.now
  · have hsame : first?.or (if s.now < w.deadline then sig? else none) = first? := by
      rcases hover with hsome | hdue
      · exact Option.or_of_isSome hsome
      · rw [if_neg (Nat.not_lt.2 hdue), Option.or_none]
    rw [hsame]
    exact h.of_spares now (closed (h.decided hover).closed)
  · have hwaits := h.awaiting hover
    obtain ⟨hnone, hearly⟩ := not_or.1 hover
    rw [Option.not_isSome_iff_eq_none.1 hnone, Option.none_or, if_pos (Nat.not_le.1 hearly), Stands, now]
    cases sig? with
    | some sig =>
      rw [if_pos (.inl rfl), Signal.verdict_some]
      exact waiting hwaits
    | none =>
      rw [if_neg (not_or.2 ⟨nofun, hearly⟩)]
      exact waiting hwaits

theorem Over.deliver_spares {q : Nat} (name : TaskName) (h : Over q s) (hs : s.Ordered)
    (r : Response) : Spares name q s (s.deliver r).1 := by
  have hsignal := separate_signal (.response r)
  have hemptied := hs.withServer { s.server with unanswered := [] }
  have hfirst := withServer_spares name q s { s.server with unanswered := [] }
  have hsignalled := hfirst.trans ((h.of_spares hfirst).foldl_spares hemptied hsignal name
    (fun h => h.signal (.response r)) s.server.unanswered)
  exact hsignalled.trans ((h.of_spares hsignalled).foldl_spares
    (hsignal.foldl hemptied s.server.unanswered).1 separate_wakeWaiter name Over.wakeWaiter _)

theorem Stands.undergo (hs : s.Ordered) (h : Stands i name w first? s) (hname : name ≠ .foreground)
    {happening : Happening} (hstarts : happening.starts? ≠ some name) :
    Stands i name w (first?.or (if s.now < w.deadline then s.signalTo? w.query happening else none))
      (s.undergo happening) := by
  cases happening with
  | step taken =>
    refine Stands.settle (act_ordered hs taken) ?_
    -- of the steps only a delivery brings signals
    rcases taken.eq_deliver_or with ⟨r, rfl⟩ | hdelivery
    · refine h.reached (deliver_ordered hs r).2 _ (fun hover => hover.deliver_spares name hs r)
        fun hwaits => ?_
      have hdelivered := hwaits.deliver hs r
      rw [signalTo?]
      split at hdelivered
      · next hmem =>
        rw [if_pos hmem]
        exact hdelivered
      · next hmem =>
        rw [if_neg hmem]
        exact hdelivered
    · have hnone : s.signalTo? w.query (.step taken) = none := by
        cases taken <;> first | rfl | cases hdelivery
      rw [hnone, ite_self, Option.or_none]
      exact h.passes (act_passes name hs hname hdelivery hstarts)
  | signal q sig =>
    have hsignalled := hs.signal q sig
    have hwoken := wakeWaiter_woken hsignalled q
    refine Stands.settle (hwoken.ordered hsignalled) ?_
    refine h.reached hwoken.now _
      (fun hover => signal_wakeWaiter_spares name hs hover.lt (fun _ => hover) sig) fun hwaits => ?_
    rw [signalTo?]
    by_cases hq : w.query = q
    · rw [if_pos hq.symm, ← hq]
      exact (hwaits.signal sig).wakeWaiter (hs.signal w.query sig)
    · rw [if_neg (Ne.symm hq)]
      exact hwaits.of_spares (signal_wakeWaiter_spares name hs hwaits.lt (fun h => absurd h hq) sig)

theorem Stands.undergoAll (hs : s.Ordered) (h : Stands i name w first? s) (hname : name ≠ .foreground)
    {happenings : List Happening} (hstarts : ∀ h ∈ happenings, h.starts? ≠ some name) :
    Stands i name w (first?.or (s.firstSignal? w happenings)) (s.undergoAll happenings) := by
  induction happenings generalizing s first? with
  | nil => exact (Option.or_none (o := first?)).symm ▸ h
  | cons happening rest ih =>
    -- what has come first so far is carried along
    obtain ⟨hnow, hlater⟩ := List.forall_mem_cons.1 hstarts
    rw [firstSignal?, ← Option.or_assoc]
    exact ih (undergo_settles hs happening).1 (h.undergo hs hname hnow) hlater

end Stands

/-- When a query is given up that is sent now. -/
def newWait (s : Session) : Wait := ⟨s.queries.length, s.now + s.settings.queryTimeoutMs⟩

theorem inquiry_eq {s : Session} {i : Inquiry}
    (registered : i = .status → s.server.registered = true) (x : String) :
    i.ask s x = ((s.ask x).1, (s.ask x).2.map i.outcome i.work) := by
  cases i with
  | status =>
    rw [Inquiry.ask, query, if_neg (by simp [registered rfl])]
    rcases s.ask x with ⟨t, mask | w⟩ <;> rfl
  | mask =>
    rw [Inquiry.ask, queryMask]
    rcases s.ask x with ⟨t, mask | w⟩ <;> rfl

theorem inquiry_begins (i : Inquiry) (s : Session) (x : String) :
    s.Begins none Work.wait (i.ask s x) := by
  cases i with
  | status => exact query_begins s x
  | mask => exact queryMask_begins s x

section Asking

variable {s : Session} {i : Inquiry}

theorem decided_of_ask (hs : s.Ordered) (registered : i = .status → s.server.registered = true)
    (name : TaskName) {x : String} {mask : Mask} (result : (s.ask x).2 = .inl mask)
    (queries : (s.ask x).1.queries = s.queries ++ [.spent]) :
    Decided name s.queries.length (i.outcome mask) (addTask name (i.ask s x)) := by
  have hwaits := waits_addTask name (inquiry_begins i s x)
  rw [inquiry_eq registered, result] at hwaits ⊢
  refine ⟨?_, ⟨?_, fun w hw => ?_⟩⟩
  · simp [task?, addTask, TaskState.ofResult]
  · simp [addTask, queries]
  · rw [hwaits] at hw
    exact Nat.ne_of_lt (hs.numbered w hw)

theorem ask_stands (hs : s.Ordered) (registered : i = .status → s.server.registered = true)
    (name : TaskName) (x : String) :
    Stands i name s.newWait (Answer.signal? (s.server.answerTo x)) (addTask name (i.ask s x)) := by
  have hnow : (addTask name (i.ask s x)).now = s.now := (inquiry_begins i s x).1.now
  rw [Stands, hnow]
  cases h : Answer.signal? (s.server.answerTo x) with
  | some sig =>
    obtain ⟨-, hresult, hqueries⟩ := ask_of_signal h
    rw [if_pos (.inl rfl), Signal.verdict_some]
    exact decided_of_ask hs registered name hresult hqueries
  | none =>
    by_cases htime : s.settings.queryTimeoutMs = 0
    · obtain ⟨-, hresult, hqueries⟩ := ask_of_no_time h htime
      rw [if_pos (.inr (by simp [newWait, htime]))]
      exact decided_of_ask hs registered name hresult hqueries
    · obtain ⟨-, hresult, hqueries⟩ := ask_of_silence h htime
      rw [if_neg (by simp [newWait]; omega), inquiry_eq registered, hresult]
      constructor
      · simp [task?, addTask, TaskState.ofResult, newWait]
      · simp [addTask, hqueries, newWait]

end Asking

theorem Stands.outcome? {i : Inquiry} {name : TaskName} {w : Wait} {first? : Option Signal}
    {s : Session} (h : Stands i name w first? s) : s.outcome? name =
      if first?.isSome ∨ w.deadline ≤ s.now then some (i.outcome (Signal.verdict first?)) else none := by
  split
  · next hover =>
    rw [Session.outcome?, (h.decided hover).task]
    rfl
  · next hover =>
    rw [Session.outcome?, (h.awaiting hover).task]
    rfl

/-- Whoever waits for the task waits until the query is decided, and no longer than to its deadline. -/
theorem Stands.await {i : Inquiry} {name : TaskName} {w : Wait} {first? : Option Signal}
    {s : Session} (hs : s.Ordered) (hprompt : s.Prompt) (h : Stands i name w first? s)
    (early : s.now ≤ w.deadline) :
    Stands i name w first? (s.await name) ∧ (s.await name).now ≤ w.deadline ∧
      (first?.isSome ∨ w.deadline ≤ (s.await name).now) := by
  by_cases hover : first?.isSome ∨ w.deadline ≤ s.now
  · have hawait : s.await name = s := by rw [Session.await, (h.decided hover).task]
    rw [hawait]
    exact ⟨h, early, hover⟩
  · have hawait : s.await name =
        passUntil (fun s => (s.outcome? name).isSome) w.deadline s := by
      cases i <;> (rw [Session.await, (h.awaiting hover).task]; rfl)
    have hstands := h.passes (await_passes name hs name)
    rw [hawait] at hstands ⊢
    refine ⟨hstands, now_passUntil_le _ early, Classical.byContradiction fun hnot => ?_⟩
    rcases passUntil_ends hs hprompt (fun s => (s.outcome? name).isSome) w.deadline with hstop | hlate
    · rw [hstands.outcome?, if_neg hnot] at hstop
      cases hstop
    · exact Nat.lt_irrefl _ (hlate _ (hstands.awaiting hnot).mem_waits)

/-- Whoever asks and waits gets the answer when it is decided, by the deadline at the latest. -/
theorem complete_ask {s : Session} (hs : s.Ordered) (hprompt : s.Prompt) {i : Inquiry}
    (registered : i = .status → s.server.registered = true) (x : String) :
    (complete (i.ask s x)).2 = i.outcome (Signal.verdict (Answer.signal? (s.server.answerTo x))) ∧
      (complete (i.ask s x)).1.now ≤ s.newWait.deadline ∧
      (complete (i.ask s x)).1.Ordered ∧ Over s.newWait.query (complete (i.ask s x)).1 := by
  have hbegins := inquiry_begins i s x
  have hordered := addTask_ordered hs .foreground hbegins
  have hearly : (addTask .foreground (i.ask s x)).now ≤ s.newWait.deadline :=
    Nat.le_trans (Nat.le_of_eq hbegins.1.now) (Nat.le_add_right ..)
  obtain ⟨hstands, hnow, hover⟩ := (ask_stands hs registered .foreground x).await hordered
    (addTask_prompt hs hprompt .foreground hbegins) hearly
  have hwaited := (await_passes .foreground hordered .foreground).ordered
  have hdropped : Aside (.background "") _ _ := dropForeground_aside hwaited nofun
  have houtcome := hstands.outcome?
  rw [if_pos hover] at houtcome
  have hclosed := (hstands.decided hover).closed
  refine ⟨?_, hnow, hdropped.ordered, hclosed.of_spares (hdropped.spares _ hclosed.lt)⟩
  rw [complete, houtcome]
  rfl

/-- A task that asks stands, whatever happens while it waits, as the first signal leaves it. -/
theorem Arising.stands {s : Session} (hs : s.Arising) {i : Inquiry}
    (registered : i = .status → s.server.registered = true) (task x : String) {happenings : List Happening}
    (alone : ∀ h ∈ happenings, h.starts? ≠ some (.background task)) :
    let begun := (addTask (.background task) (i.ask s x)).settle
    Stands i (.background task) s.newWait
      ((Answer.signal? (s.server.answerTo x)).or (begun.firstSignal? s.newWait happenings))
      (begun.undergoAll happenings) := by
  obtain ⟨hordered, -⟩ := hs.settles
  have hadded := addTask_ordered hordered (.background task) (inquiry_begins i s x)
  exact ((ask_stands hordered registered (.background task) x).settle hadded).undergoAll
    (settle_settles hadded).ordered nofun alone

theorem Arising.outcome_perform {s : Session} (hs : s.Arising) {i : Inquiry}
    (registered : i = .status → s.server.registered = true) (x : String) :
    (s.perform (i.step x)).2 = i.outcome (Signal.verdict (Answer.signal? (s.server.answerTo x))) := by
  obtain ⟨hordered, hprompt⟩ := hs.settles
  have hact : s.act (i.step x) = complete (i.ask s x) := by cases i <;> rfl
  rw [perform, hact]
  exact (complete_ask hordered hprompt registered x).1

section Late

variable {q : Nat} {s : Session}

/-- What comes late changes nothing. -/
theorem Over.undergo_signal (h : Over q s) (hs : s.Prompt) (sig : Signal) :
    s.undergo (.signal q sig) = s := by
  rw [undergo, h.signal, h.wakeWaiter, hs.settle]

theorem Over.undergo (h : Over q s) (hs : s.Ordered) (happening : Happening) :
    Over q (s.undergo happening) := by
  have hsettle {s : Session} (hs : s.Ordered) (h : Over q s) : Over q s.settle :=
    h.of_spares ((settle_settles hs).spares .foreground q h.lt h.not_mem_overdue)
  cases happening with
  | step taken =>
    refine hsettle (act_ordered hs taken) ?_
    rcases taken.eq_deliver_or with ⟨r, rfl⟩ | hdelivery
    · exact h.of_spares (h.deliver_spares .foreground hs r)
    · obtain ⟨task, hstarts⟩ := taken.exists_not_started
      have hpasses := act_passes (.background task) hs nofun hdelivery hstarts
      exact h.of_spares (h.passes_spares hpasses)
  | signal q' sig =>
    have hsignalled := hs.signal q' sig
    refine hsettle ((wakeWaiter_woken hsignalled q').ordered hsignalled) ?_
    exact h.of_spares (signal_wakeWaiter_spares .foreground hs h.lt (fun _ => h) sig)

theorem Over.undergoAll (h : Over q s) (hs : s.Ordered) (happenings : List Happening) :
    Over q (s.undergoAll happenings) := by
  induction happenings generalizing s with
  | nil => exact h
  | cons happening rest ih => exact ih (h.undergo hs happening) (undergo_settles hs happening).1

/-- The server has a query off its mind. -/
def strike (s : Session) (q : Nat) : Session :=
  { s with server := { s.server with unanswered := s.server.unanswered.filter (· ≠ q) } }

/-- A query that is over has no part in a delivery. -/
theorem Over.deliver_strike (h : Over q s) (hs : s.Ordered) (r : Response) :
    ((s.strike q).deliver r).1 = (s.deliver r).1 := by
  have hsignal := separate_signal (.response r)
  have hemptied := hs.withServer { s.server with unanswered := [] }
  have hover := h.of_spares (withServer_spares .foreground q s { s.server with unanswered := [] })
  have hsignalled := hover.of_spares (hover.foldl_spares hemptied hsignal .foreground
    (fun h => h.signal (.response r)) s.server.unanswered)
  have hsignals := Over.foldl_filter_ne hsignal (fun h => h.signal (.response r))
    s.server.unanswered hemptied hover
  have hwakes := Over.foldl_filter_ne separate_wakeWaiter Over.wakeWaiter s.server.unanswered
    (hsignal.foldl hemptied s.server.unanswered).1 hsignalled
  exact (congrArg (List.foldl Session.wakeWaiter · (s.server.unanswered.filter (· ≠ q))) hsignals).trans
    hwakes

end Late

/-- What comes late for a query changes nothing, alone or in a delivery. -/
def Deaf (q : Nat) (s : Session) : Prop :=
  (∀ sig, s.undergo (.signal q sig) = s) ∧
    ∀ r, (s.strike q).undergo (.step (.deliver r)) = s.undergo (.step (.deliver r))

theorem Over.deaf {q : Nat} {s : Session} (h : Over q s) (hs : s.Ordered) (hprompt : s.Prompt)
    (happenings : List Happening) : Deaf q (s.undergoAll happenings) := by
  obtain ⟨hordered, hprompt'⟩ := undergoAll_settles hs hprompt happenings
  have hover := h.undergoAll hs happenings
  refine ⟨fun sig => hover.undergo_signal hprompt' sig, fun r => ?_⟩
  exact congrArg settle (hover.deliver_strike hordered r)

/-- The first signal that reaches a query before its deadline decides what the query comes to, and where
none does, the deadline: in a task, whatever else happens while it waits, and as an operation of its own,
which only the server's answer at once can end before the deadline. What comes later changes nothing. -/
theorem query_decided_by_first_signal {s : Session} (hs : s.Arising) (i : Inquiry)
    (registered : i = .status → s.server.registered = true) (task x : String)
    (happenings : List Happening) (alone : ∀ h ∈ happenings, h.starts? ≠ some (.background task)) :
    let answer? := Answer.signal? (s.server.answerTo x)
    let begun := (addTask (.background task) (i.ask s x)).settle
    let t := begun.undergoAll happenings
    let first? := answer?.or (begun.firstSignal? s.newWait happenings)
    let resolved := first?.isSome ∨ s.newWait.deadline ≤ t.now
    t.outcome? (.background task) = (if resolved then some (i.outcome (Signal.verdict first?)) else none) ∧
      ((Signal.verdict first?).status = .offline ↔
        s.server.answerTo x = .refusal ∨ ∀ info, first? ≠ some (.response (.userInfo info))) ∧
      (resolved → ∀ later, Deaf s.newWait.query (t.undergoAll later)) ∧
      (s.perform (i.step x)).2 = i.outcome (Signal.verdict answer?) ∧
      (s.perform (i.step x)).1.now ≤ s.newWait.deadline ∧
      ∀ later, Deaf s.newWait.query ((s.perform (i.step x)).1.undergoAll later) := by
  intro answer? begun t first? resolved
  obtain ⟨hordered, hprompt⟩ := hs.settles
  have hadded := addTask_ordered hordered (.background task) (inquiry_begins i s x)
  have hbegun := settle_settles hadded
  have hstands : Stands i (.background task) s.newWait first? t :=
    ((ask_stands hordered registered (.background task) x).settle hadded).undergoAll hbegun.ordered
      nofun alone
  obtain ⟨hordered', hprompt'⟩ := undergoAll_settles hbegun.ordered hbegun.prompt happenings
  obtain ⟨hresult, hnow, hcompleted, hover⟩ := complete_ask hordered hprompt registered x
  have hact : s.act (i.step x) = complete (i.ask s x) := by cases i <;> rfl
  have hsettles := settle_settles hcompleted
  rw [perform, hact]
  refine ⟨hstands.outcome?, ?_, fun hdone => ?_, hresult, Nat.le_trans (Nat.le_of_eq hsettles.now) hnow,
    ?_⟩
  · rw [Signal.verdict_offline_iff]
    refine ⟨.inr, ?_⟩
    rintro (hrefused | hnone)
    · intro info hfirst
      simp [first?, answer?, hrefused, Answer.signal?] at hfirst
    · exact hnone
  · exact (hstands.decided hdone).closed.deaf hordered' hprompt'
  · have hover' := hover.of_spares
      (hsettles.spares .foreground _ hover.lt hover.not_mem_overdue)
    exact hover'.deaf hsettles.ordered hsettles.prompt

/-- A query among others is answered late, but in time, by a server that keeps the mask to itself. -/
theorem query_answered_in_time :
    let s : Session :=
      { settings := {}, localIdentifier := "12345", reRequests := false, list := .ofRoot "Contacts" }
    let asked := s.undergoAll [.step (.setAnswer none .silence), .step (.spawnQuery "other" "777")]
    let happenings : List Happening :=
      [.step (.advance 1000), .signal 0 .timeout, .signal 1 (.response (.userInfo (.plain "555" .unknown))),
        .signal 1 .timeout]
    let t := (asked.perform (.spawnQuery "task" "555")).1.undergoAll happenings
    t.outcome? (.background "task") = some (.status .online) ∧ Deaf 1 t := by
  intro s asked happenings t
  have hs : asked.Arising :=
    ⟨{ connection := some ⟨"12345", true⟩, list := some s.list, hasPolicy := true }, s, _, rfl, rfl⟩
  have registered : asked.server.registered = true := by decide +kernel
  obtain ⟨houtcome, -, hdeaf, -⟩ := query_decided_by_first_signal hs .status (fun _ => registered)
    "task" "555" happenings (by decide)
  have first : (Answer.signal? (asked.server.answerTo "555")).or
      ((addTask (.background "task") (Inquiry.status.ask asked "555")).settle.firstSignal?
        asked.newWait happenings) = some (.response (.userInfo (.plain "555" .unknown))) := by
    decide +kernel
  have number : asked.newWait.query = 1 := by decide +kernel
  refine ⟨houtcome.trans ?_, number ▸ hdeaf (.inl (Option.isSome_of_eq_some first)) []⟩
  rw [if_pos (.inl (Option.isSome_of_eq_some first)), first]
  decide

end Session

end Roster
