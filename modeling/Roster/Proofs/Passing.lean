import Roster.Proofs.Waiting
import Mathlib.Tactic.Set

/-! What a step does about waiting. Where nothing is delivered, whoever waits for a query goes on waiting,
unless the time comes at which it is given up; and after each step nothing is due. -/

namespace Roster

/-- The task that a step starts. -/
def Step.starts? : Step → Option TaskName
  | .publish .. | .query _ | .queryMask _ | .poll => some .foreground
  | .spawnPoll task | .spawnQuery task _ => some (.background task)
  | _ => none

/-- A step starts one task at most, and so does not start most. -/
theorem Step.exists_not_started (step : Step) : ∃ task, step.starts? ≠ some (.background task) := by
  by_cases h : step.starts? = some (.background "a")
  · exact ⟨"b", by rw [h]; decide⟩
  · exact ⟨"a", h⟩

def Step.isDelivery : Step → Bool
  | .deliver _ => true
  | _ => false

theorem Step.eq_deliver_or (step : Step) : (∃ r, step = .deliver r) ∨ step.isDelivery = false := by
  cases step with
  | deliver r => exact .inl ⟨r, rfl⟩
  | _ => exact .inr rfl

namespace Session

theorem Ordered.at {s : Session} (hs : s.Ordered) (moment : Nat) :
    ({ s with now := moment } : Session).Ordered :=
  ⟨hs.numbered, hs.distinct, hs.period⟩

theorem Ordered.withServer {s : Session} (hs : s.Ordered) (server : Server) :
    ({ s with server := server } : Session).Ordered :=
  ⟨hs.numbered, hs.distinct, hs.period⟩

theorem at_spares (name : TaskName) (q : Nat) (s : Session) (moment : Nat) :
    Spares name q s { s with now := moment } :=
  ⟨rfl, fun _ h _ => h, fun _ h _ => h⟩

theorem withServer_spares (name : TaskName) (q : Nat) (s : Session) (server : Server) :
    Spares name q s { s with server := server } :=
  ⟨rfl, fun _ h _ => h, fun _ h _ => h⟩

theorem signal_spares {q q' : Nat} (hne : q ≠ q') (name : TaskName) (s : Session) (sig : Signal) :
    Spares name q s (s.signal q' sig) :=
  ⟨queries_signal_of_ne hne s sig, fun _ h _ => h, fun _ h _ => h⟩

theorem arrive_eq {s : Session} (hs : s.Ordered) (moment : Nat) :
    s.arrive moment = ({ s with now := moment } : Session).settle := by
  have hnow := (settle_settles (hs.at moment)).now
  rw [arrive]
  exact congrArg (fun now => { ({ s with now := moment } : Session).settle with now := now }) hnow.symm

theorem arrive_now {s : Session} (hs : s.Ordered) : s.arrive s.now = s.settle := arrive_eq hs s.now

theorem arrive_settles {s : Session} (hs : s.Ordered) (moment : Nat) :
    ({ s with now := moment } : Session).Settles (s.arrive moment) :=
  arrive_eq hs moment ▸ settle_settles (hs.at moment)

/-- What every arrival at a later moment keeps holds when the time has passed. -/
theorem passUntil_keeps {P : Session → Prop} {stop : Session → Bool} {moment : Nat}
    (h : ∀ s next, P s → s.now < next → next ≤ moment → P (s.arrive next)) (s : Session) (hs : P s) :
    P (passUntil stop moment s) := by
  fun_induction passUntil stop moment s with
  | case1 => exact hs
  | case2 s _ next _ hnext ih => exact ih (h s next hs hnext.1 hnext.2)
  | case3 => exact hs
  | case4 => exact hs

theorem now_passUntil_le {s : Session} {moment : Nat} (stop : Session → Bool) (h : s.now ≤ moment) :
    (passUntil stop moment s).now ≤ moment :=
  passUntil_keeps (P := fun s => s.now ≤ moment) (fun _ _ _ _ hnext => hnext) s h

/-- The next moment is still to come. -/
theorem Prompt.lt_nextMoment {s : Session} (hs : s.Prompt) {next : Nat}
    (h : s.nextMoment? = some next) : s.now < next := by
  obtain ⟨hin, -⟩ := List.min?_eq_some_iff.1 h
  rcases List.mem_append.1 hin with hin | hin
  · obtain ⟨w, hw, rfl⟩ := List.mem_map.1 hin
    exact hs.waits w hw
  · obtain ⟨⟨due, poll⟩, hp, rfl⟩ := Option.map_eq_some_iff.1 (Option.mem_toList.1 hin)
    obtain ⟨hpoller, hidle⟩ := Option.filter_eq_some_iff.1 hp
    obtain rfl : poll = none := by simpa using hidle
    exact hs.poller due hpoller

/-- The next moment is no later than any deadline, and still to come. -/
theorem Prompt.nextMoment {s : Session} (hs : s.Prompt) {w : Wait} (hw : w ∈ s.waits) :
    ∃ next, s.nextMoment? = some next ∧ next ≤ w.deadline ∧ s.now < next := by
  have hmem : w.deadline ∈ s.waits.map Wait.deadline ++
      ((s.poller.filter (·.poll.isNone)).map Poller.due).toList :=
    List.mem_append_left _ (List.mem_map_of_mem hw)
  cases hnext : s.nextMoment? with
  | none => exact absurd (List.min?_eq_none_iff.1 hnext) (List.ne_nil_of_mem hmem)
  | some next =>
    obtain ⟨-, hleast⟩ := List.min?_eq_some_iff.1 hnext
    exact ⟨next, rfl, hleast _ hmem, hs.lt_nextMoment hnext⟩

/-- Time passes until something holds, or nobody waits any more for a query that is given up by then. -/
theorem passUntil_ends {s : Session} (hs : s.Ordered) (hprompt : s.Prompt) (stop : Session → Bool)
    (moment : Nat) : stop (passUntil stop moment s) = true ∨
      ∀ w ∈ (passUntil stop moment s).waits, moment < w.deadline := by
  fun_induction passUntil stop moment s with
  | case1 s hstop => exact .inl hstop
  | case2 s hstop next hnext hlater ih =>
    have hsettles := arrive_settles hs next
    exact ih hsettles.ordered hsettles.prompt
  | case3 s hstop next hnext hnot =>
    -- what is due next is still to come, so it is due too late
    refine .inr fun w hw => Nat.not_le.1 fun hdue => ?_
    obtain ⟨next', hnext', hle, hlt⟩ := hprompt.nextMoment hw
    obtain rfl := Option.some.inj (hnext.symm.trans hnext')
    exact hnot ⟨hlt, Nat.le_trans hle hdue⟩
  | case4 s hstop hnext =>
    refine .inr fun w hw => ?_
    obtain ⟨next, hnext', -, -⟩ := hprompt.nextMoment hw
    rw [hnext] at hnext'
    cases hnext'

/-- No time passes, and nothing is done for any query that was there before, nor for the task of a name. -/
structure Aside (name : TaskName) (s t : Session) : Prop where
  now : t.now = s.now
  ordered : t.Ordered
  spares : ∀ q < s.queries.length, Spares name q s t

/-- Time passes, and nothing is delivered. -/
inductive Passes (name : TaskName) : Session → Session → Prop
  | aside {s t : Session} (h : Aside name s t) : Passes name s t
  | arrive {s : Session} {moment : Nat} (hs : s.Ordered) (h : s.now ≤ moment) :
    Passes name s (s.arrive moment)
  | trans {s t u : Session} (h₁ : Passes name s t) (h₂ : Passes name t u) : Passes name s u

theorem Passes.ordered {name : TaskName} {s t : Session} (h : Passes name s t) : t.Ordered := by
  induction h with
  | aside h => exact h.ordered
  | arrive hs _ => exact (arrive_settles hs _).ordered
  | trans _ _ _ ih => exact ih

section Aside

variable {name : TaskName} {s t : Session}

/-- Waits may be given up. -/
theorem Ordered.aside (hs : s.Ordered) (now : t.now = s.now) (queries : t.queries = s.queries)
    (task : t.task? name = s.task? name) (waits : t.waits.Sublist s.waits)
    (period : t.poller.isSome = true → 0 < t.settings.pollIntervalSecs) : Aside name s t where
  now := now
  ordered := hs.later (Nat.le_of_eq (by rw [queries])) (fun _ hw => .inl (waits.subset hw))
    (hs.distinct.sublist (waits.map _)) period
  spares _ _ := ⟨by rw [queries], fun _ h _ => task ▸ h, fun _ hw _ => waits.subset hw⟩

theorem Ordered.aside_of_clockwork (hs : s.Ordered) (h : t.clockwork = s.clockwork) :
    Aside name s t := by
  obtain ⟨hqueries, htasks, hpoller, hnow, hsettings, -⟩ := Clockwork.mk.inj h
  refine hs.aside hnow hqueries (by rw [task?, task?, htasks]) ?_ ?_
  · rw [waits, waits, htasks, hpoller]
  · rw [hpoller, hsettings]
    exact hs.period

theorem Ordered.aside_refl (hs : s.Ordered) : Aside name s s := hs.aside_of_clockwork rfl

theorem Aside.trans {u : Session} (h₁ : Aside name s t) (h₂ : Aside name t u) : Aside name s u where
  now := h₂.now.trans h₁.now
  ordered := h₂.ordered
  spares q hq := (h₁.spares q hq).trans (h₂.spares q ((h₁.spares q hq).length_lt hq))

section AddTask

variable {task : TaskName} {begun : Session × (Outcome ⊕ Work)}

/-- The newest task comes first, and so does its wait. -/
theorem waits_addTask (task : TaskName) (h : s.Begins none Work.wait begun) :
    (addTask task begun).waits = (begun.2.getRight?.map Work.wait).toList ++ s.waits := by
  rw [addTask, waits, waits, filterMap_cons_eq, wait?_ofResult, h.1.tasks, h.1.poller,
    List.append_assoc]

theorem recent_addTask (hs : s.Ordered) (task : TaskName) (h : s.Begins none Work.wait begun) :
    (∀ w ∈ (addTask task begun).waits, w ∈ s.waits ∨ s.Recent (addTask task begun) w) ∧
      ((addTask task begun).waits.map Wait.query).Nodup :=
  waits_of_perm hs (.of_eq (waits_addTask task h)) (List.Sublist.refl _) (h.recent rfl rfl)

theorem addTask_ordered (hs : s.Ordered) (task : TaskName) (h : s.Begins none Work.wait begun) :
    (addTask task begun).Ordered := by
  obtain ⟨hold, hdistinct⟩ := recent_addTask hs task h
  exact hs.later h.1.more hold hdistinct fun hp => h.1.settings ▸ hs.period (h.1.poller ▸ hp)

theorem addTask_prompt (hs : s.Ordered) (hprompt : s.Prompt) (task : TaskName)
    (h : s.Begins none Work.wait begun) : (addTask task begun).Prompt := by
  have hnow : (addTask task begun).now = s.now := h.1.now
  refine ⟨fun w hw => ?_, fun due hpoller => hnow ▸ hprompt.poller due (h.1.poller ▸ hpoller)⟩
  rcases (recent_addTask hs task h).1 w hw with hold | hrecent
  · exact hnow ▸ hprompt.waits w hold
  · exact hrecent.time

/-- Another task begins. -/
theorem addTask_aside (hs : s.Ordered) (hne : task ≠ name) (h : s.Begins none Work.wait begun) :
    Aside name s (addTask task begun) := by
  refine ⟨h.1.now, addTask_ordered hs task h, fun q hq =>
    ⟨h.1.queries q hq nofun, fun found hfound _ => ?_, old_of_query (recent_addTask hs task h).1 hq⟩⟩
  rwa [task?, addTask, List.find?_cons_of_neg (by simpa using hne), h.1.tasks]

end AddTask

theorem dropForeground_aside (hs : s.Ordered) (hne : name ≠ .foreground) :
    Aside name s { s with tasks := s.tasks.filter (·.name ≠ .foreground) } := by
  refine hs.aside rfl rfl ?_ ?_ hs.period
  · rw [task?, task?, List.find?_filter]
    congr 1
    funext task
    by_cases h : task.name = name <;> simp [h, hne]
  · exact (List.filter_sublist.filterMap _).append_right _

/-- Polling stops, or starts anew. -/
theorem repoll_aside (hs : s.Ordered) (poller? : Option Poller)
    (h : ∀ p ∈ poller?, p.poll = none ∧ 0 < s.settings.pollIntervalSecs) :
    Aside name s { s with poller := poller? } := by
  refine hs.aside rfl rfl rfl ?_ fun hp => ?_
  · have hnone : poller?.bind Poller.poll = none :=
      Option.bind_eq_none_iff.2 fun p hp => (h p hp).1
    rw [waits, hnone, Option.map_none, Option.toList_none, List.append_nil]
    exact List.sublist_append_left ..
  · obtain ⟨p, hp⟩ := Option.isSome_iff_exists.1 hp
    exact (h p hp).2

theorem registrationChanged_aside (hs : s.Ordered) (new : Registration) :
    Aside name s (s.registrationChanged new) := by
  unfold registrationChanged
  split
  · unfold register
    dsimp only
    split
    · have hwired : Aside name s { s with server := { s.server with attached := true } }.loadList :=
        hs.aside_of_clockwork rfl
      refine hwired.trans (repoll_aside hwired.ordered _ fun p hp => ?_)
      obtain ⟨hruns, hp⟩ := (Option.ite_none_right_eq_some ..).1 hp
      cases hp
      exact ⟨rfl, hruns.1⟩
    · exact hs.aside_of_clockwork rfl
  · split
    · have hstopped : Aside name s s.stopPolling := repoll_aside hs none nofun
      refine hstopped.trans (hstopped.ordered.aside_of_clockwork ?_)
      rw [disconnect, clockwork_silenceContacts, clockwork_resetStatus]
    · exact hs.aside_refl

end Aside

section Steps

variable {name : TaskName} {s : Session}

theorem passUntil_passes (hs : s.Ordered) (stop : Session → Bool) (moment : Nat) :
    Passes name s (passUntil stop moment s) :=
  passUntil_keeps (fun _ _ h hlt _ => h.trans (.arrive h.ordered (Nat.le_of_lt hlt))) s
    (.aside hs.aside_refl)

theorem await_passes (name : TaskName) (hs : s.Ordered) (other : TaskName) :
    Passes name s (s.await other) := by
  unfold await
  split
  · exact passUntil_passes hs ..
  · exact .aside hs.aside_refl

theorem complete_passes (hs : s.Ordered) (hne : name ≠ .foreground)
    {begun : Session × (Outcome ⊕ Work)} (h : s.Begins none Work.wait begun) :
    Passes name s (complete begun).1 := by
  have hadded := addTask_aside hs hne.symm h
  have hwaited := await_passes name hadded.ordered .foreground
  exact (Passes.aside hadded).trans (hwaited.trans (.aside (dropForeground_aside hwaited.ordered hne)))

theorem advance_passes (hs : s.Ordered) (ms : Nat) : Passes name s (s.advance ms) := by
  have h : Passes name s _ := passUntil_passes hs (fun _ => false) (s.now + ms)
  exact h.trans (.arrive h.ordered (now_passUntil_le _ (Nat.le_add_right ..)))

/-- Without a delivery a step only lets time pass, as far as a task goes that it does not start. -/
theorem act_passes (name : TaskName) (hs : s.Ordered) (hname : name ≠ .foreground) {step : Step}
    (hdelivery : step.isDelivery = false) (hstarts : step.starts? ≠ some name) :
    Passes name s (s.act step).1 := by
  by_cases htimed : step.isTimed = false
  · exact .aside (hs.aside_of_clockwork (clockwork_act s htimed))
  · cases step with
    | deliver => cases hdelivery
    | registrationChanged new => exact .aside (registrationChanged_aside hs new)
    | publish status message => exact complete_passes hs hname (publish_begins ..)
    | query x => exact complete_passes hs hname (query_begins ..)
    | queryMask x => exact complete_passes hs hname (queryMask_begins ..)
    | poll => exact complete_passes hs hname (beginPoll_begins s)
    | spawnPoll task =>
      exact .aside (addTask_aside hs (fun h => hstarts (congrArg some h)) (beginPoll_begins s))
    | spawnQuery task x =>
      exact .aside (addTask_aside hs (fun h => hstarts (congrArg some h)) (query_begins s x))
    | join task => exact await_passes name hs _
    | advance ms => exact advance_passes hs ms
    | _ => exact absurd rfl htimed

/-- What is done for one query after another. It takes no time, and spares the others. -/
structure Separate (f : Session → Nat → Session) : Prop where
  now : ∀ {s : Session} (q : Nat), s.Ordered → (f s q).now = s.now
  ordered : ∀ {s : Session} (q : Nat), s.Ordered → (f s q).Ordered
  spares : ∀ {s : Session} {q q' : Nat} (name : TaskName), s.Ordered → q < s.queries.length →
    q ≠ q' → Spares name q s (f s q')

theorem separate_signal (sig : Signal) : Separate fun s q => s.signal q sig where
  now _ _ := rfl
  ordered q hs := hs.signal q sig
  spares name _ _ hne := signal_spares hne name _ sig

theorem Separate.of_woken {f : Session → Nat → Session}
    (h : ∀ {s : Session}, s.Ordered → ∀ q, Woken q s (f s q)) : Separate f where
  now q hs := (h hs q).now
  ordered q hs := (h hs q).ordered hs
  spares _ hs hq hne := (h hs _).spares hq hne

theorem separate_wakeWaiter : Separate wakeWaiter := .of_woken wakeWaiter_woken

theorem separate_expire : Separate expire := .of_woken expire_woken

theorem Separate.foldl {f : Session → Nat → Session} (hf : Separate f) (hs : s.Ordered)
    (qs : List Nat) : (qs.foldl f s).Ordered ∧ (qs.foldl f s).now = s.now := by
  induction qs generalizing s with
  | nil => exact ⟨hs, rfl⟩
  | cons q qs ih =>
    obtain ⟨hordered, hnow⟩ := ih (hf.ordered q hs)
    exact ⟨hordered, hnow.trans (hf.now q hs)⟩

theorem deliver_ordered (hs : s.Ordered) (r : Response) :
    (s.deliver r).1.Ordered ∧ (s.deliver r).1.now = s.now := by
  have hemptied := hs.withServer { s.server with unanswered := [] }
  obtain ⟨hsignalled, hnow⟩ := (separate_signal (.response r)).foldl hemptied s.server.unanswered
  obtain ⟨hordered, hnow'⟩ := separate_wakeWaiter.foldl hsignalled s.server.unanswered
  exact ⟨hordered, hnow'.trans hnow⟩

theorem act_ordered (hs : s.Ordered) (step : Step) : (s.act step).1.Ordered := by
  rcases step.eq_deliver_or with ⟨r, rfl⟩ | hdelivery
  · exact (deliver_ordered hs r).1
  · obtain ⟨task, hstarts⟩ := step.exists_not_started
    exact (act_passes (.background task) hs nofun hdelivery hstarts).ordered

theorem perform_settles (hs : s.Ordered) (step : Step) :
    (s.act step).1.Settles (s.perform step).1 :=
  settle_settles (act_ordered hs step)

end Steps

end Session

end Roster
