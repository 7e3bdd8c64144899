import Roster.Session.Step
import Roster.Proofs.Entries
import Mathlib.Logic.Relation

/-! What reports, polls and time do to a session. All of it is a course: a sequence of turns, each
a single change. A course leaves the list as it was but for statuses and images, and keeps the
session sound: every poll that waits is one of the awaiting group, and waits for a query about the
contact it has come to. -/

namespace Roster

def Task.poll? (t : Task) : Option SuspendedPoll :=
  match t.state with
  | .working (.poll p) => some p
  | _ => none

/-- Whom a query is about. -/
def Occurrence.asked? : Occurrence → Option String
  | .requested (.userInfo x) => some x
  | _ => none

/-- Something that a report, a poll or time brings about. -/
def Occurrence.isReport : Occurrence → Bool
  | .delivered _ (.subscription _) | .delivered _ (.moved _) | .delivered _ (.group _) => false
  | .delivered .. | .commanded _ | .requested _ | .reRequested .. => true
  | _ => false

namespace Session

/-- Whom the queries were about, by their numbers. -/
def asked (s : Session) : List String := s.trace.filterMap Occurrence.asked?

/-- The polls that wait for a query. -/
def polls (s : Session) : List SuspendedPoll :=
  s.tasks.filterMap Task.poll? ++ (s.poller.bind Poller.poll).toList

/-- A poll of the awaiting group that waits for a query about the contact it has come to. -/
def Awaits (s : Session) (p : SuspendedPoll) : Prop :=
  p.group.name = s.settings.awaitingGroup ∧ s.asked[p.wait.query]? = some p.current

structure Sound (s : Session) : Prop where
  numbered : s.queries.length = s.asked.length
  awaited : ∀ p ∈ s.polls, s.Awaits p

/-- A poll of a group learns the status of a contact: its query is answered at once, or it has been
waiting for a query about that contact. -/
inductive Learns : Group → String → Status → Session → Session → Prop
  | atOnce {s t : Session} {x : String} {mask : Mask} (group : Group)
      (answered : s.ask x = (t, .inl mask)) : Learns group x mask.status s t
  | later {s t : Session} {p : SuspendedPoll} {mask : Mask} (waiting : p ∈ s.polls)
      (awaits : s.Awaits p) (answered : s.receive p.wait.query = (t, mask)) :
      Learns p.group p.current mask.status s t

/-- The same but for the parties' moods and for what is waited for. -/
structure Alike (s s' : Session) : Prop where
  list : s'.list = s.list
  hub : s'.hub = s.hub
  own : s'.own = s.own
  seen : s'.seen = s.seen
  trace : s'.trace = s.trace
  settings : s'.settings = s.settings
  desk : s'.desk = s.desk
  queries : s'.queries.length = s.queries.length

/-- A single change that a report, a poll or time makes. -/
inductive Turn : Session → Session → Prop
  | silent {s s' : Session} (alike : s.Alike s') (awaited : ∀ p ∈ s'.polls, s'.Awaits p) :
      Turn s s'
  | command (s : Session) (c : Command) : Turn s (s.record (.commanded c))
  | ask (s : Session) (x : String) : Turn s (s.ask x).1
  | ownInfo (s : Session) (info : UserInfo) : Turn s (s.ownInfo info).1
  | ownMessage (s : Session) (message : Option String) : Turn s (s.ownMessage message).1
  | resetStatus (s : Session) : Turn s s.resetStatus
  | report (s : Session) (x : String) (status : Status) (parent : Option Group) :
      Turn s (s.applyStatus x status parent).1
  | icon (s : Session) (x : String) (icon : Option (List UInt8)) : Turn s (s.buddyIcon x icon)
  | polled {s t : Session} {group : Group} {x : String} {status : Status} (report : PollReport)
      (awaiting : group.name = s.settings.awaitingGroup) (learns : Learns group x status s t) :
      Turn s (t.pollContact group report x status).1

abbrev Course : Session → Session → Prop := Relation.ReflTransGen Turn

/-- What a course does not touch, and what it only adds to. -/
structure Frame (s s' : Session) : Prop where
  list : s'.list.bare = s.list.bare
  hub : s'.hub = s.hub
  settings : s'.settings = s.settings
  desk : s'.desk = s.desk
  seen : s.seen <+: s'.seen
  trace : ∃ new, s'.trace = s.trace ++ new ∧ ∀ o ∈ new, o.isReport = true

theorem Frame.refl (s : Session) : s.Frame s :=
  ⟨rfl, rfl, rfl, rfl, List.prefix_refl _, [], (List.append_nil _).symm, by simp⟩

theorem Frame.trans {s t u : Session} (h₁ : s.Frame t) (h₂ : t.Frame u) : s.Frame u := by
  obtain ⟨new₁, e₁, hn₁⟩ := h₁.trace
  obtain ⟨new₂, e₂, hn₂⟩ := h₂.trace
  refine ⟨h₂.list.trans h₁.list, h₂.hub.trans h₁.hub, h₂.settings.trans h₁.settings,
    h₂.desk.trans h₁.desk, h₁.seen.trans h₂.seen, new₁ ++ new₂,
    by rw [e₂, e₁, List.append_assoc], fun o ho => ?_⟩
  exact (List.mem_append.1 ho).elim (hn₁ o) (hn₂ o)

theorem Frame.trace_prefix {s s' : Session} (h : s.Frame s') : s.trace <+: s'.trace := by
  obtain ⟨new, e, -⟩ := h.trace
  exact e ▸ List.prefix_append _ _

/-- A frame in which waiting tasks stay, and every new query is numbered. -/
structure Still (s s' : Session) : Prop extends Frame s s' where
  tasks : s'.tasks = s.tasks
  poller : s'.poller = s.poller
  numbered : s.queries.length = s.asked.length → s'.queries.length = s'.asked.length

theorem Still.trans {s t u : Session} (h₁ : s.Still t) (h₂ : t.Still u) : s.Still u :=
  ⟨h₁.toFrame.trans h₂.toFrame, h₂.tasks.trans h₁.tasks, h₂.poller.trans h₁.poller,
    h₂.numbered ∘ h₁.numbered⟩

theorem asked_prefix {s s' : Session} (h : s.trace <+: s'.trace) : s.asked <+: s'.asked :=
  h.filterMap _

theorem Awaits.mono {s s' : Session} {p : SuspendedPoll} (hp : s.Awaits p)
    (settings : s'.settings = s.settings) (trace : s.trace <+: s'.trace) : s'.Awaits p := by
  refine ⟨by rw [settings]; exact hp.1, ?_⟩
  obtain ⟨rest, hrest⟩ := asked_prefix trace
  rw [← hrest, List.getElem?_append_left, hp.2]
  exact (List.getElem?_eq_some_iff.1 hp.2).1

theorem Still.polls {s s' : Session} (h : s.Still s') : s'.polls = s.polls := by
  rw [Session.polls, Session.polls, h.tasks, h.poller]

theorem Still.sound {s s' : Session} (h : s.Still s') (hs : s.Sound) : s'.Sound :=
  ⟨h.numbered hs.numbered, fun p hp =>
    (hs.awaited p (h.polls ▸ hp)).mono h.settings h.trace_prefix⟩

theorem asked_append {s s' : Session} {new : List Occurrence} (h : s'.trace = s.trace ++ new)
    (hnew : ∀ o ∈ new, o.asked? = none) : s'.asked = s.asked := by
  rw [asked, h, List.filterMap_append, List.filterMap_eq_nil_iff.2 hnew, List.append_nil]
  rfl

/-- A change that asks nothing and only tells. -/
theorem still_of_append {s s' : Session} {new : List Occurrence} (list : s'.list.bare = s.list.bare)
    (hub : s'.hub = s.hub) (settings : s'.settings = s.settings) (desk : s'.desk = s.desk)
    (seen : s.seen <+: s'.seen) (tasks : s'.tasks = s.tasks) (poller : s'.poller = s.poller)
    (queries : s'.queries.length = s.queries.length) (trace : s'.trace = s.trace ++ new)
    (hnew : ∀ o ∈ new, o.isReport = true ∧ o.asked? = none) : s.Still s' :=
  { list := list, hub := hub, settings := settings, desk := desk, seen := seen, tasks := tasks,
    poller := poller, trace := ⟨new, trace, fun o ho => (hnew o ho).1⟩,
    numbered := fun h => by rw [queries, asked_append trace fun o ho => (hnew o ho).2, h] }

/-- What a notice makes of the trace. -/
def deliveries (s : Session) (n : Notice) : List Occurrence :=
  ((s.hub.audience n).filter (·.hears n)).map (Occurrence.delivered · n)

theorem report_of_mem_deliveries {s : Session} {n : Notice} {o : Occurrence}
    (hn : ∀ l, (Occurrence.delivered l n).isReport = true) (h : o ∈ s.deliveries n) :
    o.isReport = true ∧ o.asked? = none := by
  obtain ⟨l, -, rfl⟩ := List.mem_map.1 h
  exact ⟨hn l, rfl⟩

theorem command_still (s : Session) (c : Command) : s.Still (s.record (.commanded c)) :=
  still_of_append rfl rfl rfl rfl (List.prefix_refl _) rfl rfl rfl rfl
    fun _ ho => List.mem_singleton.1 ho ▸ ⟨rfl, rfl⟩

theorem Still.refl (s : Session) : s.Still s :=
  ⟨Frame.refl s, rfl, rfl, id⟩

theorem ownInfo_still (s : Session) (info : UserInfo) : s.Still (s.ownInfo info).1 := by
  simp only [ownInfo]
  split
  · exact .refl s
  · exact still_of_append rfl rfl rfl rfl (List.prefix_refl _) rfl rfl rfl rfl
      fun _ => report_of_mem_deliveries (s := s) fun _ => rfl

theorem ownMessage_still (s : Session) (message : Option String) :
    s.Still (s.ownMessage message).1 := by
  unfold ownMessage
  split
  · exact .refl s
  · split
    · exact .refl s
    · exact still_of_append rfl rfl rfl rfl (List.prefix_refl _) rfl rfl rfl rfl
        fun _ => report_of_mem_deliveries (s := s) fun _ => rfl

theorem resetStatus_still (s : Session) : s.Still s.resetStatus := by
  simp only [resetStatus]
  split
  · exact still_of_append rfl rfl rfl rfl (List.prefix_refl _) rfl rfl rfl
      (List.append_nil _).symm (by simp)
  · exact still_of_append rfl rfl rfl rfl (List.prefix_refl _) rfl rfl rfl rfl
      fun _ => report_of_mem_deliveries (s := s) fun _ => rfl

theorem applyStatus_still (s : Session) (x : String) (status : Status) (parent : Option Group) :
    s.Still (s.applyStatus x status parent).1 := by
  simp only [applyStatus]
  split
  · exact .refl s
  · split
    · exact still_of_append (ContactList.bare_setStatus ..) rfl rfl rfl (List.prefix_refl _) rfl rfl
        rfl (List.append_nil _).symm (by simp)
    · exact still_of_append (ContactList.bare_setStatus ..) rfl rfl rfl (List.prefix_refl _) rfl rfl
        rfl rfl fun _ => report_of_mem_deliveries (s := s) fun _ => rfl

theorem buddyIcon_still (s : Session) (x : String) (icon : Option (List UInt8)) :
    s.Still (s.buddyIcon x icon) := by
  simp only [buddyIcon]
  split
  · exact .refl s
  · exact still_of_append (ContactList.bare_setImage ..) rfl rfl rfl (List.prefix_refl _) rfl rfl
      rfl rfl fun _ => report_of_mem_deliveries (s := s) fun _ => rfl

/-- Alike, and the same tasks wait for the same queries. -/
structure Idle (s s' : Session) : Prop extends Alike s s' where
  tasks : s'.tasks = s.tasks
  poller : s'.poller = s.poller

theorem Alike.refl (s : Session) : s.Alike s := ⟨rfl, rfl, rfl, rfl, rfl, rfl, rfl, rfl⟩

theorem Alike.trans {s t u : Session} (h₁ : s.Alike t) (h₂ : t.Alike u) : s.Alike u :=
  ⟨h₂.list.trans h₁.list, h₂.hub.trans h₁.hub, h₂.own.trans h₁.own, h₂.seen.trans h₁.seen,
    h₂.trace.trans h₁.trace, h₂.settings.trans h₁.settings, h₂.desk.trans h₁.desk,
    h₂.queries.trans h₁.queries⟩

theorem Idle.trans {s t u : Session} (h₁ : s.Idle t) (h₂ : t.Idle u) : s.Idle u :=
  ⟨h₁.toAlike.trans h₂.toAlike, h₂.tasks.trans h₁.tasks, h₂.poller.trans h₁.poller⟩

theorem Alike.frame {s s' : Session} (h : s.Alike s') : s.Frame s' :=
  ⟨congrArg _ h.list, h.hub, h.settings, h.desk, h.seen ▸ List.prefix_refl _, [],
    by rw [h.trace, List.append_nil], by simp⟩

theorem Idle.still {s s' : Session} (h : s.Idle s') : s.Still s' :=
  ⟨h.frame, h.tasks, h.poller, fun hn => by rw [h.queries, hn, asked, asked, h.trace]⟩

theorem signal_idle (s : Session) (q : Nat) (sig : Signal) : s.Idle (s.signal q sig) :=
  ⟨⟨rfl, rfl, rfl, rfl, rfl, rfl, rfl, List.length_modify ..⟩, rfl, rfl⟩

theorem receive_idle (s : Session) (q : Nat) : s.Idle (s.receive q).1 := by
  unfold receive
  split
  · exact ⟨⟨rfl, rfl, rfl, rfl, rfl, rfl, rfl, List.length_set ..⟩, rfl, rfl⟩
  · exact ⟨.refl s, rfl, rfl⟩

/-- A query as it is sent, before anything comes of it. -/
def sending (s : Session) (x : String) : Session :=
  { s.record (.requested (.userInfo x)) with queries := s.queries ++ [({} : Correlator)] }

theorem sending_asked (s : Session) (x : String) : (s.sending x).asked = s.asked ++ [x] := by
  simp [asked, sending, record, Occurrence.asked?]

theorem sending_still (s : Session) (x : String) : s.Still (s.sending x) where
  list := rfl
  hub := rfl
  settings := rfl
  desk := rfl
  seen := List.prefix_refl _
  trace := ⟨[.requested (.userInfo x)], rfl, by simp [Occurrence.isReport]⟩
  tasks := rfl
  poller := rfl
  numbered h := by rw [sending_asked]; simp [sending, h]

/-- Asking is sending a query, and then what the server makes of it at once. -/
theorem ask_idle (s : Session) (x : String) : (s.sending x).Idle (s.ask x).1 := by
  simp only [ask]
  split
  · exact (signal_idle ..).trans (receive_idle ..)
  · split
    · exact ⟨⟨rfl, rfl, rfl, rfl, rfl, rfl, rfl, List.length_modify ..⟩, rfl, rfl⟩
    · exact ⟨⟨rfl, rfl, rfl, rfl, rfl, rfl, rfl, rfl⟩, rfl, rfl⟩

theorem ask_still (s : Session) (x : String) : s.Still (s.ask x).1 :=
  (sending_still s x).trans (ask_idle s x).still

/-- The query that is to be waited for is the newest. -/
theorem query_of_ask {s : Session} {x : String} {w : Wait} (h : (s.ask x).2 = .inr w) :
    w.query = s.queries.length := by
  simp only [ask] at h
  split at h
  · cases h
  · split at h
    · cases h
    · cases h
      rfl

theorem asked_of_ask {s : Session} {x : String} {w : Wait} (hs : s.Sound)
    (h : (s.ask x).2 = .inr w) : (s.ask x).1.asked[w.query]? = some x := by
  have htrace : (s.ask x).1.asked = s.asked ++ [x] := by
    rw [asked, (ask_idle s x).trace]
    exact sending_asked s x
  rw [htrace, query_of_ask h, hs.numbered]
  exact List.getElem?_concat_length

theorem Learns.still {s t : Session} {g : Group} {x : String} {status : Status}
    (h : Learns g x status s t) : s.Still t := by
  cases h with
  | atOnce _ answered =>
    have h := ask_still s x
    rwa [answered] at h
  | @later _ _ p _ _ _ answered =>
    have h := (receive_idle s p.wait.query).still
    rwa [answered] at h

theorem applyStatus_fields (s : Session) (x : String) (status : Status) (parent : Option Group) :
    (s.applyStatus x status parent).1.seen = s.seen ∧
      (s.applyStatus x status parent).1.reRequests = s.reRequests := by
  simp only [applyStatus]
  split
  · exact ⟨rfl, rfl⟩
  · split <;> exact ⟨rfl, rfl⟩

theorem contact?_of_parentGroup? {l : ContactList} {x : String} {g : Group}
    (h : l.parentGroup? x = some g) : (l.contact? x).isSome := by
  obtain ⟨name, hname, -⟩ := Option.bind_eq_some_iff.1 h
  obtain ⟨m, hm, -⟩ := Option.map_eq_some_iff.1 hname
  simp [ContactList.contact?, hm]

theorem contact?_applyStatus_isSome (s : Session) (x y : String) (status : Status)
    (parent : Option Group) :
    ((s.applyStatus x status parent).1.list.contact? y).isSome = (s.list.contact? y).isSome := by
  have h := ContactList.entries_of_bare_eq (applyStatus_still s x status parent).list y
  have hmap := congrArg (fun ms => ms.head?.isSome) h
  simpa [ContactList.contact?_eq_entries] using hmap

/-- What a poll does with the status of a contact that still lies in its group: it writes the
status down, and re-sends the request the first time it sees the contact online. -/
theorem pollContact_fst (s : Session) (group : Group) (report : PollReport) (x : String)
    (status : Status) :
    (s.pollContact group report x status).1 =
      if (s.list.parentGroup? x).map Group.name = some group.name then
        let t := (s.applyStatus x status (some group)).1
        if status.isOnline ∧ x ∉ s.seen then
          { t with
            seen := s.seen ++ [x]
            trace := t.trace ++
              if s.reRequests then [.reRequested x s.settings.reRequestReason] else [] }
        else t
      else s := by
  by_cases hp : (s.list.parentGroup? x).map Group.name = some group.name
  · obtain ⟨g, hg, -⟩ := Option.map_eq_some_iff.1 hp
    have hseen := (applyStatus_fields s x status (some group)).1
    have hre := (applyStatus_fields s x status (some group)).2
    have hset := (applyStatus_still s x status (some group)).settings
    have hknown := contact?_applyStatus_isSome s x x status (some group)
    rw [contact?_of_parentGroup? hg] at hknown
    obtain ⟨c, hc⟩ := Option.isSome_iff_exists.1 hknown
    have hid := ContactList.identifier_of_contact? hc
    simp only [pollContact, hp, ne_eq, not_true_eq_false, if_false, if_true]
    by_cases hon : status.isOnline ∧ x ∉ s.seen
    · simp only [hseen, hon, Bool.not_true, Bool.false_or, decide_false, Bool.false_eq_true, if_false,
        if_true, hc, reRequest, not_false_eq_true, and_self]
      by_cases hr : s.reRequests <;> simp [hre, hr, record, hset, hid]
    · have hskip : (!status.isOnline || decide (x ∈ s.seen)) = true := by
        by_cases ho : status.isOnline <;> simp_all
      simp only [hseen, hskip, hon, if_true, if_false]
  · simp only [pollContact, hp, ne_eq, not_false_eq_true, if_true, if_false]

theorem pollContact_still (s : Session) (group : Group) (report : PollReport) (x : String)
    (status : Status) : s.Still (s.pollContact group report x status).1 := by
  have happly := applyStatus_still s x status (some group)
  rw [pollContact_fst]
  split
  · dsimp only
    split
    · refine happly.trans (still_of_append rfl rfl rfl rfl ?_ rfl rfl rfl rfl ?_)
      · rw [(applyStatus_fields s x status (some group)).1]
        exact List.prefix_append _ _
      · intro o ho
        split at ho
        · exact List.mem_singleton.1 ho ▸ ⟨rfl, rfl⟩
        · cases ho
    · exact happly
  · exact .refl s

theorem Turn.still_or_silent {s s' : Session} (h : Turn s s') :
    s.Still s' ∨ (s.Alike s' ∧ ∀ p ∈ s'.polls, s'.Awaits p) := by
  cases h with
  | silent alike awaited => exact .inr ⟨alike, awaited⟩
  | command c => exact .inl (command_still s c)
  | ask x => exact .inl (ask_still s x)
  | ownInfo info => exact .inl (ownInfo_still s info)
  | ownMessage message => exact .inl (ownMessage_still s message)
  | resetStatus => exact .inl (resetStatus_still s)
  | report x status parent => exact .inl (applyStatus_still s x status parent)
  | icon x icon => exact .inl (buddyIcon_still s x icon)
  | polled report _ learns => exact .inl (learns.still.trans (pollContact_still ..))

theorem Turn.frame {s s' : Session} (h : Turn s s') : s.Frame s' := by
  rcases h.still_or_silent with h | ⟨h, -⟩
  · exact h.toFrame
  · exact h.frame

theorem Turn.sound {s s' : Session} (h : Turn s s') (hs : s.Sound) : s'.Sound := by
  rcases h.still_or_silent with h | ⟨h, hawaited⟩
  · exact h.sound hs
  · exact ⟨by rw [h.queries, hs.numbered, asked, asked, h.trace], hawaited⟩

namespace Course

theorem frame {s s' : Session} (h : Course s s') : s.Frame s' := by
  induction h with
  | refl => exact Frame.refl s
  | tail _ turn ih => exact ih.trans turn.frame

theorem sound {s s' : Session} (h : Course s s') (hs : s.Sound) : s'.Sound := by
  induction h with
  | refl => exact hs
  | tail _ turn ih => exact turn.sound ih

/-- A loop over turns is a course. -/
theorem foldl {α : Type} {f : Session → α → Session} (h : ∀ s a, s.Sound → Course s (f s a))
    (s : Session) (hs : s.Sound) (as : List α) : Course s (as.foldl f s) := by
  induction as generalizing s with
  | nil => exact .refl
  | cons a as ih => exact (h s a hs).trans (ih _ ((h s a hs).sound hs))

end Course

/-- An operation has gone as far as it could: a course, and if it goes on waiting as a poll, then
for a query of its own. -/
def Begun (s : Session) (r : Session × (Outcome ⊕ Work)) : Prop :=
  Course s r.1 ∧ ∀ p, r.2 = .inr (.poll p) → r.1.Awaits p

/-- The same of a poll alone. -/
def Polling (s : Session) (r : Session × (PollReport ⊕ SuspendedPoll)) : Prop :=
  Course s r.1 ∧ ∀ p, r.2 = .inr p → r.1.Awaits p

theorem pollRest_polling (group : Group) (ids : List String) :
    ∀ (s : Session) (report : PollReport), s.Sound → group.name = s.settings.awaitingGroup →
      s.Polling (s.pollRest group report ids) := by
  induction ids with
  | nil => exact fun s report _ _ => ⟨.refl, nofun⟩
  | cons x rest ih =>
    intro s report hs hg
    have hasked (w : Wait) := asked_of_ask (s := s) (x := x) (w := w) hs
    have hask := ask_still s x
    rcases h : s.ask x with ⟨t, mask | wait⟩
    · have turn := Turn.polled { report with checked := report.checked + 1 } hg (.atOnce group h)
      have hnext := ih _ (t.pollContact group { report with checked := report.checked + 1 } x
        mask.status).2 (turn.sound hs) (by rw [hg, turn.frame.settings])
      simp only [pollRest, h]
      exact ⟨.head turn hnext.1, hnext.2⟩
    · rw [h] at hasked hask
      simp only [pollRest, h]
      refine ⟨.single ?_, ?_⟩
      · have turn := Turn.ask s x
        rwa [h] at turn
      · rintro p ⟨⟩
        exact ⟨by rw [hg, hask.settings], hasked _ rfl⟩

theorem poll_polling (s : Session) (hs : s.Sound) : s.Polling s.poll := by
  simp only [poll]
  split
  · exact ⟨.refl, nofun⟩
  · next group h => exact pollRest_polling group _ s {} hs (ContactList.name_of_group? h)

theorem resumePoll_polling {s t : Session} {p : SuspendedPoll} {mask : Mask} (hs : s.Sound)
    (hp : p ∈ s.polls) (h : s.receive p.wait.query = (t, mask)) :
    s.Polling (t.resumePoll p mask) := by
  have hg := (hs.awaited p hp).1
  have turn := Turn.polled p.report hg (.later hp (hs.awaited p hp) h)
  have hrest := pollRest_polling p.group p.rest _ (t.pollContact p.group p.report p.current
    mask.status).2 (turn.sound hs) (by rw [hg, turn.frame.settings])
  exact ⟨.head turn hrest.1, hrest.2⟩

end Session

end Roster
