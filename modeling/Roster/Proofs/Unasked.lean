import Roster.Proofs.Consent
import Roster.Proofs.Line.Deeds
import Roster.Proofs.Lodgers
import Roster.Proofs.ReRequests

/-! Requests that are re-sent though none was sent. A poll re-sends the request of whoever lies in the
awaiting group, and does not ask how they have come there. So a session can be trusted to re-send what it
has sent, and nothing else, exactly as long as nobody is put into that group whom it has sent no request. -/

namespace Roster

/-- Whom a request was sent to. -/
def Occurrence.petitioned? : Occurrence → Option String
  | .commanded (.requestAuthorization x _) => some x
  | _ => none

/-- Each request that is re-sent has been sent before. -/
def Founded (os : List Occurrence) : Prop :=
  ∀ before x reason after, os = before ++ .reRequested x reason :: after →
    x ∈ before.filterMap Occurrence.petitioned?

theorem Founded.append {os new : List Occurrence} (h : Founded os)
    (hnew : ∀ o ∈ new, o.reRequested? = none) : Founded (os ++ new) := by
  intro before x reason after hsplit
  rcases split_append hsplit with ⟨rest, hos, -⟩ | ⟨skipped, -, rfl⟩
  · exact h before x reason rest hos
  · cases hnew (.reRequested x reason) (by simp)

theorem Founded.concat {os : List Occurrence} (h : Founded os) {x : String} (reason : String)
    (hx : x ∈ os.filterMap Occurrence.petitioned?) : Founded (os ++ [.reRequested x reason]) := by
  intro before y reason' after hsplit
  rcases split_concat hsplit with ⟨rest, hos⟩ | ⟨rfl, hlast⟩
  · exact h before y reason' rest hos
  · cases hlast
    exact hx

theorem Founded.subset {os : List Occurrence} (h : Founded os) :
    os.filterMap Occurrence.reRequested? ⊆ os.filterMap Occurrence.petitioned? := by
  intro x hx
  obtain ⟨o, ho, hox⟩ := List.mem_filterMap.1 hx
  obtain ⟨before, after, rfl⟩ := List.append_of_mem ho
  cases o with
  | reRequested y reason =>
    cases hox
    rw [List.filterMap_append]
    exact List.mem_append_left _ (h before x reason after rfl)
  | _ => cases hox

namespace Session

open ContactList

/-- Whom requests have been sent to, in order. -/
def petitionees (s : Session) : List String := s.trace.filterMap Occurrence.petitioned?

theorem petitionees_eq_handshakes (s : Session) :
    s.petitionees = s.handshakes.filterMap Occurrence.petitioned? := by
  rw [petitionees, handshakes, List.filterMap_filter]
  refine List.filterMap_congr fun o _ => ?_
  cases o with
  | commanded c => cases c <;> rfl
  | _ => rfl

/-- Everybody in the awaiting group has been sent a request, or been seen online there. -/
def Vouched (s : Session) : Prop :=
  ∀ x ∈ s.list.lodgers s.settings.awaitingGroup, x ∈ s.petitionees ∨ x ∈ s.seen

/-- Whatever the session hears from now on, and however often it polls, it re-sends no request that it has
not sent. -/
def Trusty (s : Session) : Prop :=
  ∀ more, (∀ step ∈ more, step.isReport = true) → Founded (s.run more).trace

/-- A step puts somebody into the awaiting group who by the end of it has been sent no request, nor been
seen online there. -/
def smuggles (line : Line) (s : Session) (step : Step) : Bool :=
  let t := (s.performVia line step).1
  (s.edit? step).any fun e => (s.list.admitted s.settings.awaitingGroup e).any fun x =>
    x ∉ t.petitionees ∧ x ∉ t.seen

/-- Requests that were re-sent have been sent, and those that will be have been, too. -/
structure Grounded (s : Session) : Prop where
  founded : Founded s.trace
  vouched : s.Vouched

section Grounded

variable {s t : Session}

theorem petitionees_subset (h : s.trace <+: t.trace) : s.petitionees ⊆ t.petitionees :=
  (h.filterMap _).subset

theorem Frame.vouched (h : s.Frame t) (hs : s.Vouched) : t.Vouched := by
  intro x hx
  rw [h.settings] at hx
  refine (hs x (mem_lodgers_of_bare_eq h.list hx)).imp (fun hx => ?_) fun hx => h.seen.subset hx
  exact petitionees_subset h.trace_prefix hx

theorem Grounded.turn (hs : s.Grounded) (turn : Turn s t) : t.Grounded := by
  refine ⟨?_, turn.frame.vouched hs.vouched⟩
  rcases (Stride.turn turn).reSends with ⟨-, new, htrace, hnew⟩ | ⟨u, x, hu, rfl⟩
  · rw [htrace]
    exact hs.founded.append hnew
  · obtain ⟨new, htrace, hnew⟩ := hu.trace
    -- whom the poll re-sends a request has lain in the group all the time, and was not seen there
    have hlodges : x ∈ s.list.lodgers s.settings.awaitingGroup := by
      have hframe := turn.frame
      rw [← hframe.settings]
      exact mem_lodgers_of_bare_eq hframe.list (mem_lodgers_of_parentGroup? hu.parked)
    have hsent := (hs.vouched x hlodges).resolve_right hu.new
    have hbefore : Founded u.trace := htrace ▸ hs.founded.append hnew
    exact hbefore.concat _ (petitionees_subset (htrace ▸ List.prefix_append _ _) hsent)

theorem Grounded.course (hs : s.Grounded) (h : Course s t) : t.Grounded := by
  induction h with
  | refl => exact hs
  | tail _ turn ih => exact ih.turn turn

theorem Deed.founded {step : Step} (h : Deed s step t) (hs : s.Grounded) : Founded t.trace := by
  cases h with
  | course course => exact (hs.course course).founded
  | edit x quiet _ =>
    obtain ⟨new, htrace, hnew⟩ := quiet.withholds.trace
    exact htrace ▸ hs.founded.append hnew
  | parties => exact hs.founded

theorem Deed.trace_extends {step : Step} (h : Deed s step t) : s.trace <+: t.trace := by
  cases h with
  | course course => exact course.frame.trace_prefix
  | edit x quiet _ =>
    obtain ⟨new, htrace, -⟩ := quiet.trace
    exact htrace ▸ List.prefix_append _ _
  | parties => exact List.prefix_refl _

variable {line : Line} {step : Step}

/-- A step that smuggles nobody in leaves everybody vouched for. -/
theorem Grounded.performVia (hs : s.Grounded) (calm : s.Calm)
    (honest : s.smuggles line step = false) : (s.performVia line step).1.Grounded := by
  have hdeed := calm.performVia_deed line step
  refine ⟨hdeed.founded hs, fun x hx => ?_⟩
  have hold (hx : x ∈ s.list.lodgers s.settings.awaitingGroup) :=
    (hs.vouched x hx).imp (fun hx => petitionees_subset hdeed.trace_extends hx)
      fun hx => hdeed.path.seen.subset hx
  rw [hdeed.settings] at hx
  have hx := mem_lodgers_of_bare_eq (performVia_edited line calm.sound step) hx
  cases he : s.edit? step with
  | none =>
    rw [he] at hx
    exact hold hx
  | some e =>
    rw [he] at hx
    rcases lodges_or_admitted hx with hx | hx
    · exact hold hx
    · simp only [smuggles, he, Option.any_some, List.any_eq_false, decide_eq_true_eq, not_and_or,
        not_not] at honest
      exact honest x hx

/-- Where everybody is vouched for, nobody has just been smuggled in. -/
theorem Vouched.honest (h : (s.performVia line step).1.Vouched) (sound : s.Sound) :
    s.smuggles line step = false := by
  have hlist := performVia_edited line sound step
  cases he : s.edit? step with
  | none => simp [smuggles, he]
  | some e =>
    simp only [smuggles, he, Option.any_some, List.any_eq_false, decide_eq_true_eq, not_and_or, not_not]
    intro x hx
    refine h x ?_
    rw [performVia_settings line sound step]
    rw [he] at hlist
    exact mem_lodgers_of_bare_eq hlist.symm (lodges_of_admitted hx)

theorem Grounded.runVia (hs : s.Grounded) (calm : s.Calm) {moves : List (Line × Step)}
    (honest : s.NeverVia (fun line s step => s.smuggles line step) moves) :
    (s.runVia moves).Grounded := by
  induction moves generalizing s with
  | nil => exact hs
  | cons move moves ih =>
    obtain ⟨hmove, hmoves⟩ := neverVia_cons.1 honest
    exact ih (hs.performVia calm hmove) (calm.performVia move.1 move.2) hmoves

theorem Grounded.trusty (hs : s.Grounded) (sound : s.Sound) : s.Trusty := by
  intro more hmore
  induction more generalizing s with
  | nil => exact hs.founded
  | cons step more ih =>
    obtain ⟨hstep, hrest⟩ := List.forall_mem_cons.1 hmore
    have hact := act_course sound hstep
    have hcourse : Course s (s.perform step).1 := hact.trans (settle_course (hact.sound sound))
    exact ih (hs.course hcourse) (hcourse.sound sound) hrest

end Grounded

/-- A server on which a contact is online. -/
abbrev online (x : String) : Answer := .respond (.userInfo (.plain x .online))

/-- Everybody in the awaiting group is online, and a poll asks for them. -/
def looking (s : Session) : List Step :=
  (s.list.lodgers s.settings.awaitingGroup).map (fun x => .setAnswer (some x) (online x)) ++ [.poll]

section Looking

variable {s t : Session} {x : String}

theorem answerTo_setAnswer (server : Server) (x y : String) (answer : Answer) :
    ({ server with answers := (x, answer) :: server.answers } : Server).answerTo y =
      if y = x then answer else server.answerTo y := by
  by_cases h : y = x
  · simp [Server.answerTo, h]
  · simp [Server.answerTo, List.lookup_cons, h, beq_eq_false_iff_ne.2 h]

theorem run_setAnswers (prompt : s.Prompt) (xs : List String) :
    ∃ server : Server, s.run (xs.map fun x => .setAnswer (some x) (online x)) = { s with server := server } ∧
      ∀ x, server.answerTo x = if x ∈ xs then online x else s.server.answerTo x := by
  induction xs generalizing s with
  | nil => exact ⟨s.server, rfl, by simp⟩
  | cons x xs ih =>
    let t : Session := { s with server := { s.server with answers := (x, online x) :: s.server.answers } }
    have htold : t.Prompt := Prompt.of_clockwork (s := s) rfl prompt
    have hstep : (s.perform (.setAnswer (some x) (online x))).1 = t := htold.settle
    obtain ⟨server, hrun, hanswers⟩ := ih htold
    refine ⟨server, by rw [List.map_cons, run_cons, hstep, hrun], fun y => ?_⟩
    rw [hanswers, answerTo_setAnswer]
    by_cases hx : y = x <;> by_cases hxs : y ∈ xs <;> simp [hx, hxs]

theorem mem_reRequestees_mono (h : s.trace <+: t.trace) (hx : x ∈ s.reRequestees) :
    x ∈ t.reRequestees :=
  (h.filterMap _).subset hx

/-- What a poll is told at once. -/
theorem ask_online (answers : s.server.answerTo x = online x) :
    (s.ask x).2 = .inl .online ∧ (s.ask x).1.server = s.server ∧ (s.ask x).1.list = s.list ∧
      (s.ask x).1.seen = s.seen ∧ (s.ask x).1.reRequests = s.reRequests ∧
      s.trace <+: (s.ask x).1.trace := by
  have hsignal : Answer.signal? (s.server.answerTo x) =
      some (.response (.userInfo (.plain x .online))) := by rw [answers]; rfl
  have hasked := ask_of_signal hsignal
  have hidle := ask_idle s x
  have hstill := ask_still s x
  refine ⟨hasked.2.1, ?_, hidle.list, hidle.seen, hasked.1.reRequests, hstill.trace_prefix⟩
  rw [ask_eq, hsignal]
  simp only [receive]
  split <;> rfl

theorem pollContact_server (s : Session) (group : Group) (report : PollReport) (x : String)
    (status : Status) : (s.pollContact group report x status).1.server = s.server := by
  have happlied : (s.applyStatus x status (some group)).1.server = s.server := by
    unfold applyStatus
    split
    · rfl
    · dsimp only
      split <;> rfl
  rw [pollContact_fst]
  split
  · dsimp only
    split <;> exact happlied
  · rfl

/-- A contact that has not been seen lies in the group that is polled, or its request has been re-sent. -/
structure Sought (s : Session) (group : Group) (x : String) (left : List String) : Prop where
  reRequests : s.reRequests = true
  answers : ∀ y ∈ left, s.server.answerTo y = online y
  parent : (s.list.parentGroup? x).map Group.name = some group.name
  found : x ∈ s.reRequestees ∨ x ∈ left ∧ x ∉ s.seen

theorem Sought.ask {group : Group} {left : List String} {y : String}
    (h : s.Sought group x (y :: left)) : (s.ask y).1.Sought group x (y :: left) := by
  obtain ⟨-, hserver, hlist, hseen, hreRequests, htrace⟩ := ask_online (h.answers y List.mem_cons_self)
  refine ⟨hreRequests.trans h.reRequests, hserver ▸ h.answers, hlist ▸ h.parent, ?_⟩
  exact h.found.imp (mem_reRequestees_mono htrace) fun hx => ⟨hx.1, hseen ▸ hx.2⟩

/-- Everybody is found online, and whoever has not been seen yet is re-sent the request. -/
theorem Sought.pollContact {group : Group} {left : List String} {y : String}
    (h : s.Sought group x (y :: left)) (report : PollReport) :
    (s.pollContact group report y .online).1.Sought group x left := by
  have hstill := pollContact_still s group report y .online
  refine ⟨(pollContact_asks s group report y .online).reRequests.trans h.reRequests, ?_, ?_, ?_⟩
  · rw [pollContact_server]
    exact fun y' hy' => h.answers y' (List.mem_cons_of_mem _ hy')
  · rw [parentGroup?_of_bare_eq hstill.list]
    exact h.parent
  · rcases h.found with hdone | ⟨hleft, hnew⟩
    · exact .inl (mem_reRequestees_mono hstill.trace_prefix hdone)
    · by_cases hxy : x = y
      · subst hxy
        refine .inl ?_
        have honline : Status.online.isOnline = true := rfl
        rw [pollContact_fst, if_pos h.parent]
        simp [honline, hnew, h.reRequests, reRequestees, Occurrence.reRequested?]
      · refine .inr ⟨(List.mem_cons.1 hleft).resolve_left hxy, ?_⟩
        have happlied := (applyStatus_fields s y .online (some group)).1
        rw [pollContact_fst]
        split
        · dsimp only
          split <;> simp [happlied, hnew, hxy]
        · exact hnew

theorem Sought.pollRest {group : Group} {left : List String} (h : s.Sought group x left)
    (report : PollReport) : (∃ report', (s.pollRest group report left).2 = .inl report') ∧
      x ∈ (s.pollRest group report left).1.reRequestees := by
  induction left generalizing s report with
  | nil => exact ⟨⟨report, rfl⟩, h.found.resolve_right fun hx => List.not_mem_nil hx.1⟩
  | cons y left ih =>
    have hanswer := (ask_online (h.answers y List.mem_cons_self)).1
    have hasked := h.ask
    rw [Session.pollRest]
    rcases hask : s.ask y with ⟨t, r⟩
    rw [hask] at hanswer hasked
    obtain rfl : r = .inl .online := hanswer
    exact ih (hasked.pollContact _) _

end Looking

section Looking

variable {s : Session} {x : String}

/-- A poll that waits for nobody is over at once. -/
theorem act_poll_of_report {report : PollReport} (h : s.poll.2 = .inl report) : (s.act .poll).1 =
    { s.poll.1 with tasks := s.poll.1.tasks.filter (·.name ≠ .foreground) } := by
  have hbegun : s.beginPoll = (s.poll.1, .inl (.report report)) := by
    unfold beginPoll
    rcases hpoll : s.poll with ⟨t, r⟩
    rw [hpoll] at h
    obtain rfl : r = .inl report := h
    rfl
  rw [act, hbegun, complete_of_inl]

/-- Whom a session has smuggled in it re-sends a request when it sees them. -/
theorem mem_reRequestees_of_looking (calm : s.Calm) (consistent : s.list.Consistent)
    (reRequests : s.reRequests = true) (lodges : x ∈ s.list.lodgers s.settings.awaitingGroup)
    (unseen : x ∉ s.seen) : x ∈ (s.run s.looking).reRequestees ∧ (s.run s.looking).ledger = s.ledger := by
  obtain ⟨server, hrun, hanswers⟩ := run_setAnswers calm.prompt (s.list.lodgers s.settings.awaitingGroup)
  -- only the server has changed when the poll begins
  let t : Session := { s with server := server }
  have hparent := consistent.parentGroup?_of_mem_lodgers lodges
  obtain ⟨group, hfound, hnamed⟩ := Option.map_eq_some_iff.1 hparent
  obtain ⟨name, -, hgroup⟩ := Option.bind_eq_some_iff.1 hfound
  obtain rfl : name = s.settings.awaitingGroup := (name_of_group? hgroup).symm.trans hnamed
  have hsought : t.Sought group x (s.list.lodgers group.name) :=
    ⟨reRequests, fun y hy => (hanswers y).trans (if_pos (hnamed ▸ hy)), hnamed ▸ hparent,
      .inr ⟨hnamed ▸ lodges, unseen⟩⟩
  obtain ⟨⟨report, hreport⟩, hsent⟩ := hsought.pollRest {}
  have hpoll : t.poll = t.pollRest group {} (s.list.lodgers group.name) := by
    simp only [poll, awaitingGroup?, t, hgroup, lodgers]
  have hact := act_poll_of_report (hpoll ▸ hreport)
  have hcalm : t.Sound := ⟨calm.sound.numbered, calm.sound.awaited⟩
  have hlooked : s.run s.looking = (t.perform .poll).1 := by
    rw [looking, run_append, hrun]
    rfl
  rw [hlooked]
  refine ⟨?_, ?_⟩
  · have hsettled := (settle_course (act_sound hcalm .poll)).frame
    refine mem_reRequestees_mono hsettled.trace_prefix ?_
    rw [← hpoll] at hsent
    rw [hact]
    exact hsent
  · have hledger : (t.act .poll).1.ledger = t.ledger := ledger_act t rfl
    exact (ledger_settle _).trans hledger

theorem petitionees_of_ledger {t : Session} (h : t.ledger = s.ledger) : t.petitionees = s.petitionees := by
  rw [petitionees_eq_handshakes, petitionees_eq_handshakes, handshakes_of_ledger h]

/-- A session that can be trusted has not smuggled in anybody. -/
theorem Trusty.vouched (h : s.Trusty) (calm : s.Calm) (consistent : s.list.Consistent)
    (reRequests : s.reRequests = true) : s.Vouched := by
  intro x lodges
  by_contra hnone
  obtain ⟨unasked, unseen⟩ := not_or.1 hnone
  obtain ⟨hsent, hledger⟩ := mem_reRequestees_of_looking calm consistent reRequests lodges unseen
  have hreports : ∀ step ∈ s.looking, step.isReport = true := by
    simp only [looking, List.mem_append, List.mem_map, List.mem_singleton]
    rintro step (⟨y, -, rfl⟩ | rfl) <;> rfl
  have hpetitioned := (h s.looking hreports).subset hsent
  rw [← petitionees, petitionees_of_ledger hledger] at hpetitioned
  exact unasked hpetitioned

end Looking

section Requiring

variable {line : Line} {s : Session}

theorem petitioned_of_petitioning (line : Line) (s : Session) (x : String) :
    ((s.petitioning line x).elim [] Exchange.occurrences).filterMap Occurrence.petitioned? =
      if (s.petitioning line x).any Exchange.requested then [x] else [] := by
  unfold petitioning
  cases s.desk.policy? with
  | none => simp
  | some policy =>
    cases hout : policy.outgoing with
    | none => simp [hout, Exchange.occurrences, Exchange.requested, Occurrence.petitioned?]
    | some p =>
      cases hgrant : line (s.record (.drafted s.desk.earlier x (some p)))
          (.grantFutureAuthorization x p.reason) with
      | false => simp [hout, hgrant, Exchange.occurrences, Exchange.requested, Occurrence.petitioned?]
      | true =>
        cases hrequest : line ((s.record (.drafted s.desk.earlier x (some p))).record
            (.commanded (.grantFutureAuthorization x p.reason))) (.requestAuthorization x p.reason) with
        | false =>
          simp [hout, hgrant, hrequest, Exchange.occurrences, Exchange.requested, Occurrence.petitioned?]
        | true =>
          simp only [Option.map_some, hout, Option.any_some, hgrant, hrequest, Option.elim_some,
            Exchange.occurrences, Exchange.requested, Bool.and_self, if_true]
          rfl

theorem petitioned_of_requiring (line : Line) (s : Session) (x : String) (parent : Option String) :
    ((s.requiring line x parent).elim [] Exchange.occurrences).filterMap Occurrence.petitioned? =
      if (s.requiring line x parent).any Exchange.requested then [x] else [] := by
  unfold requiring
  split
  · exact petitioned_of_petitioning line s x
  · split
    · exact petitioned_of_petitioning line _ x
    · rfl

/-- A request is sent exactly where the one who requires authorization learns so. -/
theorem petitionees_performVia (line : Line) (s : Session) (x : String) (parent : Option String) :
    ∃ sent, (s.performVia line (.authorizationRequired x parent)).2 = .flag sent ∧
      (s.performVia line (.authorizationRequired x parent)).1.petitionees =
        s.petitionees ++ if sent then [x] else [] := by
  refine ⟨_, congrArg Outcome.flag (authorizationRequiredVia_exchange line s x parent).2.2, ?_⟩
  rw [petitionees_eq_handshakes, (performVia_exchange line s _).1, List.filterMap_append,
    ← petitionees_eq_handshakes]
  exact congrArg _ (petitioned_of_requiring line s x parent)

/-- Who requires authorization smuggles somebody in exactly if that is a stranger who is parked though no
request has been sent, neither now nor before. -/
theorem smuggles_authorizationRequired_iff (calm : s.Calm) (line : Line) (x : String)
    (parent : Option String) : s.smuggles line (.authorizationRequired x parent) = true ↔
      (s.parking? x parent).isSome ∧
        (s.performVia line (.authorizationRequired x parent)).2 = .flag false ∧
        x ∉ s.petitionees ∧ x ∉ s.seen := by
  obtain ⟨sent, houtcome, hpetitionees⟩ := petitionees_performVia line s x parent
  have hquiet := (hosting_quiet s x parent).trans ((authorizationRequiredVia_tells line s x parent).quiet x)
  have hseen : (s.performVia line (.authorizationRequired x parent)).1.seen = s.seen := by
    rw [calm.performVia_eq line rfl]
    exact hquiet.seen
  simp only [smuggles, hpetitionees, hseen, houtcome, edit?]
  cases hparking : s.parking? x parent with
  | none => simp
  | some e =>
    simp only [parking?, Option.ite_none_right_eq_some] at hparking
    obtain ⟨-, hparked⟩ := hparking
    cases hparked
    cases sent <;> simp [admitted]

end Requiring

/-- Nobody is re-sent a request that has not been sent one, and nobody will be by anything that is heard,
exactly as long as no step smuggles anybody into the awaiting group. An application that declines to
petition does: whoever it was asked about is parked all the same, and so is one whose petition was not
sent in full. -/
theorem re_requests_follow_requests {a : Assembly} {s₀ : Session} (built : a.build = .ok s₀)
    (moves : List (Line × Step)) :
    (s₀.Vouched → s₀.NeverVia (fun line s step => s.smuggles line step) moves →
      s₀.ThroughoutVia Trusty moves) ∧
    (s₀.reRequests = true → s₀.ThroughoutVia (·.list.Consistent) moves →
      s₀.ThroughoutVia Trusty moves →
        s₀.Vouched ∧ s₀.NeverVia (fun line s step => s.smuggles line step) moves) ∧
    ∀ before, before <+: moves → ∀ line x parent,
      let s := s₀.runVia before
      s.smuggles line (.authorizationRequired x parent) = true ↔
        (s.parking? x parent).isSome ∧
          (s.performVia line (.authorizationRequired x parent)).2 = .flag false ∧
          x ∉ s.petitionees ∧ x ∉ s.seen := by
  have hcalm := Assembly.calm_of_build built
  have hfresh := Assembly.fresh_of_build built
  refine ⟨fun vouched honest before hbefore => ?_, fun reRequests consistent trusty => ?_,
    fun before _ line x parent => smuggles_authorizationRequired_iff (hcalm.runVia before) line x parent⟩
  · have hgrounded : s₀.Grounded := by
      refine ⟨fun before x reason after h => ?_, vouched⟩
      simp [hfresh.trace] at h
    have hhonest : s₀.NeverVia (fun line s step => s.smuggles line step) before :=
      fun rest line step hrest => honest rest line step (hrest.trans hbefore)
    exact (hgrounded.runVia hcalm hhonest).trusty (hcalm.runVia before).sound
  · have hvouched (before : List (Line × Step)) (hbefore : before <+: moves) :
        (s₀.runVia before).Vouched :=
      (trusty before hbefore).vouched (hcalm.runVia before) (consistent before hbefore)
        ((reRequests_runVia before).trans reRequests)
    refine ⟨hvouched [] List.nil_prefix, fun before line step hbefore => ?_⟩
    have hnow := hvouched _ hbefore
    rw [runVia_concat] at hnow
    exact hnow.honest (hcalm.runVia before).sound

/-- A contact is parked and sent a request, which is sent again when it is seen. -/
theorem re_request_of_petitioned_contact :
    let s₀ : Session :=
      { settings := {}, localIdentifier := "12345"
        list := ⟨"Contacts", [⟨.root "Contacts", none⟩, ⟨.stored "Friends", some "Contacts"⟩], []⟩ }
    let moves : List (Line × Step) :=
      [(.plain, .authorizationRequired "777" (some "Friends")),
        (.plain, .setAnswer (some "777") (online "777")), (.plain, .poll)]
    s₀.ThroughoutVia Trusty moves ∧ (s₀.runVia moves).reRequestees = ["777"] := by
  intro s₀ moves
  let a : Assembly :=
    { connection := some ⟨"12345", true⟩, list := some s₀.list, hasPolicy := true, reRequests := true }
  have built : a.build = .ok s₀ := rfl
  have vouched : s₀.Vouched := by simp [Vouched, lodgers, contactsIn, s₀]
  have honest : s₀.NeverVia (fun line s step => s.smuggles line step) moves :=
    neverVia_cons.2 ⟨by decide +kernel, neverVia_cons.2 ⟨by decide +kernel,
      neverVia_cons.2 ⟨by decide +kernel, neverVia_nil _ _⟩⟩⟩
  exact ⟨(re_requests_follow_requests built moves).1 vouched honest, by decide +kernel⟩

/-- The application declines to petition, and the contact is re-sent a request that it has not been sent. -/
theorem re_request_of_declined_contact :
    ¬∀ (a : Assembly) (s₀ : Session) (steps : List Step), a.build = .ok s₀ →
      Founded (s₀.run steps).trace := by
  intro h
  let s₀ : Session :=
    { settings := {}, localIdentifier := "12345"
      list := ⟨"Contacts", [⟨.root "Contacts", none⟩, ⟨.stored "Friends", some "Contacts"⟩], []⟩ }
  let steps : List Step :=
    [.setOutgoing none, .authorizationRequired "777" (some "Friends"),
      .setAnswer (some "777") (online "777"), .poll]
  have built : Assembly.build { connection := some ⟨"12345", true⟩, list := some s₀.list,
                                hasPolicy := true, reRequests := true } = .ok s₀ := rfl
  have hsubset : (s₀.run steps).reRequestees ⊆ (s₀.run steps).petitionees :=
    (h _ s₀ steps built).subset
  have hsent : (s₀.run steps).reRequestees = ["777"] := by decide +kernel
  have hnone : (s₀.run steps).petitionees = [] := by decide +kernel
  rw [hsent, hnone] at hsubset
  exact List.not_mem_nil (hsubset List.mem_cons_self)

end Session

end Roster
