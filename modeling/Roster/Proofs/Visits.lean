import Roster.Proofs.PollPass

/-! Visits. A poll that has learnt the status of a contact deals with it at once, in the session as it is then.
Every request that a run re-sends is re-sent at such a visit, in a stretch of a poll that the run goes
through; and nobody's is re-sent twice. -/

namespace Roster

/-- What a poll has learnt of a contact, and the session at that moment. -/
structure Visit where
  group : Group
  identifier : String
  status : Status
  session : Session

namespace Visit

def finding (v : Visit) : Finding := ⟨v.group, v.identifier, v.status, v.session.list⟩

/-- The session at the moment when the request is re-sent, if it is. -/
def call (v : Visit) : Session := v.session.spotted v.group v.identifier v.status

/-- The request of a contact is re-sent at this visit, right after this much of the trace. -/
structure ReSends (v : Visit) (before : List Occurrence) (x : String) : Prop where
  identifier : v.identifier = x
  spots : v.session.Spots v.group x v.status
  trace : v.call.trace = before

end Visit

namespace Session

/-- The visits of a poll up to the first query that it has to wait for. -/
def visits (group : Group) (s : Session) : List String → List Visit
  | [] => []
  | x :: rest =>
    match s.ask x with
    | (_, .inr _) => []
    | (t, .inl mask) =>
      ⟨group, x, mask.status, t⟩ :: visits group (t.pollContact group {} x mask.status).1 rest

theorem findings_eq_map_visits (group : Group) (ids : List String) (s : Session) :
    findings group s ids = (visits group s ids).map Visit.finding := by
  induction ids generalizing s with
  | nil => rfl
  | cons x rest ih =>
    rcases h : s.ask x with ⟨t, mask | wait⟩
    · simp only [findings, visits, h, ih, List.map_cons]
      rfl
    · simp only [findings, visits, h, List.map_nil]

/-- The request of a contact has been re-sent, right after this much of the trace. -/
def Resent (s : Session) (before : List Occurrence) (x reason : String) : Prop :=
  ∃ after, s.trace = before ++ .reRequested x reason :: after

section Resent

variable {s t : Session} {entries : List Entry} {before : List Occurrence} {x reason : String}

theorem Refrains.resent (h : s.Refrains t) (ht : t.Resent before x reason) : s.Resent before x reason := by
  obtain ⟨new, htrace, hnew⟩ := h
  obtain ⟨after, hsplit⟩ := ht
  rw [htrace] at hsplit
  rcases split_append hsplit with ⟨rest, hs, -⟩ | ⟨skipped, -, rfl⟩
  · exact ⟨rest, hs⟩
  · cases hnew (.reRequested x reason) (by simp)

theorem pollContact_resent {group : Group} {report : PollReport} {y : String} {status : Status}
    (h : (s.pollContact group report y status).1.Resent before x reason) :
    s.Resent before x reason ∨
      Visit.ReSends ⟨group, y, status, s⟩ before x ∧ reason = s.settings.reRequestReason := by
  rcases pollContact_withholds_or_spots s group report y status with hnot | ⟨hspots, hcall⟩
  · exact .inl (hnot.trace.resent h)
  · obtain ⟨after, hsplit⟩ := h
    rw [hcall] at hsplit
    rcases split_concat hsplit with ⟨rest, hbefore⟩ | ⟨hbefore, hlast⟩
    · exact .inl ((spotted_refrains s group y status).resent ⟨rest, hbefore⟩)
    · cases hlast
      exact .inr ⟨⟨rfl, hspots, hbefore.symm⟩, rfl⟩

/-- A poll re-sends a request at one of its visits. -/
theorem pollRest_resent (group : Group) (ids : List String) : ∀ (s : Session) (report : PollReport),
    (s.pollRest group report ids).1.Resent before x reason → s.Resent before x reason ∨
      ∃ v ∈ visits group s ids, v.ReSends before x ∧ reason = s.settings.reRequestReason := by
  induction ids with
  | nil => exact fun s report h => .inl h
  | cons y rest ih =>
    intro s report h
    have hask := (ask_plain s y).refrains
    have hsettings := (ask_still s y).settings
    rcases hanswer : s.ask y with ⟨t, mask | wait⟩
    · rw [hanswer] at hask hsettings
      have hvisits : visits group s (y :: rest) = ⟨group, y, mask.status, t⟩ ::
          visits group (t.pollContact group { report with checked := report.checked + 1 } y
            mask.status).1 rest := by
        rw [visits, hanswer, pollContact_fst_eq]
      rw [pollRest_of_answer hanswer] at h
      rw [hvisits]
      rcases ih _ _ h with hdealt | ⟨v, hv, hresends, hreason⟩
      · rcases pollContact_resent hdealt with hasked | ⟨hresends, hreason⟩
        · exact .inl (hask.resent hasked)
        · exact .inr ⟨_, List.mem_cons_self, hresends, hsettings ▸ hreason⟩
      · refine .inr ⟨v, List.mem_cons_of_mem _ hv, hresends, ?_⟩
        rw [hreason, (pollContact_still ..).settings, hsettings]
    · rw [hanswer] at hask
      rw [pollRest_of_wait hanswer] at h
      exact .inl (hask.resent h)

end Resent

end Session

namespace Stretch

def visits (x : Stretch) : List Visit :=
  match x.resumed with
  | none =>
    match x.before.awaitingGroup? with
    | none => []
    | some group => Session.visits group x.before x.before.parked
  | some p =>
    let (s, mask) := x.before.receive p.wait.query
    ⟨p.group, p.current, mask.status, s⟩ ::
      Session.visits p.group (s.pollContact p.group p.report p.current mask.status).1 p.rest

/-- What a stretch finds out, it finds out at its visits. -/
theorem findings_eq (x : Stretch) : x.findings = x.visits.map Visit.finding := by
  obtain ⟨byPoller, _ | p, s⟩ := x
  · cases hgroup : s.awaitingGroup? with
    | none => simp [findings, visits, hgroup]
    | some group => simp [findings, visits, hgroup, Session.findings_eq_map_visits]
  · simp only [findings, visits, Session.findings_eq_map_visits, List.map_cons]
    rfl

/-- A stretch re-sends a request at one of its visits. -/
theorem resent {y : Stretch} {before : List Occurrence} {x reason : String}
    (h : y.after.Resent before x reason) : y.before.Resent before x reason ∨
      ∃ v ∈ y.visits, v.ReSends before x ∧ reason = y.before.settings.reRequestReason := by
  obtain ⟨byPoller, _ | p, s⟩ := y
  · cases hgroup : s.awaitingGroup? with
    | none =>
      have hafter : Stretch.after ⟨byPoller, none, s⟩ = s := by simp [after, run, Session.poll, hgroup]
      rw [hafter] at h
      exact .inl h
    | some group =>
      have hafter : Stretch.after ⟨byPoller, none, s⟩ = (s.pollRest group {} s.parked).1 := by
        simp [after, run, Session.poll, Session.parked, hgroup]
      have hvisits : Stretch.visits ⟨byPoller, none, s⟩ = Session.visits group s s.parked := by
        simp [visits, hgroup]
      rw [hafter] at h
      rw [hvisits]
      exact Session.pollRest_resent group s.parked s {} h
  · have hreceived := Session.receive_idle s p.wait.query
    set t := (s.receive p.wait.query).1
    set status := (s.receive p.wait.query).2.status
    have hstill := Session.pollContact_still t p.group p.report p.current status
    set u := (t.pollContact p.group p.report p.current status).1
    have hvisits : Stretch.visits ⟨byPoller, some p, s⟩ =
        ⟨p.group, p.current, status, t⟩ :: Session.visits p.group u p.rest := rfl
    have hrest : (u.pollRest p.group (t.pollContact p.group p.report p.current status).2
        p.rest).1.Resent before x reason := h
    rw [hvisits]
    rcases Session.pollRest_resent p.group p.rest u _ hrest with hdealt | ⟨v, hv, hresends, hreason⟩
    · rcases Session.pollContact_resent hdealt with hbefore | ⟨hresends, hreason⟩
      · exact .inl ((Session.Refrains.of_trace_eq hreceived.trace).resent hbefore)
      · exact .inr ⟨_, List.mem_cons_self, hresends, hreceived.settings ▸ hreason⟩
    · refine .inr ⟨v, List.mem_cons_of_mem _ hv, hresends, ?_⟩
      rw [hreason, hstill.settings, hreceived.settings]

end Stretch

namespace Session

section Resent

variable {s t : Session} {entries : List Entry} {before : List Occurrence} {x reason : String}

/-- A beat re-sends no request, or is a stretch. -/
theorem Beat.refrains_or_stretch (h : Beat s entries t) :
    s.Refrains t ∨ ∃ y, entries = [.stretch y] ∧ y.before = s ∧ t.trace = y.after.trace := by
  cases h with
  | aside _ _ _ trace => exact .inl trace
  | time _ _ => exact .inl (.of_trace_eq rfl)
  | task _ _ _ _ _ trace => exact .inr ⟨_, rfl, rfl, trace⟩
  | tick _ _ _ _ _ trace => exact .inr ⟨_, rfl, rfl, trace⟩
  | goesOn _ _ _ _ trace => exact .inr ⟨_, rfl, rfl, trace⟩
  | login _ _ _ trace => exact .inl trace
  | logout _ _ _ trace => exact .inl trace

/-- Every request that is re-sent on the way is re-sent at a visit of a stretch that is entered. -/
theorem Beats.resent (h : Beats s entries t) (ht : t.Resent before x reason) :
    s.Resent before x reason ∨ ∃ y, .stretch y ∈ entries ∧
      ∃ v ∈ y.visits, v.ReSends before x ∧ reason = y.before.settings.reRequestReason := by
  induction h with
  | refl => exact .inl ht
  | @tail t u entries more _ beat ih =>
    -- it was re-sent before the last beat, or in it
    suffices hnow : t.Resent before x reason ∨ ∃ y, .stretch y ∈ more ∧
        ∃ v ∈ y.visits, v.ReSends before x ∧ reason = y.before.settings.reRequestReason by
      rcases hnow with hearlier | ⟨y, hy, hvisit⟩
      · exact (ih hearlier).imp_right fun ⟨y, hy, hvisit⟩ => ⟨y, List.mem_append_left more hy, hvisit⟩
      · exact .inr ⟨y, List.mem_append_right entries hy, hvisit⟩
    rcases beat.refrains_or_stretch with hrefrains | ⟨y, rfl, rfl, htrace⟩
    · exact .inl (hrefrains.resent ht)
    · obtain ⟨after, hsplit⟩ := ht
      exact (y.resent ⟨after, htrace ▸ hsplit⟩).imp_right fun hvisit => ⟨y, List.mem_singleton.2 rfl, hvisit⟩

end Resent

/-- Whatever happens in a session, the request of a contact is re-sent at most once, and whoever has been seen
stays so. It is re-sent in a stretch of a poll that the run goes through, at a visit: the poll has asked for
the contact, and the answer has told that it is not offline; it lies in the awaiting group, and was not seen
there before. -/
theorem reRequest_at_most_once {a : Assembly} {s₀ : Session} (built : a.build = .ok s₀)
    (steps : List Step) (x : String) :
    (s₀.run steps).reRequestees.count x ≤ 1 ∧
    (∀ more, (s₀.run steps).seen <+: (s₀.run (steps ++ more)).seen) ∧
    ∀ before reason after, (s₀.run steps).trace = before ++ .reRequested x reason :: after →
      ∃ pass y v, Pass pass ∧ (pass.map Entry.stretch).Sublist (s₀.chronicle steps) ∧
        pass.getLast? = some y ∧ x ∈ pass.flatMap Stretch.asked ∧
        v ∈ y.visits ∧ v.identifier = x ∧ v.status ≠ .offline ∧ v.call.trace = before ∧
        (v.call.list.parentGroup? x).map Group.name = some s₀.settings.awaitingGroup ∧
        x ∉ v.session.seen ∧ reason = s₀.settings.reRequestReason := by
  have hfresh := Assembly.fresh_of_build built
  have hpath := run_path hfresh.sound steps
  refine ⟨?_, fun more => ?_, fun before reason after h => ?_⟩
  · have honce : s₀.Once := ⟨by simp [hfresh.seen], by simp [reRequestees, hfresh.trace]⟩
    have hnodup := (honce.path hpath).sent.nodup (honce.path hpath).seen
    exact List.nodup_iff_count.1 hnodup x
  · rw [run_append]
    exact (run_path (run_sound hfresh.sound steps) more).seen
  · obtain ⟨hordered, hprompt⟩ := Arising.settles ⟨a, s₀, [], built, rfl⟩
    have hbeats : Beats s₀ (s₀.chronicle steps) (s₀.run steps) := run_beats hordered hprompt steps
    have hidle : s₀.polls = [] := by
      rw [polls, hfresh.tasks, hfresh.poller]
      rfl
    rcases hbeats.resent ⟨after, h⟩ with ⟨rest, hstart⟩ | ⟨y, entered, v, hv, hresends, hreason⟩
    · simp [hfresh.trace] at hstart
    obtain ⟨-, -, hpasses⟩ := hbeats.passes hidle
    obtain ⟨pass, hpass, hlast, hsublist, hsettings⟩ := hpasses y entered
    obtain ⟨first, latest, haccount⟩ := hpass.account fun y hy =>
      congrArg Settings.awaitingGroup (hsettings y hy)
    have hy : y ∈ pass := List.mem_of_getLast? hlast
    have hfound : v.finding ∈ y.findings := y.findings_eq ▸ List.mem_map_of_mem hv
    have hgroup : v.group.name = s₀.settings.awaitingGroup := haccount.groups y hy v.finding hfound
    -- whoever something is found out of has been asked for
    have hasked : v.identifier ∈ pass.flatMap Stretch.asked := by
      rw [← haccount.found]
      exact List.mem_append_left _ (List.mem_map_of_mem (List.mem_flatMap.2 ⟨y, hy, hfound⟩))
    obtain ⟨rfl, hspots, htrace⟩ := hresends
    refine ⟨pass, y, v, hpass, hsublist, hlast, hasked, hv, rfl, hspots.online, htrace, ?_,
      hspots.unseen, by rw [hreason, hsettings y hy]⟩
    rw [← hgroup]
    exact hspots.parentGroup?

/-- Two polls see a parked contact online; its request is re-sent by the first. -/
theorem reRequest_of_parked_contact :
    let a : Assembly :=
      { connection := some ⟨"12345", true⟩, list := some (.ofRoot "root"), reRequests := true }
    let s₀ : Session :=
      { settings := {}, localIdentifier := "12345", list := .ofRoot "root", desk := ⟨{}, 0, false⟩ }
    let steps : List Step :=
      [.setAnswer none (.respond (.userInfo (.plain "777" .online))),
        .authorizationRequired "777" none, .poll, .poll]
    a.build = .ok s₀ ∧ (s₀.run steps).reRequestees = ["777"] ∧
      (s₀.run steps).reRequestees.count "777" ≤ 1 ∧
      ∃ pass y v, Pass pass ∧ pass.getLast? = some y ∧ v ∈ y.visits ∧ v.identifier = "777" ∧
        (v.call.list.parentGroup? "777").map Group.name = some "Awaiting authorization" := by
  intro a s₀ steps
  have built : a.build = .ok s₀ := rfl
  have hsent : (s₀.run steps).reRequestees = ["777"] := by decide +kernel
  have hcalled : .reRequested "777" s₀.settings.reRequestReason ∈ (s₀.run steps).trace := by
    decide +kernel
  obtain ⟨hcount, -, hcall⟩ := reRequest_at_most_once built steps "777"
  obtain ⟨before, after, htrace⟩ := List.append_of_mem hcalled
  obtain ⟨pass, y, v, hpass, -, hlast, -, hv, hx, -, -, hparked, -, -⟩ := hcall before _ after htrace
  exact ⟨built, hsent, hcount, pass, y, v, hpass, hlast, hv, hx, hparked⟩

end Session

end Roster
