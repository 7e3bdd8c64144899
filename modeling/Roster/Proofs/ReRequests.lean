import Roster.Proofs.Clockwork
import Roster.Proofs.Runs

/-! Re-sent requests. Only a poll re-sends any: that of a contact which it has just seen online in the
awaiting group, if it has never seen it so before; whom it has seen is never forgotten. -/

namespace Roster

/-- Whom a request was re-sent to. -/
def Occurrence.reRequested? : Occurrence → Option String
  | .reRequested x _ => some x
  | _ => none

theorem Occurrence.reRequested?_of_isPlain {o : Occurrence} (h : o.isPlain = true) :
    o.reRequested? = none := by
  cases o with
  | reRequested => cases h
  | _ => rfl

namespace Session

/-- Whom requests were re-sent to, in order. -/
def reRequestees (s : Session) : List String := s.trace.filterMap Occurrence.reRequested?

/-- No request is re-sent on the way from one session to another. -/
def Refrains (s t : Session) : Prop :=
  ∃ new, t.trace = s.trace ++ new ∧ ∀ o ∈ new, o.reRequested? = none

namespace Refrains

variable {s t u : Session}

theorem of_trace_eq (h : t.trace = s.trace) : s.Refrains t := ⟨[], by simpa using h, by simp⟩

theorem refl (s : Session) : s.Refrains s := of_trace_eq rfl

theorem trans (h₁ : s.Refrains t) (h₂ : t.Refrains u) : s.Refrains u := by
  obtain ⟨new₁, e₁, hnew₁⟩ := h₁
  obtain ⟨new₂, e₂, hnew₂⟩ := h₂
  refine ⟨new₁ ++ new₂, by rw [e₂, e₁, List.append_assoc], fun o ho => ?_⟩
  exact (List.mem_append.1 ho).elim (hnew₁ o) (hnew₂ o)

theorem foldl {α : Type} {f : Session → α → Session} (h : ∀ (s : Session) (a : α), s.Refrains (f s a))
    (as : List α) (s : Session) : s.Refrains (as.foldl f s) := by
  induction as generalizing s with
  | nil => exact refl s
  | cons a as ih => exact (h s a).trans (ih (f s a))

theorem reRequestees (h : s.Refrains t) : t.reRequestees = s.reRequestees := by
  obtain ⟨new, htrace, hnew⟩ := h
  rw [Session.reRequestees, htrace, List.filterMap_append, List.filterMap_eq_nil_iff.2 hnew,
    List.append_nil]
  rfl

end Refrains

theorem Plain.refrains {s t : Session} (h : s.Plain t) : s.Refrains t := by
  obtain ⟨new, htrace, hnew⟩ := h.trace
  exact ⟨new, htrace, fun o ho => Occurrence.reRequested?_of_isPlain (hnew o ho)⟩

theorem Quiet.refrains {s t : Session} {x : String} (h : Quiet x s t) : s.Refrains t := by
  obtain ⟨new, htrace, hnew⟩ := h.trace
  exact ⟨new, htrace, fun o ho =>
    Occurrence.reRequested?_of_isPlain (Occurrence.isPlain_of_isQuiet (hnew o ho))⟩

theorem applyStatus_refrains (s : Session) (x : String) (status : Status) (parent : Option Group) :
    s.Refrains (s.applyStatus x status parent).1 := by
  cases h : s.list.contact? x with
  | none =>
    rw [applyStatus_of_unknown h]
    exact .refl s
  | some old =>
    rw [applyStatus_of_known h]
    refine ⟨_, rfl, fun o ho => ?_⟩
    split at ho
    · cases ho
    · obtain ⟨l, -, rfl⟩ := List.mem_map.1 ho
      rfl

theorem register_refrains (s : Session) : s.Refrains s.register := by
  unfold register
  dsimp only
  split <;> exact .of_trace_eq rfl

theorem disconnect_refrains (s : Session) : s.Refrains s.disconnect := by
  have hreset : s.Refrains s.stopPolling.resetStatus := (resetStatus_plain s.stopPolling).refrains
  have hsilenced (t : Session) (g : Group) : t.Refrains (t.silenceGroup g) :=
    Refrains.foldl (fun t (c : Contact) => applyStatus_refrains t c.identifier .offline (some g)) _ t
  exact hreset.trans (Refrains.foldl hsilenced _ _)

theorem query_refrains (s : Session) (x : String) : s.Refrains (s.query x).1 := by
  have hask := (ask_plain s x).refrains
  unfold query
  split
  · exact .refl s
  · split <;> next h => rwa [h] at hask

theorem queryMask_refrains (s : Session) (x : String) : s.Refrains (s.queryMask x).1 := by
  have hask := (ask_plain s x).refrains
  unfold queryMask
  split <;> next h => rwa [h] at hask

theorem publish_refrains (s : Session) (status : Status) (message : String) :
    s.Refrains (s.publish status message).1 := by
  unfold publish
  split
  · exact .refl s
  · split
    · exact .refl s
    · exact .refl s
    · next commands _ =>
      have hsent := (sendAll_quiet s "" commands).refrains
      split
      · next h => rwa [h] at hsent
      · next t h =>
        rw [h] at hsent
        have hask := hsent.trans (ask_plain t t.localIdentifier).refrains
        split <;> next h => rwa [h] at hask

theorem handle_refrains (s : Session) (e : ServerEvent) : s.Refrains (s.handle e) := by
  cases report : e.isReport with
  | false =>
    obtain ⟨x, hquiet⟩ := handle_quiet s report
    exact hquiet.refrains
  | true =>
    cases e with
    | ownInfo info => exact (ownInfo_plain s info).refrains
    | ownExtraInfo message => exact (ownMessage_plain s message).refrains
    | buddyStatus | buddyOffline => exact applyStatus_refrains ..
    | buddyIcon x icon => exact (buddyIcon_plain s x icon).refrains
    | futureAuthorizationGranted | youWereAdded => exact .refl s
    | _ => cases report

/-- A step that lets nobody go on re-sends no request. -/
theorem act_refrains (s : Session) {step : Step} (h : step.isTimed = false) :
    s.Refrains (s.act step).1 := by
  cases party : step.isParty with
  | true =>
    cases step with
    | addListener | removeListener | setIncoming | setOutgoing | replacePolicy => exact .of_trace_eq rfl
    | _ => cases party
  | false =>
    cases report : step.isReport with
    | false =>
      obtain ⟨x, hquiet⟩ := act_quiet s report party
      exact hquiet.refrains
    | true =>
      cases step with
      | setRegistered | refuseCommands | refuseListChanges | failReRequests | rest =>
        exact .of_trace_eq rfl
      | setAnswer x => cases x <;> exact .of_trace_eq rfl
      | emit e =>
        simp only [act]
        split
        · exact handle_refrains s e
        · exact .refl s
      | handle e => exact handle_refrains s e
      | ownInfo info => exact (ownInfo_plain s info).refrains
      | ownMessage message => exact (ownMessage_plain s message).refrains
      | buddyStatus | buddyOffline => exact applyStatus_refrains ..
      | setStatusMessage message =>
        rw [act, done_fst, setStatusMessage]
        split
        · exact .refl s
        · exact (sendAll_quiet s "" _).refrains
      | deliver | registrationChanged | publish | query | queryMask | poll | spawnPoll | spawnQuery
      | join | advance => cases h
      | _ => cases report

/-- No request is re-sent; somebody may be seen for the first time. -/
structure Withholds (s s' : Session) : Prop where
  seen : s'.seen = s.seen ∨ ∃ x ∉ s.seen, s'.seen = s.seen ++ [x]
  trace : s.Refrains s'

theorem Plain.withholds {s s' : Session} (h : s.Plain s') : s.Withholds s' := ⟨.inl h.seen, h.refrains⟩

theorem Quiet.withholds {s s' : Session} {x : String} (h : Quiet x s s') : s.Withholds s' :=
  ⟨.inl h.seen, h.refrains⟩

theorem applyStatus_withholds (s : Session) (x : String) (status : Status) (parent : Option Group) :
    s.Withholds (s.applyStatus x status parent).1 :=
  ⟨.inl (applyStatus_fields s x status parent).1, applyStatus_refrains s x status parent⟩

theorem Plain.trans_withholds {s t u : Session} (h : s.Plain t) (ht : t.Withholds u) :
    s.Withholds u :=
  ⟨by rw [← h.seen]; exact ht.seen, h.refrains.trans ht.trace⟩

/-- A poll has learnt the status of a contact: it lies in the group still, and is seen online for the first
time. -/
structure Spots (s : Session) (group : Group) (x : String) (status : Status) : Prop where
  parked : (s.list.parentGroup? x).map Group.name = some group.name
  online : status ≠ .offline
  unseen : x ∉ s.seen

/-- The session in which the poll re-sends the request then: the status has been written down, and the contact
is among those seen. -/
def spotted (s : Session) (group : Group) (x : String) (status : Status) : Session :=
  { (s.applyStatus x status (some group)).1 with seen := s.seen ++ [x] }

theorem spotted_refrains (s : Session) (group : Group) (x : String) (status : Status) :
    s.Refrains (s.spotted group x status) :=
  (applyStatus_refrains s x status (some group)).trans (.of_trace_eq rfl)

theorem spotted_settings (s : Session) (group : Group) (x : String) (status : Status) :
    (s.spotted group x status).settings = s.settings :=
  (applyStatus_still s x status (some group)).settings

/-- A status does not move the contact. -/
theorem Spots.parentGroup? {s : Session} {group : Group} {x : String} {status : Status}
    (h : s.Spots group x status) :
    ((s.spotted group x status).list.parentGroup? x).map Group.name = some group.name := by
  have hstill := (applyStatus_still s x status (some group)).list
  rw [spotted, ContactList.parentGroup?_of_bare_eq hstill]
  exact h.parked

/-- The request is re-sent last of all. -/
theorem pollContact_withholds_or_spots (s : Session) (group : Group) (report : PollReport) (x : String)
    (status : Status) : s.Withholds (s.pollContact group report x status).1 ∨
      s.Spots group x status ∧ (s.pollContact group report x status).1 =
        (s.spotted group x status).record (.reRequested x s.settings.reRequestReason) := by
  have happly := applyStatus_withholds s x status (some group)
  have hdealt := pollContact_fst s group report x status
  by_cases hin : (s.list.parentGroup? x).map Group.name = some group.name
  · by_cases hnew : status.isOnline ∧ x ∉ s.seen
    · simp only [hin, hnew, if_true, not_false_eq_true, and_self] at hdealt
      have hspots : s.Spots group x status := ⟨hin, by rintro rfl; exact absurd hnew.1 (by decide), hnew.2⟩
      by_cases hre : s.reRequests
      · exact .inr ⟨hspots, by rw [hdealt]; simp [hre, record, spotted]⟩
      · refine .inl ⟨.inr ⟨x, hnew.2, by rw [hdealt]⟩, happly.trace.trans (.of_trace_eq ?_)⟩
        rw [hdealt]
        simp [hre]
    · simp only [hin, hnew, if_true, if_false] at hdealt
      rw [hdealt]
      exact .inl happly
  · simp only [hin, if_false] at hdealt
    rw [hdealt]
    exact .inl ⟨.inl rfl, .refl s⟩

/-- In the session `u`, which has come from `s`, a poll re-sends the request of a contact: that lies in the
awaiting group, and has not been seen there in `s`. -/
structure ReSends (s u : Session) (x : String) : Prop where
  parked : (u.list.parentGroup? x).map Group.name = some u.settings.awaitingGroup
  new : x ∉ s.seen
  seen : u.seen = s.seen ++ [x]
  trace : s.Refrains u

theorem polled_reSends {s t : Session} {group : Group} {x : String} {status : Status}
    (report : PollReport) (awaiting : group.name = s.settings.awaitingGroup)
    (learns : Learns group x status s t) :
    s.Withholds (t.pollContact group report x status).1 ∨
      ∃ u, s.ReSends u x ∧ (t.pollContact group report x status).1 =
        u.record (.reRequested x u.settings.reRequestReason) := by
  have hlearnt := learns.plain
  have hsettings := spotted_settings t group x status
  rcases pollContact_withholds_or_spots t group report x status with hnot | ⟨hspots, hcall⟩
  · exact .inl (hlearnt.trans_withholds hnot)
  · refine .inr ⟨t.spotted group x status, ⟨?_, ?_, ?_, ?_⟩, ?_⟩
    · rw [hspots.parentGroup?, awaiting, hsettings, learns.still.settings]
    · rw [← hlearnt.seen]
      exact hspots.unseen
    · exact congrArg (· ++ [x]) hlearnt.seen
    · exact hlearnt.refrains.trans (spotted_refrains t group x status)
    · rw [hcall, hsettings]

theorem Stride.reSends {s s' : Session} (h : Stride s s') :
    s.Withholds s' ∨
      ∃ u x, s.ReSends u x ∧ s' = u.record (.reRequested x u.settings.reRequestReason) := by
  cases h with
  | turn turn =>
    cases turn.news with
    | plain plain => exact .inl plain.withholds
    | report x status parent => exact .inl (applyStatus_withholds s x status parent)
    | @polled t group x status report awaiting learns =>
      exact (polled_reSends report awaiting learns).imp_right fun ⟨u, hu⟩ => ⟨u, x, hu⟩
  | edit quiet => exact .inl quiet.withholds
  | parties => exact .inl ⟨.inl rfl, .of_trace_eq rfl⟩

/-- Whoever a request was re-sent to has been seen, and nobody is seen for the first time twice. -/
structure Once (s : Session) : Prop where
  seen : s.seen.Nodup
  sent : s.reRequestees.Sublist s.seen

theorem Once.stride {s s' : Session} (hs : s.Once) (h : Stride s s') : s'.Once := by
  have hadd {x : String} (hx : x ∉ s.seen) : (s.seen ++ [x]).Nodup := by
    rw [← List.concat_eq_append]
    exact List.Nodup.concat hx hs.seen
  rcases h.reSends with ⟨hseen, htrace⟩ | ⟨u, x, hu, rfl⟩
  · have hsent := htrace.reRequestees
    rcases hseen with hseen | ⟨x, hx, hseen⟩
    · exact ⟨hseen ▸ hs.seen, by rw [hsent, hseen]; exact hs.sent⟩
    · refine ⟨hseen ▸ hadd hx, ?_⟩
      rw [hsent, hseen]
      exact hs.sent.trans (List.sublist_append_left _ _)
  · have hsent := hu.trace.reRequestees
    refine ⟨hu.seen ▸ hadd hu.new, ?_⟩
    have hlast : (u.record (.reRequested x u.settings.reRequestReason)).reRequestees =
        s.reRequestees ++ [x] := by
      rw [reRequestees, record, List.filterMap_append, ← hsent]
      rfl
    rw [hlast]
    exact hu.seen ▸ hs.sent.append (List.Sublist.refl [x])

theorem Once.path {s s' : Session} (hs : s.Once) (h : Path s s') : s'.Once := by
  induction h with
  | refl => exact hs
  | tail _ stride ih => exact ih.stride stride

theorem Stride.seen {s s' : Session} (h : Stride s s') : s.seen <+: s'.seen := by
  cases h with
  | turn turn => exact turn.frame.seen
  | edit quiet => exact quiet.seen ▸ List.prefix_refl _
  | parties => exact List.prefix_refl _

theorem Path.seen {s s' : Session} (h : Path s s') : s.seen <+: s'.seen := by
  induction h with
  | refl => exact List.prefix_refl _
  | tail _ stride ih => exact ih.trans stride.seen

end Session

end Roster
