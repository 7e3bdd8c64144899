import Roster.Proofs.Course.Time

/-! Operations on the list are quiet: they ask nothing, re-send nothing, wait for nothing and say
nothing about anybody's presence. An operation on one contact moves no other, and the application is
told how no other has decided. What becomes of the list is stated operation by operation. -/

namespace Roster

/-- Something that an operation on a contact brings about. -/
def Occurrence.isQuiet (x : String) : Occurrence → Bool
  | .delivered _ (.subscription _) | .delivered _ (.group _) => true
  | .delivered _ (.moved m) => m.contact.identifier = x
  | .informed _ y _ => y = x
  | .delivered .. | .requested _ | .reRequested .. => false
  | _ => true

namespace Session

structure Quiet (x : String) (s s' : Session) : Prop where
  settings : s'.settings = s.settings
  hub : s'.hub = s.hub
  desk : s'.desk = s.desk
  own : s'.own = s.own
  seen : s'.seen = s.seen
  queries : s'.queries = s.queries
  tasks : s'.tasks = s.tasks
  poller : s'.poller = s.poller
  trace : ∃ new, s'.trace = s.trace ++ new ∧ ∀ o ∈ new, o.isQuiet x = true

namespace Quiet

variable {x : String}

theorem refl (s : Session) : Quiet x s s :=
  ⟨rfl, rfl, rfl, rfl, rfl, rfl, rfl, rfl, [], (List.append_nil _).symm, by simp⟩

theorem trans {s t u : Session} (h₁ : Quiet x s t) (h₂ : Quiet x t u) : Quiet x s u := by
  obtain ⟨new₁, e₁, hn₁⟩ := h₁.trace
  obtain ⟨new₂, e₂, hn₂⟩ := h₂.trace
  refine ⟨h₂.settings.trans h₁.settings, h₂.hub.trans h₁.hub, h₂.desk.trans h₁.desk,
    h₂.own.trans h₁.own, h₂.seen.trans h₁.seen, h₂.queries.trans h₁.queries, h₂.tasks.trans h₁.tasks,
    h₂.poller.trans h₁.poller, new₁ ++ new₂, by rw [e₂, e₁, List.append_assoc], ?_⟩
  intro o ho
  exact (List.mem_append.1 ho).elim (hn₁ o) (hn₂ o)

theorem sound {s s' : Session} (h : Quiet x s s') (hs : s.Sound) : s'.Sound := by
  obtain ⟨new, e, hnew⟩ := h.trace
  have hasked : s'.asked = s.asked := by
    refine asked_append e fun o ho => ?_
    have hq := hnew o ho
    cases o with
    | requested r => cases hq
    | _ => rfl
  refine ⟨by rw [h.queries, hasked, hs.numbered], fun p hp => ?_⟩
  rw [polls, h.tasks, h.poller] at hp
  have := hs.awaited p hp
  exact ⟨by rw [h.settings]; exact this.1, by rw [hasked]; exact this.2⟩

theorem withList {s t : Session} (h : Quiet x s t) (list : ContactList) :
    Quiet x s { t with list := list } :=
  { h with }

theorem record {s t : Session} (h : Quiet x s t) {o : Occurrence} (ho : o.isQuiet x = true) :
    Quiet x s (t.record o) :=
  h.trans ⟨rfl, rfl, rfl, rfl, rfl, rfl, rfl, rfl, [o], rfl, by simpa using ho⟩

/-- A notice about the list, not about presence. -/
theorem announce {s t : Session} (h : Quiet x s t) {n : Notice}
    (hn : ∀ l, (Occurrence.delivered l n).isQuiet x = true) : Quiet x s (t.announce n) := by
  refine h.trans ⟨rfl, rfl, rfl, rfl, rfl, rfl, rfl, rfl, t.deliveries n, rfl, fun o ho => ?_⟩
  obtain ⟨l, -, rfl⟩ := List.mem_map.1 ho
  exact hn l

theorem announceListed {s t : Session} (h : Quiet x s t) {n : Notice}
    (hn : ∀ l, (Occurrence.delivered l n).isQuiet x = true) : Quiet x s (t.announceListed n) := by
  unfold Session.announceListed
  split
  · exact h.announce hn
  · exact h

theorem commit {s t : Session} {op : ListOperation} (h : s.commit op = .ok t) : Quiet x s t := by
  unfold Session.commit at h
  split at h
  · cases h
  · cases h
    exact (refl s).record rfl

theorem send {s t : Session} {c : Command} (h : s.send c = .ok t) : Quiet x s t := by
  unfold Session.send at h
  split at h
  · cases h
  · cases h
    exact (refl s).record rfl

theorem guarded {α : Type} {s : Session} {check : Except Failure α}
    {next : α → Session × Except Failure Unit} (h : ∀ a, Quiet x s (next a).1) :
    Quiet x s (s.guarded check next).1 := by
  unfold Session.guarded
  split
  · exact refl s
  · exact h _

end Quiet

theorem addContact_quiet (s : Session) (group : Option String) (x : String) :
    Quiet x s (s.addContact group x).1 := by
  unfold addContact
  split
  · exact .refl s
  · next h => exact ((Quiet.commit h).withList _).announceListed fun _ => rfl

theorem deleteContact_quiet (s : Session) (group x : String) :
    Quiet x s (s.deleteContact group x).1 := by
  unfold deleteContact
  split
  · exact .refl s
  · next h =>
    split
    · exact .commit h
    · exact ((Quiet.commit h).withList _).announceListed fun _ => rfl

theorem shiftContact_quiet (s : Session) (x group : String) :
    Quiet x s (s.shiftContact x group).1 := by
  unfold shiftContact
  split
  · exact .refl s
  · next h =>
    dsimp only
    split
    · exact .commit h
    · split
      · next hc =>
        have hid := ContactList.identifier_of_contact? hc
        exact ((Quiet.commit h).withList _).announceListed fun _ => by
          simp [Occurrence.isQuiet, hid]
      · exact (Quiet.commit h).withList _

theorem storeGroup_quiet (s : Session) (x name : String) : Quiet x s (s.storeGroup name).1 := by
  unfold storeGroup
  split
  · exact .refl s
  · next h => exact ((Quiet.commit h).withList _).announceListed fun _ => rfl

theorem dropGroup_quiet (s : Session) (x name : String) : Quiet x s (s.dropGroup name).1 := by
  unfold dropGroup
  split
  · exact .refl s
  · next h =>
    dsimp only
    split
    · exact (Quiet.commit h).withList _
    · exact ((Quiet.commit h).withList _).announceListed fun _ => rfl

theorem retitleGroup_quiet (s : Session) (x name newName : String) :
    Quiet x s (s.retitleGroup name newName).1 := by
  unfold retitleGroup
  split
  · exact .refl s
  · next h =>
    dsimp only
    split
    · exact (Quiet.commit h).withList _
    · exact ((Quiet.commit h).withList _).announceListed fun _ => rfl

theorem unsubscribe_quiet (s : Session) (x : String) : Quiet x s (s.unsubscribe x).1 := by
  refine .guarded fun (contact, group) => ?_
  dsimp only
  split
  · exact .guarded fun _ => ((Quiet.refl s).withList _).announce fun _ => rfl
  · split
    · exact deleteContact_quiet ..
    · exact deleteContact_quiet ..

theorem createUnresolvedContact_quiet (s : Session) (x : String) (data parent : Option String) :
    Quiet x s (s.createUnresolvedContact x data parent).1 := by
  unfold createUnresolvedContact
  dsimp only
  split
  · exact (Quiet.refl s).withList _
  · exact .refl s

theorem ensureAwaitingGroup_quiet (s : Session) (x : String) : Quiet x s s.ensureAwaitingGroup.1 := by
  unfold ensureAwaitingGroup
  split
  · exact .refl s
  · exact ((Quiet.refl s).withList _).announce fun _ => rfl

theorem park_quiet (s : Session) (x : String) (parent : Option String) :
    Quiet x s (s.park x parent).1 := by
  unfold park
  dsimp only
  split
  · exact .refl s
  · next contact hcreated =>
    have hid : contact.identifier = x := by
      unfold ContactList.createUnresolved at hcreated
      split at hcreated
      · cases hcreated
        rfl
      · cases hcreated
    split
    · exact (Quiet.refl s).withList _
    · next list _ =>
      have hensure : Quiet x s ({ s with list := list } : Session).ensureAwaitingGroup.1 :=
        ((Quiet.refl s).withList list).trans (ensureAwaitingGroup_quiet _ x)
      split
      · exact hensure
      · exact (hensure.withList _).announce fun _ => by simp [Occurrence.isQuiet, hid]

theorem release_quiet (s : Session) (c : Contact) : Quiet c.identifier s (s.release c).1 := by
  unfold release
  dsimp only
  split
  · exact .refl s
  · split
    · exact (Quiet.refl s).withList _
    · split
      · exact (Quiet.refl s).withList _
      · exact ((Quiet.refl s).withList _).announce fun _ => by simp [Occurrence.isQuiet]

theorem identifier_of_release {s t : Session} {c c' : Contact} (h : s.release c = (t, .ok c')) :
    c'.identifier = c.identifier := by
  unfold release at h
  dsimp only at h
  split at h
  · cases h
  · split at h
    · cases h
      rfl
    · split at h
      · cases h
      · cases h
        rfl

theorem sendAll_quiet (s : Session) (x : String) (cs : List Command) : Quiet x s (s.sendAll cs).1 := by
  induction cs generalizing s with
  | nil => exact .refl s
  | cons c cs ih =>
    unfold sendAll
    split
    · next h => exact (Quiet.send h).trans (ih _)
    · exact .refl s

theorem petition_quiet (s : Session) (x : String) (c : Contact) : Quiet x s (s.petition c).1 := by
  unfold petition
  split
  · exact .refl s
  · next policy _ =>
    dsimp only
    split
    · exact (Quiet.refl s).record rfl
    · next petition _ =>
      have hdrafted : Quiet x s
          (s.record (.drafted s.desk.earlier c.identifier policy.outgoing)) :=
        (Quiet.refl s).record rfl
      have hsent := hdrafted.trans (sendAll_quiet _ x [.grantFutureAuthorization c.identifier petition.reason,
          .requestAuthorization c.identifier petition.reason])
      split
      · next h => rwa [h] at hsent
      · next h => rwa [h] at hsent

theorem authorizationRequired_quiet (s : Session) (x : String) (parent : Option String) :
    Quiet x s (s.authorizationRequired x parent).1 := by
  unfold authorizationRequired
  split
  · exact petition_quiet ..
  · have hpark := park_quiet s x parent
    split
    · next h => exact (by rwa [h] at hpark : Quiet x s _).trans (petition_quiet ..)
    · next h => rwa [h] at hpark

/-- What somebody who asks us is answered. -/
def answer (s : Session) (x : String) : Session :=
  match s.desk.policy? with
  | none => s
  | some policy =>
    let decided := s.record (.decided s.desk.earlier x policy.incoming)
    if policy.incoming.verdict = .ignore then decided
    else (decided.sendAll [.authorizationReply x (policy.incoming.verdict = .accept)
      policy.incoming.reason]).1

/-- A stranger is added before it is answered. -/
theorem authorizationRequested_eq (s : Session) (x : String) : s.authorizationRequested x =
    if (s.list.contact? x).isSome then s.answer x else (s.createVolatileContact x).1.answer x := by
  have hdesk : (s.createVolatileContact x).1.desk.policy? = s.desk.policy? := rfl
  have hnew : (s.createVolatileContact x).2.identifier = x := rfl
  unfold authorizationRequested answer
  cases h : s.list.contact? x with
  | some c =>
    have hc := ContactList.identifier_of_contact? h
    cases hp : s.desk.policy? with
    | none => simp [hp]
    | some policy => cases hv : policy.incoming.verdict <;> simp [hp, hv, hc]
  | none =>
    cases hp : s.desk.policy? with
    | none => simp [hdesk, hp]
    | some policy => cases hv : policy.incoming.verdict <;> simp [hdesk, hp, hv, hnew]

theorem answer_quiet (s : Session) (x : String) : Quiet x s (s.answer x) := by
  unfold answer
  split
  · exact .refl s
  · have hdecided (d : Decision) : Quiet x s (s.record (.decided s.desk.earlier x d)) :=
      (Quiet.refl s).record rfl
    dsimp only
    split
    · exact hdecided _
    · exact (hdecided _).trans (sendAll_quiet ..)

theorem authorizationRequested_quiet (s : Session) (x : String) :
    Quiet x s (s.authorizationRequested x) := by
  rw [authorizationRequested_eq]
  split
  · exact answer_quiet s x
  · exact ((Quiet.refl s).withList _).trans (answer_quiet (s.createVolatileContact x).1 x)

theorem inform_quiet (s : Session) (c : Contact) (outcome : Decision) :
    Quiet c.identifier s (s.inform c outcome) := by
  unfold inform
  split
  · exact .refl s
  · exact (Quiet.refl s).record (by simp [Occurrence.isQuiet])

theorem authorizationAccepted_quiet (s : Session) (x : String) (reason : Option String) :
    Quiet x s (s.authorizationAccepted x reason) := by
  unfold authorizationAccepted
  split
  · exact .refl s
  · next c hc =>
    obtain rfl := ContactList.identifier_of_contact? hc
    have hrelease := release_quiet s c
    split
    · next t c' h =>
      have hid : c'.identifier = c.identifier := identifier_of_release h
      rw [h] at hrelease
      exact hrelease.trans (hid ▸ inform_quiet t c' _)
    · next h => rwa [h] at hrelease

theorem authorizationDenied_quiet (s : Session) (x : String) (reason : Option String) :
    Quiet x s (s.authorizationDenied x reason) := by
  unfold authorizationDenied
  split
  · exact .refl s
  · next c hc =>
    obtain rfl := ContactList.identifier_of_contact? hc
    exact (inform_quiet s c _).trans (unsubscribe_quiet ..)

end Session

end Roster
