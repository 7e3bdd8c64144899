import Roster.Proofs.Edits
import Roster.Proofs.Ledger
import Roster.Proofs.Passing

/-! Steps on a line. Whatever commands the line takes, a step edits the list in the same way, and what it
says besides is all that differs: so it is a deed, on whatever line, and so is what is due after it. -/

namespace Roster

namespace Session

open ContactList

/-- The application has been asked something or the server told something, and that is all. -/
def Tells (s t : Session) : Prop :=
  ∃ new, t = { s with trace := s.trace ++ new } ∧ ∀ o ∈ new, o.isDealing = true

namespace Tells

theorem refl (s : Session) : s.Tells s := ⟨[], by simp, by simp⟩

variable {s t u : Session}

theorem trans (h₁ : s.Tells t) (h₂ : t.Tells u) : s.Tells u := by
  obtain ⟨new₁, rfl, hnew₁⟩ := h₁
  obtain ⟨new₂, rfl, hnew₂⟩ := h₂
  refine ⟨new₁ ++ new₂, by simp, fun o ho => ?_⟩
  exact (List.mem_append.1 ho).elim (hnew₁ o) (hnew₂ o)

theorem record {o : Occurrence} (h : s.Tells t) (ho : o.isDealing = true) : s.Tells (t.record o) :=
  h.trans ⟨[o], rfl, by simpa using ho⟩

theorem list (h : s.Tells t) : t.list = s.list := by
  obtain ⟨new, rfl, -⟩ := h
  rfl

theorem clockwork (h : s.Tells t) : t.clockwork = s.clockwork := by
  obtain ⟨new, rfl, -⟩ := h
  rfl

theorem quiet (h : s.Tells t) (x : String) : Quiet x s t := by
  obtain ⟨new, rfl, hnew⟩ := h
  refine ⟨rfl, rfl, rfl, rfl, rfl, rfl, rfl, rfl, new, rfl, fun o ho => ?_⟩
  have hdealing := hnew o ho
  cases o with
  | commanded | decided | drafted => rfl
  | _ => cases hdealing

end Tells

/-- The session with whoever is to be asked in its list, if it can be put there. -/
def hosting (s : Session) (x : String) (parent : Option String) : Session :=
  if (s.list.contact? x).isSome then s else (s.park x parent).1

section Tells

variable (line : Line) (s : Session)

theorem sendAllVia_tells (cs : List Command) : s.Tells (s.sendAllVia line cs).1 := by
  obtain ⟨taken, -, htaken⟩ := sendAllVia_fst line s cs
  refine ⟨taken.map .commanded, htaken, fun o ho => ?_⟩
  obtain ⟨c, -, rfl⟩ := List.mem_map.1 ho
  rfl

theorem petitionVia_tells (c : Contact) : s.Tells (s.petitionVia line c).1 := by
  unfold petitionVia
  split
  · exact .refl s
  · next policy _ =>
    have hdrafted : s.Tells (s.record (.drafted s.desk.earlier c.identifier policy.outgoing)) :=
      (Tells.refl s).record rfl
    dsimp only
    split
    · exact hdrafted
    · next p _ =>
      have hsent := hdrafted.trans (sendAllVia_tells line _
        [.grantFutureAuthorization c.identifier p.reason, .requestAuthorization c.identifier p.reason])
      split <;> next h => rwa [h] at hsent

theorem answerVia_tells (x : String) : s.Tells (s.answerVia line x) := by
  unfold answerVia
  split
  · exact .refl s
  · have hdecided (d : Decision) : s.Tells (s.record (.decided s.desk.earlier x d)) :=
      (Tells.refl s).record rfl
    dsimp only
    split
    · exact hdecided _
    · exact (hdecided _).trans (sendAllVia_tells ..)

theorem authorizationRequestedVia_tells (x : String) :
    (s.greeting x).Tells (s.authorizationRequestedVia line x) := by
  rw [authorizationRequestedVia_eq]
  exact answerVia_tells line _ x

theorem authorizationRequiredVia_tells (x : String) (parent : Option String) :
    (s.hosting x parent).Tells (s.authorizationRequiredVia line x parent).1 := by
  unfold authorizationRequiredVia hosting
  cases hx : s.list.contact? x with
  | some c => exact petitionVia_tells line s c
  | none =>
    simp only [Option.isSome_none, Bool.false_eq_true, if_false]
    split <;> next h =>
      rw [h]
      first | exact petitionVia_tells .. | exact .refl _

theorem greeting_quiet (x : String) : Quiet x s (s.greeting x) := by
  unfold greeting
  split
  · exact .refl s
  · exact (Quiet.refl s).withList _

theorem hosting_quiet (x : String) (parent : Option String) : Quiet x s (s.hosting x parent) := by
  unfold hosting
  split
  · exact .refl s
  · exact park_quiet ..

/-- The list after a petition is the same on every line. -/
theorem authorizationRequestedVia_list (x : String) :
    (s.authorizationRequestedVia line x).list = (s.authorizationRequested x).list := by
  have hplain : s.authorizationRequested x = s.authorizationRequestedVia .plain x :=
    (handleVia_plain s (.authorizationRequestReceived x "")).symm
  rw [hplain, (authorizationRequestedVia_tells ..).list, (authorizationRequestedVia_tells ..).list]

theorem authorizationRequiredVia_list (x : String) (parent : Option String) :
    (s.authorizationRequiredVia line x parent).1.list = (s.authorizationRequired x parent).1.list := by
  rw [← authorizationRequiredVia_plain, (authorizationRequiredVia_tells ..).list,
    (authorizationRequiredVia_tells ..).list]

theorem sendAllVia_course (cs : List Command) : Course s (s.sendAllVia line cs).1 := by
  induction cs generalizing s with
  | nil => exact .refl
  | cons c cs ih =>
    unfold sendAllVia sendVia
    split
    · next t h =>
      split at h <;> cases h
      exact .head (.command s c) (ih _)
    · exact .refl

theorem publishVia_begun (requested : Status) (message : String) :
    s.Begun (s.publishVia line requested message) := by
  unfold publishVia
  split
  · exact ⟨.refl, nofun⟩
  · split
    · exact ⟨.refl, nofun⟩
    · exact ⟨.refl, nofun⟩
    · next commands _ =>
      have hsent := sendAllVia_course line s commands
      split
      · next h =>
        rw [h] at hsent
        exact ⟨hsent, nofun⟩
      · next t h =>
        rw [h] at hsent
        have hask : Course s (t.ask t.localIdentifier).1 := hsent.tail (.ask t t.localIdentifier)
        split <;> next ha =>
          rw [ha] at hask
          exact ⟨hask, nofun⟩

theorem publishVia_begins (requested : Status) (message : String) :
    s.Begins none Work.wait (s.publishVia line requested message) := by
  unfold publishVia
  split
  · exact ⟨.refl s, nofun⟩
  · split
    · exact ⟨.refl s, nofun⟩
    · exact ⟨.refl s, nofun⟩
    · next commands _ =>
      have hsent : s.Asks none (s.sendAllVia line commands).1 :=
        .of_clockwork (sendAllVia_tells line s commands).clockwork
      split
      · next hsend =>
        rw [hsend] at hsent
        exact ⟨hsent, nofun⟩
      · next t hsend =>
        rw [hsend] at hsent
        have hask := (ask_begins t t.localIdentifier).of_asks hsent
        split <;> next h =>
          rw [h] at hask
          exact ⟨hask.1, fun w hw => by cases hw <;> exact hask.2 _ rfl⟩

end Tells

section Act

variable (line : Line) {s : Session}

theorem handleVia_of_report {e : ServerEvent} (h : e.isPetition = false) :
    s.handleVia line e = s.handle e := by
  cases e with
  | authorizationRequestReceived => cases h
  | _ => rfl

/-- A step that has nothing to say is the same on every line. -/
theorem actVia_of_silent {step : Step} (h : step.deals = false) : s.actVia line step = s.act step := by
  cases step with
  | emit e | handle e => simp only [actVia, act, handleVia_of_report line h]
  | requireAuthorization | authorizationRequired | publish | setStatusMessage => cases h
  | _ => rfl

theorem handleVia_deed (step : Step) (e : ServerEvent) : Deed s step (s.handleVia line e) := by
  cases e with
  | authorizationRequestReceived x _ =>
    refine .of_edits ((greeting_quiet s x).trans ((authorizationRequestedVia_tells line s x).quiet x)) ?_
    rw [handleVia, authorizationRequestedVia_list]
    exact authorizationRequested_edits s x
  | _ =>
    rw [handleVia_of_report line rfl]
    exact handle_deed step _

theorem authorizationRequiredVia_deed (step : Step) (x : String) (parent : Option String) :
    Deed s step (s.authorizationRequiredVia line x parent).1 := by
  refine .of_edits ((hosting_quiet s x parent).trans
    ((authorizationRequiredVia_tells line s x parent).quiet x)) ?_
  rw [authorizationRequiredVia_list]
  exact authorizationRequired_edits s x parent

theorem setStatusMessageVia_tells (s : Session) (message : String) :
    s.Tells (s.setStatusMessageVia line message).1 := by
  unfold setStatusMessageVia
  split
  · exact .refl s
  · exact sendAllVia_tells ..

theorem actVia_deed (hs : s.Sound) (step : Step) : Deed s step (s.actVia line step).1 := by
  cases step with
  | emit e =>
    simp only [actVia]
    split
    · exact handleVia_deed line _ e
    · exact .course .refl
  | handle e => exact handleVia_deed line _ e
  | requireAuthorization x parent =>
    simp only [actVia]
    split
    · exact authorizationRequiredVia_deed line _ x parent
    · exact .course .refl
  | authorizationRequired x parent => exact authorizationRequiredVia_deed line _ x parent
  | publish status message => exact .course (complete_course hs (publishVia_begun line s status message))
  | setStatusMessage message =>
    rw [actVia, done_fst]
    have htells := setStatusMessageVia_tells line s message
    exact .of_edits (htells.quiet "") (by rw [htells.list]; exact .refl _)
  | _ => exact act_deed hs _

theorem handleVia_edited (e : ServerEvent) :
    (s.handleVia line e).list.bare = (s.list.edited (s.reaction? e)).bare := by
  cases e with
  | authorizationRequestReceived x reason =>
    rw [handleVia, authorizationRequestedVia_list]
    exact handle_edited s (.authorizationRequestReceived x reason)
  | _ => exact handle_edited s _

theorem actVia_edited (hs : s.Sound) (step : Step) :
    (s.actVia line step).1.list.bare = (s.list.edited (s.edit? step)).bare := by
  cases step with
  | emit e =>
    simp only [actVia, edit?]
    split
    · exact handleVia_edited line e
    · rfl
  | handle e => exact handleVia_edited line e
  | requireAuthorization x parent =>
    simp only [actVia, edit?]
    split
    · rw [flagged, authorizationRequiredVia_list, authorizationRequired_edited]
    · rfl
  | authorizationRequired x parent =>
    rw [actVia, flagged, authorizationRequiredVia_list, authorizationRequired_edited, edit?]
  | publish status message =>
    exact (complete_course hs (publishVia_begun line s status message)).frame.list
  | setStatusMessage message =>
    rw [actVia, done_fst, (setStatusMessageVia_tells line s message).list]
    rfl
  | _ => exact act_edited s hs _

theorem clockwork_greeting (x : String) : (s.greeting x).clockwork = s.clockwork := by
  unfold greeting
  split <;> rfl

theorem clockwork_hosting (x : String) (parent : Option String) :
    (s.hosting x parent).clockwork = s.clockwork := by
  have htells := authorizationRequiredVia_tells .plain s x parent
  rw [authorizationRequiredVia_plain] at htells
  exact htells.clockwork.symm.trans (clockwork_authorizationRequired s x parent)

theorem clockwork_handleVia (e : ServerEvent) : (s.handleVia line e).clockwork = s.clockwork := by
  cases e with
  | authorizationRequestReceived x reason =>
    exact (authorizationRequestedVia_tells line s x).clockwork.trans (clockwork_greeting x)
  | _ => exact clockwork_handle s _

theorem clockwork_authorizationRequiredVia (x : String) (parent : Option String) :
    (s.authorizationRequiredVia line x parent).1.clockwork = s.clockwork :=
  (authorizationRequiredVia_tells line s x parent).clockwork.trans (clockwork_hosting x parent)

theorem clockwork_actVia {step : Step} (h : step.isTimed = false) :
    (s.actVia line step).1.clockwork = s.clockwork := by
  cases step with
  | emit e =>
    simp only [actVia]
    split
    · exact clockwork_handleVia line e
    · rfl
  | handle e => exact clockwork_handleVia line e
  | requireAuthorization x parent =>
    simp only [actVia]
    split
    · exact clockwork_authorizationRequiredVia line x parent
    · rfl
  | authorizationRequired x parent => exact clockwork_authorizationRequiredVia line x parent
  | setStatusMessage message =>
    rw [actVia, done_fst]
    exact (setStatusMessageVia_tells line s message).clockwork
  | publish => cases h
  | _ => exact clockwork_act s h

theorem actVia_ordered (hs : s.Ordered) (step : Step) : (s.actVia line step).1.Ordered := by
  by_cases htimed : step.isTimed = false
  · have haside : Aside .foreground s _ := hs.aside_of_clockwork (clockwork_actVia line htimed)
    exact haside.ordered
  · cases step with
    | publish status message =>
      have hother : TaskName.background "" ≠ .foreground := nofun
      exact (complete_passes hs hother (publishVia_begins line s status message)).ordered
    | emit | handle | requireAuthorization | authorizationRequired | setStatusMessage =>
      exact absurd rfl htimed
    | _ => exact act_ordered hs _

theorem reRequests_actVia (step : Step) : (s.actVia line step).1.reRequests = s.reRequests := by
  by_cases htimed : step.isTimed = false
  · exact congrArg Clockwork.reRequests (clockwork_actVia line htimed)
  by_cases hsilent : step.deals = false
  · rw [actVia_of_silent line hsilent]
    exact congrArg Ledger.reRequests (ledger_act s hsilent)
  · cases step with
    | publish status message =>
      have hcompleted := ledger_complete (s.publishVia line status message)
      have hbegins := (publishVia_begins line s status message).1.reRequests
      exact (congrArg Ledger.reRequests hcompleted).trans hbegins
    | emit | handle | requireAuthorization | authorizationRequired | setStatusMessage | setIncoming
    | setOutgoing | replacePolicy => exact absurd rfl htimed
    | _ => exact absurd rfl hsilent

end Act

/-- A session in good order, in which nothing is due. -/
structure Calm (s : Session) : Prop where
  sound : s.Sound
  ordered : s.Ordered
  prompt : s.Prompt

theorem Prompt.of_clockwork {s t : Session} (h : t.clockwork = s.clockwork) (hs : s.Prompt) :
    t.Prompt := by
  obtain ⟨-, htasks, hpoller, hnow, -, -⟩ := Clockwork.mk.inj h
  have hwaits : t.waits = s.waits := by rw [Session.waits, Session.waits, htasks, hpoller]
  exact ⟨by rw [hwaits, hnow]; exact hs.waits, by rw [hpoller, hnow]; exact hs.poller⟩

section Calm

variable (line : Line) {s : Session}

/-- Where nothing takes time, nothing is due afterwards. -/
theorem Calm.performVia_eq (hs : s.Calm) {step : Step} (h : step.isTimed = false) :
    (s.performVia line step).1 = (s.actVia line step).1 :=
  (hs.prompt.of_clockwork (clockwork_actVia line h)).settle

theorem Calm.performVia (hs : s.Calm) (step : Step) : (s.performVia line step).1.Calm := by
  have hsound := (actVia_deed line hs.sound step).sound hs.sound
  have hsettles := settle_settles (actVia_ordered line hs.ordered step)
  exact ⟨(settle_course hsound).sound hsound, hsettles.ordered, hsettles.prompt⟩

theorem Calm.runVia (hs : s.Calm) (moves : List (Line × Step)) : (s.runVia moves).Calm := by
  induction moves generalizing s with
  | nil => exact hs
  | cons move moves ih => exact ih (hs.performVia move.1 move.2)

/-- A step on a line is a deed as a whole. -/
theorem Calm.performVia_deed (hs : s.Calm) (step : Step) : Deed s step (s.performVia line step).1 := by
  have hdeed := actVia_deed line hs.sound step
  by_cases htimed : step.isTimed = false
  · rwa [hs.performVia_eq line htimed]
  · -- what takes time edits nothing, so it makes one course with what is due after it
    have hact : Course s (s.actVia line step).1 := by
      cases step with
      | publish status message => exact complete_course hs.sound (publishVia_begun line s status message)
      | deliver | registrationChanged | query | queryMask | poll | spawnPoll | spawnQuery | join
      | advance => exact act_course hs.sound rfl
      | _ => exact absurd rfl htimed
    exact .course (hact.trans (settle_course (hact.sound hs.sound)))

theorem performVia_edited (hs : s.Sound) (step : Step) :
    (s.performVia line step).1.list.bare = (s.list.edited (s.edit? step)).bare :=
  (settle_course ((actVia_deed line hs step).sound hs)).frame.list.trans (actVia_edited line hs step)

theorem performVia_settings (hs : s.Sound) (step : Step) :
    (s.performVia line step).1.settings = s.settings :=
  (settle_course ((actVia_deed line hs step).sound hs)).frame.settings.trans
    (actVia_deed line hs step).settings

theorem reRequests_performVia (step : Step) : (s.performVia line step).1.reRequests = s.reRequests :=
  (congrArg Ledger.reRequests (ledger_settle _)).trans (reRequests_actVia line step)

theorem reRequests_runVia (moves : List (Line × Step)) : (s.runVia moves).reRequests = s.reRequests := by
  induction moves generalizing s with
  | nil => rfl
  | cons move moves ih => exact ih.trans (reRequests_performVia move.1 move.2)

end Calm

end Session

theorem Assembly.calm_of_build {a : Assembly} {s : Session} (h : a.build = .ok s) : s.Calm := by
  have hsettles := Session.Reachable.settles ⟨a, s, [], h, rfl⟩
  exact ⟨(fresh_of_build h).sound, hsettles.1, hsettles.2⟩

end Roster
