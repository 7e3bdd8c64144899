import Roster.Proofs.OwnPresence
import Roster.Proofs.QueryOutcome

/-! The statuses that an account can be in, and those that it reports. To publish another one is refused, but
what the server says is taken as it comes: of an account that knows online, away and invisible it may say
anything else with a mask, and neither our own status nor what a query comes to is kept from that. -/

namespace Roster

namespace AccountMode

theorem mem_supported_extended (s : Status) : s ∈ extended.supported := by cases s <;> decide

theorem offline_mem_supported (mode : AccountMode) : .offline ∈ mode.supported := by cases mode <;> decide

theorem online_mem_supported (mode : AccountMode) : .online ∈ mode.supported := by cases mode <;> decide

/-- A mask that is not known says nothing that an account cannot be in, and is read as being online. -/
theorem mem_supported_orOnline_iff (mode : AccountMode) (m : Mask) :
    (if m.isUnknown then Mask.online else m).status ∈ mode.supported ↔ m.status ∈ mode.supported := by
  split
  · next hunknown =>
    have hoffline : m.status = .offline := by rw [Mask.status, if_pos hunknown]
    rw [hoffline]
    exact iff_of_true mode.online_mem_supported mode.offline_mem_supported
  · exact .rfl

theorem ownMask_mem_supported_iff (mode : AccountMode) (info : UserInfo) :
    (mode.ownMask info).status ∈ mode.supported ↔
      info.away = some true ∨ info.mask.status ∈ mode.supported := by
  cases mode with
  | extended => exact iff_of_true (mem_supported_extended _) (.inr (mem_supported_extended _))
  | basic =>
    simp only [ownMask]
    split
    · next haway => exact iff_of_true (by decide) (.inl haway)
    · next haway => rw [mem_supported_orOnline_iff, or_iff_right haway]

theorem verdict_mem_supported_iff (mode : AccountMode) (first? : Option Signal) :
    (Signal.verdict first?).status ∈ mode.supported ↔
      ∀ info, first? = some (.response (.userInfo info)) → info.mask.status ∈ mode.supported := by
  by_cases hinfo : ∃ info, first? = some (.response (.userInfo info))
  · obtain ⟨info, rfl⟩ := hinfo
    have hverdict : Signal.verdict (some (.response (.userInfo info))) =
        if info.mask.isUnknown then .online else info.mask := rfl
    rw [hverdict, mem_supported_orOnline_iff]
    refine ⟨fun h info' hsame => ?_, fun h => h info rfl⟩
    cases hsame
    exact h
  · have hnone := not_exists.1 hinfo
    rw [(Signal.verdict_offline_iff first?).2 hnone]
    exact iff_of_true mode.offline_mem_supported fun info hfirst => absurd hfirst (hnone info)

end AccountMode

namespace Session

/-- The report about ourselves that a step takes in. -/
def ownReport? (s : Session) : Step → Option UserInfo
  | .ownInfo info | .handle (.ownInfo info) => some info
  | .emit (.ownInfo info) => if s.server.attached then some info else none
  | _ => none

/-- A step takes in a report about ourselves that says what the account cannot be in, and not that it is
away. -/
def strays (s : Session) (step : Step) : Bool :=
  (s.ownReport? step).any fun info =>
    info.away ≠ some true ∧ info.mask.status ∉ s.settings.mode.supported

section Status

theorem Mute.status {s t : Session} (h : s.Mute t) : t.status = s.status := by
  rw [Session.status, Session.status, h.own]

variable {s : Session} {step : Step}

theorem status_of_ownReport {info : UserInfo} (h : s.ownReport? step = some info) :
    (s.perform step).1.status = (s.settings.mode.ownMask info).status := by
  have hact : (s.act step).1 = (s.ownInfo info).1 := by
    cases step with
    | ownInfo info' =>
      cases h
      rfl
    | handle e | emit e =>
      cases e with
      | ownInfo info' =>
        simp_all [ownReport?, act, handle]
      | _ => cases h
    | _ => cases h
  rw [← status_ownInfo, ← hact]
  exact (settle_mute _).status

theorem status_resetStatus (s : Session) : s.resetStatus.status = .offline := by
  rw [resetStatus_eq]
  exact Mask.status_unknown

theorem status_ownMessage (s : Session) (message : Option String) :
    (s.ownMessage message).1.status = s.status := by
  unfold ownMessage
  split
  · rfl
  · split <;> rfl

/-- An event that is no report about our status leaves that. -/
theorem status_handle {e : ServerEvent} (h : ∀ info, e ≠ .ownInfo info) :
    (s.handle e).status = s.status := by
  cases e with
  | ownInfo info => exact absurd rfl (h info)
  | ownExtraInfo message => exact status_ownMessage s message
  | buddyStatus info => exact (applyStatus_mute ..).status
  | buddyOffline x => exact (applyStatus_mute ..).status
  | buddyIcon x icon => exact (buddyIcon_mute s x icon).status
  | authorizationRequestReceived x _ => exact (authorizationRequested_quiet s x).mute.status
  | authorizationAccepted x reason => exact (authorizationAccepted_quiet s x reason).mute.status
  | authorizationDenied x reason => exact (authorizationDenied_quiet s x reason).mute.status
  | futureAuthorizationGranted | youWereAdded => rfl

/-- Our status does not change but by a report or the end of a login. -/
theorem status_of_no_ownReport (h : s.ownReport? step = none) :
    (s.perform step).1.status = s.status ∨ (s.perform step).1.status = .offline := by
  have hsettled : (s.perform step).1.status = (s.act step).1.status := (settle_mute _).status
  rw [hsettled]
  cases step with
  | ownInfo info => cases h
  | ownMessage message => exact .inl (status_ownMessage s message)
  | handle e =>
    refine .inl (status_handle fun info he => ?_)
    rw [he] at h
    cases h
  | emit e =>
    left
    simp only [act]
    split
    · next hattached =>
      refine status_handle fun info he => ?_
      simp [ownReport?, he, hattached] at h
    · rfl
  | registrationChanged new =>
    simp only [act, registrationChanged]
    split
    · exact .inl (register_mute s).status
    · split
      · exact .inr ((disconnect_mute s).status.trans (status_resetStatus s))
      · exact .inl rfl
  | _ => exact .inl (act_mute s rfl).status

end Status

/-- Our status is one that the account can be in. -/
def Fitting (s : Session) : Prop := s.status ∈ s.settings.mode.supported

/-- A step leads to a status that the account can be in exactly if it does not stray. -/
theorem fitting_perform_iff {s : Session} (hs : s.Sound) (fitting : s.Fitting) (step : Step) :
    (s.perform step).1.Fitting ↔ s.strays step = false := by
  rw [Fitting, perform_settings hs step]
  cases hreport : s.ownReport? step with
  | none =>
    refine iff_of_true ?_ (by simp [strays, hreport])
    rcases status_of_no_ownReport hreport with hsame | hoffline
    · rw [hsame]
      exact fitting
    · rw [hoffline]
      exact s.settings.mode.offline_mem_supported
  | some info =>
    rw [status_of_ownReport hreport, AccountMode.ownMask_mem_supported_iff]
    simp [strays, hreport, Classical.or_iff_not_imp_left]

/-- Through a run our status is one that the account can be in exactly if no report about ourselves strays
from those, and what a query comes to exactly if no report does that answers it. An extended account can be
in all of them. -/
theorem statuses_supported_iff {a : Assembly} {s₀ : Session} (built : a.build = .ok s₀) :
    (∀ status, status ∈ AccountMode.extended.supported) ∧
    (∀ steps, s₀.Throughout Fitting steps ↔ s₀.Never strays steps) ∧
    ∀ (past : List Happening) (task x : String) (happenings : List Happening),
      let s := s₀.undergoAll past
      let supported := s.settings.mode.supported
      let answer? := Answer.signal? (s.server.answerTo x)
      let begun := (addTask (.background task) (s.query x)).settle
      let first? := answer?.or (begun.firstSignal? s.newWait happenings)
      s.server.registered = true → (∀ h ∈ happenings, h.starts? ≠ some (.background task)) →
      (∀ status, (begun.undergoAll happenings).outcome? (.background task) = some (.status status) →
        (status ∈ supported ↔
          ∀ info, first? = some (.response (.userInfo info)) → info.mask.status ∈ supported)) ∧
      ∃ status, (s.perform (.query x)).2 = .status status ∧
        (status ∈ supported ↔
          ∀ info, answer? = some (.response (.userInfo info)) → info.mask.status ∈ supported) := by
  refine ⟨AccountMode.mem_supported_extended, fun steps => ?_, ?_⟩
  · have hoffline : s₀.status = .offline := by rw [status, own_of_build built, Mask.status_unknown]
    have hfitting : s₀.Fitting := by
      rw [Fitting, hoffline]
      exact s₀.settings.mode.offline_mem_supported
    refine (throughout_iff_never (I := fun s => s.Sound ∧ s.Fitting) (fun _ h => h.2) ?_ ?_
      ⟨(Assembly.fresh_of_build built).sound, hfitting⟩).1
    · rintro s step - ⟨hs, hnow⟩ hstays
      exact ⟨perform_sound hs step, (fitting_perform_iff hs hnow step).2 hstays⟩
    · rintro s step - ⟨hs, hnow⟩ hstrays hthen
      rw [(fitting_perform_iff hs hnow step).1 hthen] at hstrays
      cases hstrays
  · intro past task x happenings s supported answer? begun first? registered alone
    have hs : s.Arising := ⟨a, s₀, past, built, rfl⟩
    have hstands : Stands .status (.background task) s.newWait first? (begun.undergoAll happenings) :=
      hs.stands (fun _ => registered) task x alone
    have hresult : (s.perform (.query x)).2 = .status (Signal.verdict answer?).status :=
      hs.outcome_perform (i := .status) (fun _ => registered) x
    refine ⟨fun status houtcome => ?_, _, hresult, AccountMode.verdict_mem_supported_iff ..⟩
    rw [hstands.outcome?] at houtcome
    split at houtcome
    · cases houtcome
      exact AccountMode.verdict_mem_supported_iff ..
    · cases houtcome

/-- A basic account is said to be invisible, and then to be away, whatever the mask. It asks for somebody who
is invisible. -/
theorem basic_account_fits :
    let a : Assembly :=
      { connection := some ⟨"12345", true⟩, list := some (.ofRoot "root"), settings := { mode := .basic } }
    let s₀ : Session :=
      { settings := { mode := .basic }, localIdentifier := "12345", reRequests := false
        list := .ofRoot "root", desk := ⟨{}, 0, false⟩ }
    let invisible : UserInfo := .plain "555" (.ofFlag .invisible)
    let steps : List Step :=
      [.ownInfo (.plain "12345" (.ofFlag .invisible)),
        .handle (.ownInfo ⟨"12345", .ofFlag .doNotDisturb, some true, none⟩),
        .setAnswer none (.respond (.userInfo invisible))]
    let s := s₀.undergoAll (steps.map .step)
    a.build = .ok s₀ ∧ s₀.Never strays steps ∧ s₀.Throughout Fitting steps ∧ s.status = .away ∧
      s.server.registered = true ∧ ∃ status, (s.perform (.query "555")).2 = .status status ∧
        status ∈ s.settings.mode.supported := by
  intro a s₀ invisible steps s
  have built : a.build = .ok s₀ := rfl
  obtain ⟨-, hown, hqueries⟩ := statuses_supported_iff built
  have never : s₀.Never strays steps :=
    never_cons.2 ⟨by decide +kernel, never_cons.2 ⟨by decide +kernel,
      never_cons.2 ⟨by decide +kernel, never_nil _ _⟩⟩⟩
  have registered : s.server.registered = true := by decide +kernel
  have answer : Answer.signal? (s.server.answerTo "555") = some (.response (.userInfo invisible)) := by
    decide +kernel
  have fits : invisible.mask.status ∈ s.settings.mode.supported := by decide +kernel
  obtain ⟨-, status, hresult, hiff⟩ :=
    hqueries (steps.map .step) "task" "555" [] registered (by simp)
  refine ⟨built, never, (hown steps).2 never, by decide +kernel, registered, status, hresult,
    hiff.2 fun info hinfo => ?_⟩
  cases answer.symm.trans hinfo
  exact fits

/-- The masks of a basic account say that it is not to be disturbed, and so do those of others. -/
theorem basic_account_not_to_be_disturbed :
    let info : UserInfo := ⟨"12345", .ofFlag .doNotDisturb, some false, none⟩
    let s₀ : Session :=
      { settings := { mode := .basic }, localIdentifier := "12345", list := .ofRoot "root" }
    let s := s₀.run [.setAnswer none (.respond (.userInfo info)), .ownInfo info]
    s.Reachable ∧ s.status ∉ s.settings.mode.supported ∧
      ∃ status, (s.perform (.query "555")).2 = .status status ∧ status ∉ s.settings.mode.supported := by
  intro info s₀ s
  refine ⟨⟨{ connection := some ⟨"12345", true⟩, list := some s₀.list, hasPolicy := true, reRequests := true
             settings := { mode := .basic } }, s₀, _, rfl, rfl⟩, ?_, .doNotDisturb, ?_, ?_⟩
  · decide +kernel
  · decide +kernel
  · decide +kernel

end Session

end Roster
