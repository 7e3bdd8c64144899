import Roster.Proofs.Line.Deeds
import Roster.Proofs.PollPass

/-! Two readings of what the server says of a contact. A query, and with it a poll, goes by the mask alone. A
report that is pushed is read as the mode has it: in an extended account that is the mask as well, in a basic
one the away flag alone. -/

namespace Roster

namespace UserInfo

/-- The mask says of a basic account what the away flag says: away, or else just online. -/
def Accords (info : UserInfo) : Prop :=
  info.mask.status = if info.away = some true then .away else .online

instance (info : UserInfo) : Decidable info.Accords := inferInstanceAs (Decidable (_ = _))

theorem mask_status_eq_buddyStatus_iff (info : UserInfo) (mode : AccountMode) :
    info.mask.status = mode.buddyStatus info ↔ mode = .extended ∨ info.Accords := by
  cases mode with
  | extended => exact iff_of_true rfl (.inl rfl)
  | basic => exact ⟨.inr, fun h => h.resolve_left nofun⟩

/-- Whoever has asked goes by the mask, if it is known. -/
theorem verdict_of_known {info : UserInfo} (known : info.mask.isUnknown = false) :
    Signal.verdict (some (.response (.userInfo info))) = info.mask := by
  simp [Signal.verdict, known]

end UserInfo

namespace Session

section Push

variable {s : Session} {info : UserInfo} {old : Contact}

/-- A report that is pushed is written down as the mode reads it. -/
theorem contact?_buddyStatus (contact : s.list.contact? info.identifier = some old) :
    (s.buddyStatus info).1.list.contact? info.identifier =
      some { old with status := s.settings.mode.buddyStatus info } := by
  rw [buddyStatus, applyStatus_of_known contact]
  dsimp only
  rw [ContactList.contact?_setStatus, if_pos rfl, contact]
  rfl

/-- Nothing else is due when a report is pushed. -/
theorem perform_buddyStatus (prompt : s.Prompt) (info : UserInfo) :
    (s.perform (.buddyStatus info)).1 = (s.buddyStatus info).1 :=
  (prompt.of_clockwork (clockwork_applyStatus s info.identifier _ _)).settle

end Push

/-- A poll counts a change if the status that it learns of a contact in the group is another one. -/
theorem changed_pollContact {s : Session} {group : Group} {x : String} {status stored : Status}
    (contact : (s.list.contact? x).map Contact.status = some stored)
    (stays : (s.list.parentGroup? x).map Group.name = some group.name) (report : PollReport) :
    (s.pollContact group report x status).2.changed = report.changed + if status = stored then 0 else 1 := by
  obtain ⟨old, hold, rfl⟩ := Option.map_eq_some_iff.1 contact
  have hstays : Finding.Stays ⟨group, x, status, s.list⟩ := stays
  rw [(pollContact_tallies s group report x status).changed]
  by_cases hsame : status = old.status
  · simp [Finding.change?, hold, hsame]
  · simp [Finding.change?, hstays, hold, hsame, Ne.symm hsame]

/-- What a query comes to that is answered with a report, and what the same report, pushed, makes of the
contact that it names. A task that queries, whatever happens while it waits, and a query as an operation of
its own come to the status of the mask; the contact gets the status that the mode reads. The two are the same
exactly if the account is extended or the mask says what the away flag says. And a poll that learns this
status of a contact that has the pushed one counts a change exactly if they are not the same. -/
theorem query_agrees_with_push_iff {s : Session} (hs : s.Arising) (registered : s.server.registered = true)
    {info : UserInfo} (known : info.mask.isUnknown = false) {old : Contact}
    (contact : s.list.contact? info.identifier = some old) (task x : String) (happenings : List Happening)
    (alone : ∀ h ∈ happenings, h.starts? ≠ some (.background task)) :
    let mode := s.settings.mode
    let answer? := Answer.signal? (s.server.answerTo x)
    let begun := (addTask (.background task) (s.query x)).settle
    let answered : Option Signal := some (.response (.userInfo info))
    (answer?.or (begun.firstSignal? s.newWait happenings) = answered →
      (begun.undergoAll happenings).outcome? (.background task) = some (.status info.mask.status)) ∧
    (answer? = answered → (s.perform (.query x)).2 = .status info.mask.status) ∧
    (s.perform (.buddyStatus info)).1.list.contact? info.identifier =
      some { old with status := mode.buddyStatus info } ∧
    (info.mask.status = mode.buddyStatus info ↔ mode = .extended ∨ info.Accords) ∧
    ∀ (t : Session) (group : Group) (report : PollReport),
      (t.list.contact? x).map Contact.status = some (mode.buddyStatus info) →
      (t.list.parentGroup? x).map Group.name = some group.name →
      (t.pollContact group report x info.mask.status).2.changed =
        report.changed + if mode = .extended ∨ info.Accords then 0 else 1 := by
  intro mode answer? begun answered
  have hstands : Stands .status (.background task) s.newWait
      (answer?.or (begun.firstSignal? s.newWait happenings)) (begun.undergoAll happenings) :=
    hs.stands (fun _ => registered) task x alone
  have hresult : (s.perform (.query x)).2 = .status (Signal.verdict answer?).status :=
    hs.outcome_perform (i := .status) (fun _ => registered) x
  have hverdict : Signal.verdict answered = info.mask := UserInfo.verdict_of_known known
  have hagree := info.mask_status_eq_buddyStatus_iff mode
  refine ⟨fun hfirst => ?_, fun hanswer => ?_, ?_, hagree, fun t group report contact stays => ?_⟩
  · rw [hstands.outcome?, hfirst, if_pos (.inl rfl), hverdict, Inquiry.outcome]
  · rw [hresult, hanswer, hverdict]
  · rw [perform_buddyStatus hs.settles.2]
    exact contact?_buddyStatus contact
  · rw [changed_pollContact contact stays]
    simp only [hagree]

/-- A basic account asks for somebody who is away, and waits for the answer, which says so in both ways. -/
theorem away_contact_queried_away :
    let info : UserInfo := ⟨"555", .ofFlag .away, some true, none⟩
    let s₀ : Session :=
      { settings := { mode := .basic }, localIdentifier := "12345"
        list := ⟨"root", [⟨.root "root", none⟩], [⟨.resolve "555", "root"⟩]⟩ }
    let s := s₀.undergoAll [.step (.setAnswer none .silence)]
    let begun := (addTask (.background "task") (s.query "555")).settle
    let happenings : List Happening := [.step (.advance 1000), .signal 0 (.response (.userInfo info))]
    s.Arising ∧ s.server.registered = true ∧ info.mask.isUnknown = false ∧
      s.list.contact? info.identifier = some (.resolve "555") ∧
      (begun.undergoAll happenings).outcome? (.background "task") = some (.status .away) ∧
      (s.perform (.buddyStatus info)).1.list.contact? "555" =
        some { Contact.resolve "555" with status := .away } := by
  intro info s₀ s begun happenings
  have hs : s.Arising :=
    ⟨{ connection := some ⟨"12345", true⟩, list := some s₀.list, hasPolicy := true, reRequests := true
       settings := { mode := .basic } }, s₀, _, rfl, rfl⟩
  have registered : s.server.registered = true := by decide +kernel
  have known : info.mask.isUnknown = false := by decide
  have contact : s.list.contact? info.identifier = some (.resolve "555") := by decide +kernel
  obtain ⟨hqueried, -, hpushed, -, -⟩ :=
    query_agrees_with_push_iff hs registered known contact "task" "555" happenings (by decide)
  have first : (Answer.signal? (s.server.answerTo "555")).or (begun.firstSignal? s.newWait happenings) =
      some (.response (.userInfo info)) := by decide +kernel
  have away : info.mask.status = .away := by decide
  have basic : s.settings.mode = .basic := by decide +kernel
  rw [basic] at hpushed
  exact ⟨hs, registered, known, contact, (hqueried first).trans (by rw [away]), hpushed⟩

/-- A basic account is told that somebody is away, with a mask that says online. It asks, is told the same
again, and takes it for online. -/
theorem away_contact_queried_online :
    let info : UserInfo := ⟨"555", .online, some true, none⟩
    let s₀ : Session :=
      { settings := { mode := .basic }, localIdentifier := "12345"
        list := ⟨"root", [⟨.root "root", none⟩], [⟨.resolve "555", "root"⟩]⟩ }
    let s := s₀.run [.setAnswer (some "555") (.respond (.userInfo info)), .buddyStatus info]
    s.Reachable ∧ info.mask.isUnknown = false ∧
      (s.list.contact? "555").map Contact.status = some .away ∧
      (s.perform (.query "555")).2 = .status .online := by
  intro info s₀ s
  refine ⟨⟨{ connection := some ⟨"12345", true⟩, list := some s₀.list, hasPolicy := true, reRequests := true
             settings := { mode := .basic } }, s₀, _, rfl, rfl⟩, by decide, ?_, ?_⟩
  · decide +kernel
  · decide +kernel

end Session

end Roster
