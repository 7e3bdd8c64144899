import Roster.Proofs.Chronicle
import Roster.Proofs.ReRequests

/-! Whole polls. A poll goes from query to query, and whatever happens while it waits for one, it asks for
everybody who was listed when it began, in that order. For each it looks the contact up anew when the answer
has come, and writes down nothing but the status of one that still lies in the group. Its report counts what
it has done. -/

namespace Roster

/-- A status that a poll of a group has learnt, and the list at that moment. -/
structure Finding where
  group : Group
  identifier : String
  status : Status
  list : ContactList
  deriving DecidableEq, Repr

namespace Finding

/-- The contact lies in the group still. -/
def Stays (f : Finding) : Prop :=
  (f.list.parentGroup? f.identifier).map Group.name = some f.group.name

instance (f : Finding) : Decidable f.Stays := inferInstanceAs (Decidable (_ = _))

/-- The list once the status is written down. -/
def written (f : Finding) : ContactList :=
  if f.Stays then f.list.setStatus f.identifier f.status else f.list

/-- The change that is told. -/
def change? (f : Finding) : Option ContactPresenceChange :=
  if f.Stays then
    (f.list.contact? f.identifier).bind fun old =>
      if old.status = f.status then none
      else some ⟨{ old with status := f.status }, some f.group, old.status, f.status⟩
  else none

end Finding

/-- The one list becomes the other by writing down one finding after another, each where the one before has
led. -/
def Unfolds : ContactList → List Finding → ContactList → Prop
  | l, [], l' => l' = l
  | l, f :: fs, l' => f.list = l ∧ Unfolds f.written fs l'

theorem Unfolds.append {l l' l'' : ContactList} {fs gs : List Finding} (h : Unfolds l fs l')
    (h' : Unfolds l' gs l'') : Unfolds l (fs ++ gs) l'' := by
  induction fs generalizing l with
  | nil =>
    obtain rfl : l' = l := h
    exact h'
  | cons f fs ih => exact ⟨h.1, ih h.2⟩

/-- Somebody is told of the presence of a contact. -/
def Occurrence.isPresence : Occurrence → Bool
  | .delivered _ (.contactPresence _) => true
  | _ => false

namespace Session

/-- Those who are listed in the awaiting group. -/
def parked (s : Session) : List String :=
  match s.awaitingGroup? with
  | none => []
  | some group => (s.list.contactsIn group.name).map Contact.identifier

/-- What a poll finds out before it has to wait. -/
def findings (group : Group) (s : Session) : List String → List Finding
  | [] => []
  | x :: rest =>
    match s.ask x with
    | (_, .inr _) => []
    | (t, .inl mask) =>
      ⟨group, x, mask.status, t.list⟩ :: findings group (t.pollContact group {} x mask.status).1 rest

end Session

namespace PollState

/-- The report, so far if the poll waits. -/
def report : PollState → PollReport
  | .inl report => report
  | .inr p => p.report

/-- Those who are still to be asked for: nobody, once the poll is over. -/
def left : PollState → List String
  | .inl _ => []
  | .inr p => p.rest

/-- Whom the poll waits for: nobody, once it is over. -/
def waiting : PollState → List String
  | .inl _ => []
  | .inr p => [p.current]

end PollState

namespace Stretch

/-- What a stretch adds to the trace. -/
def news (x : Stretch) : List Occurrence := x.after.trace.drop x.before.trace.length

/-- Whom it asks for. -/
def asked (x : Stretch) : List String := x.news.filterMap Occurrence.asked?

def findings (x : Stretch) : List Finding :=
  match x.resumed with
  | none =>
    match x.before.awaitingGroup? with
    | none => []
    | some group => Session.findings group x.before x.before.parked
  | some p =>
    let (s, mask) := x.before.receive p.wait.query
    ⟨p.group, p.current, mask.status, s.list⟩ ::
      Session.findings p.group (s.pollContact p.group p.report p.current mask.status).1 p.rest

/-- The changes it tells of. -/
def changes (x : Stretch) : List ContactPresenceChange := x.findings.filterMap Finding.change?

end Stretch

/-- A poll so far: a stretch that begins it, and those that have gone on where the one before waited. -/
inductive Pass : List Stretch → Prop
  | begins {x : Stretch} (begun : x.resumed = none) : Pass [x]
  | goesOn {xs : List Stretch} {x y : Stretch} {p : SuspendedPoll} (pass : Pass xs)
      (latest : xs.getLast? = some x) (suspended : x.result = .inr p) (resumed : y.resumed = some p) :
      Pass (xs ++ [y])

namespace Session

/-- A poll has asked for some, found something out, told of it and re-sent requests, and counted all that
in its report. -/
structure Tallies (s : Session) (report : PollReport) (asked : List String) (found : List Finding)
    (t : Session) (report' : PollReport) : Prop where
  settings : t.settings = s.settings
  hub : t.hub = s.hub
  list : Unfolds s.list found t.list
  trace : ∃ new, t.trace = s.trace ++ new ∧ new.filterMap Occurrence.asked? = asked ∧
    new.filter Occurrence.isPresence = (found.filterMap Finding.change?).flatMap
      (fun c => s.deliveries (.contactPresence c)) ∧
    report'.reRequested + report'.failed =
      report.reRequested + report.failed + (new.filterMap Occurrence.reRequested?).length
  checked : report'.checked = report.checked + asked.length
  changed : report'.changed = report.changed + (found.filterMap Finding.change?).length

section Tallies

variable {s t u : Session} {report report' report'' : PollReport} {asked asked' : List String}
  {found found' : List Finding}

theorem Tallies.trans (h₁ : Tallies s report asked found t report')
    (h₂ : Tallies t report' asked' found' u report'') :
    Tallies s report (asked ++ asked') (found ++ found') u report'' := by
  obtain ⟨new₁, e₁, hasked₁, htold₁, hresent₁⟩ := h₁.trace
  obtain ⟨new₂, e₂, hasked₂, htold₂, hresent₂⟩ := h₂.trace
  have hdeliveries (n : Notice) : t.deliveries n = s.deliveries n := by
    rw [deliveries, deliveries, h₁.hub]
  refine ⟨h₂.settings.trans h₁.settings, h₂.hub.trans h₁.hub, h₁.list.append h₂.list,
    ⟨new₁ ++ new₂, by rw [e₂, e₁, List.append_assoc], ?_, ?_, ?_⟩, ?_, ?_⟩
  · rw [List.filterMap_append, hasked₁, hasked₂]
  · simp only [List.filter_append, List.filterMap_append, List.flatMap_append, htold₁, htold₂,
      hdeliveries]
  · rw [hresent₂, hresent₁, List.filterMap_append, List.length_append]
    omega
  · rw [h₂.checked, h₁.checked, List.length_append]
    omega
  · rw [h₂.changed, h₁.changed, List.filterMap_append, List.length_append]
    omega

/-- Nothing happens that counts. -/
theorem Tallies.of_alike (h : s.Alike t) (report : PollReport) : Tallies s report [] [] t report :=
  ⟨h.settings, h.hub, h.list, ⟨[], by rw [h.trace, List.append_nil], rfl, rfl, rfl⟩, rfl, rfl⟩

theorem ask_tallies (s : Session) (report : PollReport) (x : String) :
    Tallies s report [x] [] (s.ask x).1 { report with checked := report.checked + 1 } := by
  have hidle := (ask_idle s x).toAlike
  exact ⟨hidle.settings, hidle.hub, hidle.list, ⟨[.requested (.userInfo x)], hidle.trace, rfl, rfl, rfl⟩,
    rfl, rfl⟩

/-- To tell of a change asks for nobody and re-sends nothing. -/
theorem deliveries_tallied (s : Session) (c : ContactPresenceChange) :
    (s.deliveries (.contactPresence c)).filterMap Occurrence.asked? = [] ∧
      (s.deliveries (.contactPresence c)).filter Occurrence.isPresence =
        s.deliveries (.contactPresence c) ∧
      (s.deliveries (.contactPresence c)).filterMap Occurrence.reRequested? = [] := by
  refine ⟨?_, ?_, ?_⟩
  · rw [List.filterMap_eq_nil_iff]
    intro o ho
    obtain ⟨l, -, rfl⟩ := List.mem_map.1 ho
    rfl
  · rw [List.filter_eq_self]
    intro o ho
    obtain ⟨l, -, rfl⟩ := List.mem_map.1 ho
    rfl
  · rw [List.filterMap_eq_nil_iff]
    intro o ho
    obtain ⟨l, -, rfl⟩ := List.mem_map.1 ho
    rfl

/-- The status of a contact that lies in the group is written down, and counts if it is another one. -/
theorem applyStatus_tallies {group : Group} {x : String} {status : Status}
    (stays : Finding.Stays ⟨group, x, status, s.list⟩) (report : PollReport) :
    Tallies s report [] [⟨group, x, status, s.list⟩] (s.applyStatus x status (some group)).1
      (if (s.applyStatus x status (some group)).2 then
        { report with changed := report.changed + 1 } else report) := by
  obtain ⟨g, hg, -⟩ := Option.map_eq_some_iff.1 stays
  obtain ⟨old, hold⟩ := Option.isSome_iff_exists.1 (contact?_of_parentGroup? hg)
  have hwritten : Finding.written ⟨group, x, status, s.list⟩ = s.list.setStatus x status := if_pos stays
  have hchange : Finding.change? ⟨group, x, status, s.list⟩ = if old.status = status then none
      else some ⟨{ old with status := status }, some group, old.status, status⟩ := by
    rw [Finding.change?, if_pos stays]
    simp only [hold, Option.bind_some]
  have hlist : (s.applyStatus x status (some group)).1.list = s.list.setStatus x status := by
    rw [applyStatus_of_known hold]
  by_cases hsame : old.status = status
  · have happly : s.applyStatus x status (some group) =
        ({ s with list := s.list.setStatus x status }, false) := by
      simp only [applyStatus, hold, hsame, if_true]
    rw [happly]
    rw [if_pos hsame] at hchange
    refine ⟨rfl, rfl, ⟨rfl, hwritten.symm⟩, ⟨[], (List.append_nil _).symm, rfl, ?_, rfl⟩, rfl, ?_⟩
    · simp [hchange]
    · simp [hchange]
  · have hchanged : (s.applyStatus x status (some group)).2 = true := by
      simp only [applyStatus, hold, hsame, if_false]
    obtain ⟨hasked, htold, hresent⟩ := deliveries_tallied s
      ⟨{ old with status := status }, some group, old.status, status⟩
    rw [if_neg hsame] at hchange
    rw [hchanged, applyStatus_of_known hold, if_neg hsame, if_pos rfl]
    refine ⟨rfl, rfl, ⟨rfl, hwritten.symm⟩, ⟨_, rfl, hasked, ?_, ?_⟩, rfl, ?_⟩
    · simp [hchange, htold]
    · simp [hresent]
    · simp [hchange]

theorem reRequest_tallies (s : Session) (report : PollReport) (c : Contact) :
    Tallies s report [] [] (s.reRequest report c).1 (s.reRequest report c).2 := by
  unfold reRequest
  split
  · exact .of_alike (.refl s) report
  · refine ⟨rfl, rfl, rfl, ⟨[.reRequested c.identifier s.settings.reRequestReason], rfl, rfl, rfl, ?_⟩, ?_, ?_⟩
    · have hone : [Occurrence.reRequested c.identifier s.settings.reRequestReason].filterMap
          Occurrence.reRequested? = [c.identifier] := rfl
      rw [hone]
      split <;> simp <;> omega
    · split <;> rfl
    · split <;> rfl

/-- Whether the contact stays in the group is decided when its status has been learnt. -/
theorem pollContact_tallies (s : Session) (group : Group) (report : PollReport) (x : String)
    (status : Status) :
    Tallies s report [] [⟨group, x, status, s.list⟩] (s.pollContact group report x status).1
      (s.pollContact group report x status).2 := by
  by_cases stays : Finding.Stays ⟨group, x, status, s.list⟩
  · have happly := applyStatus_tallies stays report
    have hparent : (s.list.parentGroup? x).map Group.name = some group.name := stays
    simp only [pollContact, hparent, ne_eq, not_true_eq_false, if_false]
    rcases happlied : s.applyStatus x status (some group) with ⟨t, changed⟩
    rw [happlied] at happly
    dsimp only at happly ⊢
    split
    · exact happly
    · have hseen : Tallies t (if changed then { report with changed := report.changed + 1 } else report) [] []
          { t with seen := t.seen ++ [x] }
          (if changed then { report with changed := report.changed + 1 } else report) :=
        ⟨rfl, rfl, rfl, ⟨[], (List.append_nil _).symm, rfl, rfl, rfl⟩, rfl, rfl⟩
      split
      · exact happly.trans hseen
      · exact (happly.trans hseen).trans (reRequest_tallies ..)
  · have hwritten : Finding.written ⟨group, x, status, s.list⟩ = s.list := if_neg stays
    have hchange : Finding.change? ⟨group, x, status, s.list⟩ = none := if_neg stays
    have hparent : (s.list.parentGroup? x).map Group.name ≠ some group.name := stays
    simp only [pollContact, hparent, ne_eq, not_false_eq_true, if_true]
    refine ⟨rfl, rfl, ⟨rfl, hwritten.symm⟩, ⟨[], (List.append_nil _).symm, rfl, ?_, rfl⟩, rfl, ?_⟩
    · simp [hchange]
    · simp [hchange]

theorem group_of_mem_findings {group : Group} (ids : List String) :
    ∀ {s : Session}, ∀ f ∈ findings group s ids, f.group = group := by
  induction ids with
  | nil =>
    intro s f hf
    cases hf
  | cons x rest ih =>
    intro s f hf
    rw [findings] at hf
    split at hf
    · cases hf
    · rcases List.mem_cons.1 hf with rfl | hf
      · rfl
      · exact ih f hf

/-- What is dealt with does not depend on the report. -/
theorem pollContact_fst_eq (s : Session) (group : Group) (report report' : PollReport) (x : String)
    (status : Status) :
    (s.pollContact group report x status).1 = (s.pollContact group report' x status).1 := by
  rw [pollContact_fst, pollContact_fst]

theorem pollRest_of_answer {s t : Session} {x : String} {mask : Mask} (h : s.ask x = (t, .inl mask))
    (group : Group) (report : PollReport) (rest : List String) :
    s.pollRest group report (x :: rest) =
      (t.pollContact group { report with checked := report.checked + 1 } x mask.status).1.pollRest group
        (t.pollContact group { report with checked := report.checked + 1 } x mask.status).2 rest := by
  rw [pollRest, h]

theorem pollRest_of_wait {s t : Session} {x : String} {wait : Wait} (h : s.ask x = (t, .inr wait))
    (group : Group) (report : PollReport) (rest : List String) :
    s.pollRest group report (x :: rest) =
      (t, .inr ⟨group, x, rest, { report with checked := report.checked + 1 }, wait⟩) := by
  rw [pollRest, h]

/-- A poll asks for one after another, up to the first whose answer it has to wait for. -/
theorem pollRest_tallies (group : Group) (ids : List String) : ∀ (s : Session) (report : PollReport),
    ∃ asked, Tallies s report asked (findings group s ids) (s.pollRest group report ids).1
        (PollState.report (s.pollRest group report ids).2) ∧
      asked ++ PollState.left (s.pollRest group report ids).2 = ids ∧
      (findings group s ids).map Finding.identifier ++
        PollState.waiting (s.pollRest group report ids).2 = asked ∧
      ∀ p, (s.pollRest group report ids).2 = .inr p → p.group = group := by
  induction ids with
  | nil =>
    intro s report
    exact ⟨[], .of_alike (.refl s) report, rfl, rfl, nofun⟩
  | cons x rest ih =>
    intro s report
    have hask := ask_tallies s report x
    rcases h : s.ask x with ⟨t, mask | wait⟩
    · rw [h] at hask
      have hdealt := pollContact_tallies t group { report with checked := report.checked + 1 } x mask.status
      obtain ⟨asked, htallies, hleft, hfound, hgroup⟩ := ih
        (t.pollContact group { report with checked := report.checked + 1 } x mask.status).1
        (t.pollContact group { report with checked := report.checked + 1 } x mask.status).2
      have hfindings : findings group s (x :: rest) = ⟨group, x, mask.status, t.list⟩ ::
          findings group (t.pollContact group { report with checked := report.checked + 1 } x
            mask.status).1 rest := by
        rw [findings, h, pollContact_fst_eq]
      rw [pollRest_of_answer h, hfindings]
      refine ⟨x :: asked, (hask.trans hdealt).trans htallies, ?_, ?_, hgroup⟩
      · rw [List.cons_append, hleft]
      · rw [List.map_cons, List.cons_append, hfound]
    · rw [h] at hask
      have hfindings : findings group s (x :: rest) = [] := by rw [findings, h]
      rw [pollRest_of_wait h, hfindings]
      refine ⟨[x], hask, rfl, rfl, ?_⟩
      rintro p ⟨⟩
      rfl

end Tallies

end Session

namespace Stretch

open Session

/-- Whom a stretch has to ask for. -/
def planned (x : Stretch) : List String :=
  match x.resumed with
  | none => x.before.parked
  | some p => p.rest

/-- What is true of one stretch: it asks for the next who are planned, finds something out about those
whose answers have come, and its poll is one of the awaiting group. -/
structure Account (x : Stretch) : Prop where
  tallies : Tallies x.before ((x.resumed.map SuspendedPoll.report).getD {}) x.asked x.findings x.after
    x.result.report
  planned : x.asked ++ x.result.left = x.planned
  found : x.findings.map Finding.identifier ++ x.result.waiting =
    (x.resumed.map SuspendedPoll.current).toList ++ x.asked
  group : (∀ p ∈ x.resumed, p.group.name = x.before.settings.awaitingGroup) →
    (∀ f ∈ x.findings, f.group.name = x.before.settings.awaitingGroup) ∧
      ∀ p, x.result = .inr p → p.group.name = x.before.settings.awaitingGroup

theorem asked_eq {x : Stretch} {report report' : PollReport} {asked : List String}
    {found : List Finding} (h : Tallies x.before report asked found x.after report') : x.asked = asked := by
  obtain ⟨new, htrace, hasked, -, -⟩ := h.trace
  rw [Stretch.asked, news, htrace, List.drop_left, hasked]

/-- A poll that begins goes through those who are parked, if there is a group for them. -/
theorem account_of_begins (byPoller : Bool) (s : Session) : (⟨byPoller, none, s⟩ : Stretch).Account := by
  set x : Stretch := ⟨byPoller, none, s⟩
  cases hgroup : s.awaitingGroup? with
  | none =>
    have hrun : x.run = (s, .inl {}) := by simp [x, run, poll, hgroup]
    have hafter : x.after = s := congrArg Prod.fst hrun
    have hresult : x.result = .inl {} := congrArg Prod.snd hrun
    have hfindings : x.findings = [] := by simp [x, findings, hgroup]
    have hparked : x.planned = [] := by simp [x, Stretch.planned, parked, hgroup]
    have htallies : Tallies x.before {} [] x.findings x.after x.result.report := by
      rw [hfindings, hafter, hresult]
      exact .of_alike (.refl s) {}
    have hasked := asked_eq htallies
    refine ⟨hasked ▸ htallies, ?_, ?_, fun _ => ⟨?_, ?_⟩⟩
    · rw [hasked, hresult, hparked]
      rfl
    · rw [hasked, hfindings, hresult]
      rfl
    · rw [hfindings]
      intro f hf
      cases hf
    · rw [hresult]
      intro p hp
      cases hp
  | some group =>
    obtain ⟨asked, htallies, hleft, hfound, hsame⟩ := pollRest_tallies group s.parked s {}
    have hname : group.name = s.settings.awaitingGroup := ContactList.name_of_group? hgroup
    have hrun : x.run = s.pollRest group {} s.parked := by simp [x, run, poll, parked, hgroup]
    have hafter : x.after = (s.pollRest group {} s.parked).1 := congrArg Prod.fst hrun
    have hresult : x.result = (s.pollRest group {} s.parked).2 := congrArg Prod.snd hrun
    have hfindings : x.findings = Session.findings group s s.parked := by simp [x, findings, hgroup]
    rw [← hfindings, ← hafter, ← hresult] at htallies
    rw [← hfindings, ← hresult] at hfound
    rw [← hresult] at hleft hsame
    obtain rfl : x.asked = asked := asked_eq htallies
    refine ⟨htallies, hleft, hfound, fun _ => ⟨?_, ?_⟩⟩
    · intro f hf
      rw [hfindings] at hf
      rw [group_of_mem_findings _ f hf, hname]
    · intro p hp
      rw [hsame p hp, hname]

/-- A poll that goes on deals with the one it has waited for, and goes through the rest. -/
theorem account_of_goesOn (byPoller : Bool) (p : SuspendedPoll) (s : Session) :
    (⟨byPoller, some p, s⟩ : Stretch).Account := by
  set x : Stretch := ⟨byPoller, some p, s⟩
  set t := (s.receive p.wait.query).1
  set status := (s.receive p.wait.query).2.status
  have hreceived : Tallies s p.report [] [] t p.report := .of_alike (receive_idle s _).toAlike _
  have hdealt := pollContact_tallies t p.group p.report p.current status
  set u := (t.pollContact p.group p.report p.current status).1
  set report := (t.pollContact p.group p.report p.current status).2
  obtain ⟨asked, hrest, hleft, hfound, hsame⟩ := pollRest_tallies p.group p.rest u report
  have hafter : x.after = (u.pollRest p.group report p.rest).1 := rfl
  have hresult : x.result = (u.pollRest p.group report p.rest).2 := rfl
  have hfindings : x.findings =
      ⟨p.group, p.current, status, t.list⟩ :: Session.findings p.group u p.rest := rfl
  have htallies : Tallies x.before p.report asked x.findings x.after x.result.report := by
    rw [hfindings, hafter, hresult]
    exact (hreceived.trans hdealt).trans hrest
  obtain rfl : x.asked = asked := asked_eq htallies
  refine ⟨htallies, hleft, ?_, fun hgroup => ⟨?_, ?_⟩⟩
  · rw [hfindings, List.map_cons, List.cons_append, hresult, hfound]
    rfl
  · intro f hf
    rw [hfindings] at hf
    rcases List.mem_cons.1 hf with rfl | hf
    · exact hgroup p rfl
    · rw [group_of_mem_findings _ f hf]
      exact hgroup p rfl
  · intro p' hp'
    rw [hsame p' hp']
    exact hgroup p rfl

theorem account (x : Stretch) : x.Account := by
  obtain ⟨byPoller, _ | p, s⟩ := x
  · exact account_of_begins byPoller s
  · exact account_of_goesOn byPoller p s

/-- What a stretch adds to the trace, it tells of the changes it has found, and counts the requests that it
re-sends. -/
theorem news_account (x : Stretch) : x.after.trace = x.before.trace ++ x.news ∧
    x.news.filter Occurrence.isPresence =
      x.changes.flatMap (fun c => x.before.deliveries (.contactPresence c)) ∧
    x.result.report.reRequested + x.result.report.failed =
      ((x.resumed.map SuspendedPoll.report).getD {}).reRequested +
        ((x.resumed.map SuspendedPoll.report).getD {}).failed +
        (x.news.filterMap Occurrence.reRequested?).length := by
  obtain ⟨new, htrace, -, htold, hresent⟩ := x.account.tallies.trace
  have hnews : x.news = new := by rw [news, htrace, List.drop_left]
  rw [hnews]
  exact ⟨htrace, htold, hresent⟩

end Stretch

/-- What has come of a poll with its latest stretch. -/
structure Pass.Account (awaiting : String) (pass : List Stretch) (first latest : Stretch) : Prop where
  head : pass.head? = some first
  last : pass.getLast? = some latest
  asked : pass.flatMap Stretch.asked ++ latest.result.left = first.before.parked
  found : (pass.flatMap Stretch.findings).map Finding.identifier ++ latest.result.waiting =
    pass.flatMap Stretch.asked
  groups : ∀ x ∈ pass, ∀ f ∈ x.findings, f.group.name = awaiting
  group : ∀ p, latest.result = .inr p → p.group.name = awaiting
  checked : latest.result.report.checked = (pass.flatMap Stretch.asked).length
  changed : latest.result.report.changed = (pass.flatMap Stretch.changes).length
  reRequested : latest.result.report.reRequested + latest.result.report.failed =
    ((pass.flatMap Stretch.news).filterMap Occurrence.reRequested?).length

/-- The sums over a poll grow with each stretch by what is true of that one. -/
theorem Pass.account {awaiting : String} {pass : List Stretch} (h : Pass pass)
    (settings : ∀ x ∈ pass, x.before.settings.awaitingGroup = awaiting) :
    ∃ first latest, Pass.Account awaiting pass first latest := by
  induction h with
  | @begins x begun =>
    have haccount := x.account
    obtain ⟨-, -, hresent⟩ := x.news_account
    have hgroup := haccount.group (by rw [begun]; exact nofun)
    rw [settings x (List.mem_singleton.2 rfl)] at hgroup
    have hplanned : x.planned = x.before.parked := by simp only [Stretch.planned, begun]
    refine ⟨x, x, rfl, rfl, ?_, ?_, ?_, hgroup.2, ?_, ?_, ?_⟩
    · simpa [hplanned] using haccount.planned
    · simpa [begun] using haccount.found
    · simpa using hgroup.1
    · simpa [begun] using haccount.tallies.checked
    · simpa [begun, Stretch.changes] using haccount.tallies.changed
    · simpa [begun] using hresent
  | @goesOn xs x y p pass latest suspended resumed ih =>
    obtain ⟨first, x', before⟩ := ih fun z hz => settings z (List.mem_append_left _ hz)
    obtain rfl : x' = x := Option.some.inj (before.last.symm.trans latest)
    have haccount := y.account
    obtain ⟨-, -, hresent⟩ := y.news_account
    have hy : y.before.settings.awaitingGroup = awaiting := settings y (by simp)
    have hgroup := haccount.group (by
      intro p' hp'
      rw [resumed] at hp'
      cases hp'
      rw [before.group p suspended, hy])
    rw [hy] at hgroup
    -- the stretch takes up the poll as the one before has left it
    have hplanned : y.planned = x'.result.left := by
      simp only [Stretch.planned, resumed, suspended, PollState.left]
    have hwaiting : (y.resumed.map SuspendedPoll.current).toList = x'.result.waiting := by
      rw [suspended, resumed]
      rfl
    have hreport : (y.resumed.map SuspendedPoll.report).getD {} = x'.result.report := by
      rw [suspended, resumed]
      rfl
    have hasked := haccount.planned
    have hfound := haccount.found
    have hchecked := haccount.tallies.checked
    have hchanged := haccount.tallies.changed
    rw [hplanned] at hasked
    rw [hwaiting] at hfound
    rw [hreport] at hchecked hchanged hresent
    refine ⟨first, y, ?_, by simp, ?_, ?_, ?_, hgroup.2, ?_, ?_, ?_⟩
    · rw [List.head?_append, before.head]
      rfl
    · rw [List.flatMap_append, List.flatMap_singleton, List.append_assoc, hasked, before.asked]
    · rw [List.flatMap_append, List.flatMap_append, List.flatMap_singleton, List.flatMap_singleton,
        ← before.found, List.map_append, List.append_assoc, List.append_assoc, hfound]
    · intro z hz
      rcases List.mem_append.1 hz with hz | hz
      · exact before.groups z hz
      · rw [List.mem_singleton.1 hz]
        exact hgroup.1
    · rw [hchecked, before.checked, List.flatMap_append, List.flatMap_singleton, List.length_append]
    · rw [hchanged, before.changed, List.flatMap_append, List.flatMap_singleton, List.length_append]
      rfl
    · rw [hresent, before.reRequested, List.flatMap_append, List.flatMap_singleton,
        List.filterMap_append, List.length_append]

namespace Session

variable {s t : Session} {entries : List Entry}

/-- What a beat says about polls: who waits has done so before or is entered, and who goes on has waited. -/
theorem Beat.polls (h : Beat s entries t) : t.settings = s.settings ∧
    (∀ p ∈ t.polls, p ∈ s.polls ∨ ∃ x, entries = [.stretch x] ∧ x.result = .inr p) ∧
    ∀ x, .stretch x ∈ entries → entries = [.stretch x] ∧ x.before = s ∧ ∀ p ∈ x.resumed, p ∈ s.polls := by
  cases h with
  | aside keeps _ polls _ =>
    exact ⟨keeps.settings, fun p hp => .inl (polls p hp), fun x hx => absurd hx List.not_mem_nil⟩
  | time _ _ => exact ⟨rfl, fun p hp => .inl hp, fun x hx => absurd hx List.not_mem_nil⟩
  | task resumed waited keeps _ polls _ =>
    refine ⟨keeps.settings, fun p hp => (polls p hp).imp_right fun h => ⟨_, rfl, h⟩, fun x hx => ?_⟩
    cases List.mem_singleton.1 hx
    exact ⟨rfl, rfl, waited⟩
  | tick _ _ keeps _ polls _ =>
    refine ⟨keeps.settings, fun p hp => (polls p hp).imp_right fun h => ⟨_, rfl, h⟩, fun x hx => ?_⟩
    cases List.mem_singleton.1 hx
    exact ⟨rfl, rfl, fun p hp => absurd hp (by simp)⟩
  | @goesOn _ due p poller keeps _ polls _ =>
    refine ⟨keeps.settings, fun p hp => (polls p hp).imp_right fun h => ⟨_, rfl, h⟩, fun x hx => ?_⟩
    cases List.mem_singleton.1 hx
    refine ⟨rfl, rfl, ?_⟩
    rintro p' ⟨⟩
    exact mem_polls.2 (.inr (by rw [poller]; rfl))
  | login keeps _ polls _ =>
    exact ⟨keeps.settings, fun p hp => .inl (polls p hp), fun x hx => by simp at hx⟩
  | logout keeps _ polls _ =>
    exact ⟨keeps.settings, fun p hp => .inl (polls p hp), fun x hx => by simp at hx⟩

/-- Every stretch that is entered belongs to a poll that is entered from its beginning. -/
theorem Beats.passes (h : Beats s entries t) (idle : s.polls = []) : t.settings = s.settings ∧
    (∀ p ∈ t.polls, ∃ x, .stretch x ∈ entries ∧ x.result = .inr p) ∧
    ∀ x, .stretch x ∈ entries → ∃ pass, Pass pass ∧ pass.getLast? = some x ∧
      (pass.map Entry.stretch).Sublist entries ∧ ∀ y ∈ pass, y.before.settings = s.settings := by
  induction h with
  | refl =>
    refine ⟨rfl, fun p hp => ?_, fun x hx => absurd hx List.not_mem_nil⟩
    rw [idle] at hp
    exact absurd hp List.not_mem_nil
  | @tail t u entries more beats beat ih =>
    obtain ⟨hsettings, hwaiting, hpasses⟩ := ih
    obtain ⟨hsame, hpolls, hentered⟩ := beat.polls
    refine ⟨hsame.trans hsettings, ?_, ?_⟩
    · intro p hp
      rcases hpolls p hp with hold | ⟨x, hmore, hx⟩
      · obtain ⟨x, hx, hresult⟩ := hwaiting p hold
        exact ⟨x, List.mem_append_left _ hx, hresult⟩
      · exact ⟨x, by simp [hmore], hx⟩
    · intro x hx
      rcases List.mem_append.1 hx with hx | hx
      · obtain ⟨pass, hpass, hlast, hsublist, hsettled⟩ := hpasses x hx
        exact ⟨pass, hpass, hlast, hsublist.trans (List.sublist_append_left ..), hsettled⟩
      · obtain ⟨hmore, hbefore, hresumed⟩ := hentered x hx
        have hx : x.before.settings = s.settings := by rw [hbefore, hsettings]
        cases hbegun : x.resumed with
        | none =>
          refine ⟨[x], .begins hbegun, rfl, ?_, ?_⟩
          · simp [hmore]
          · simpa using hx
        | some p =>
          -- the poll has waited, and so its latest stretch is entered
          obtain ⟨y, hy, hresult⟩ := hwaiting p (hresumed p hbegun)
          obtain ⟨pass, hpass, hlast, hsublist, hsettled⟩ := hpasses y hy
          refine ⟨pass ++ [x], hpass.goesOn hlast hresult hbegun, by simp, ?_, ?_⟩
          · rw [List.map_append, hmore]
            exact hsublist.append (List.Sublist.refl _)
          · intro z hz
            rcases List.mem_append.1 hz with hz | hz
            · exact hsettled z hz
            · rw [List.mem_singleton.1 hz]
              exact hx

end Session

end Roster
