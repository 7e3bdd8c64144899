import Roster.Proofs.Line.Deeds
import Roster.Proofs.QueryOutcome

/-! Reports about different subjects. A report amends the contact that it names, or our own status, or our
message, and tells of that alone. So what is known of a subject after some reports, and what has been told
of it, goes by the reports about that subject, whatever came in between. -/

namespace Roster

/-- What a report is about, and a notice: a contact, our own status, or our message. -/
inductive Subject
  | contact (identifier : String)
  | ownStatus
  | ownMessage
  deriving DecidableEq, Repr

def ServerEvent.subject : ServerEvent → Subject
  | .ownInfo _ => .ownStatus
  | .ownExtraInfo _ => .ownMessage
  | .buddyStatus info => .contact info.identifier
  | .buddyOffline x | .buddyIcon x _ | .authorizationRequestReceived x _ | .authorizationAccepted x _
  | .authorizationDenied x _ | .futureAuthorizationGranted x _ | .youWereAdded x => .contact x

/-- A notice about a group is about none of these. -/
def Notice.subject? : Notice → Option Subject
  | .contactPresence c => some (.contact c.contact.identifier)
  | .subscription c => some (.contact c.contact.identifier)
  | .moved m => some (.contact m.contact.identifier)
  | .modified e => some (.contact e.contact.identifier)
  | .ownStatus _ => some .ownStatus
  | .statusMessage _ => some .ownMessage
  | .group _ => none

/-- What a listener is told about. -/
def Occurrence.subject? : Occurrence → Option Subject
  | .delivered _ n => n.subject?
  | _ => none

/-- What can be known of a subject: the entries of a contact, our mask, or our message. -/
inductive Knowledge
  | entries (members : List Member)
  | mask (mask : Mask)
  | message (message : String)
  deriving DecidableEq, Repr

/-- What is known of a subject, and everything that anybody was told of it, in order. -/
structure Dossier where
  knowledge : Knowledge
  told : List Occurrence
  deriving DecidableEq, Repr

namespace ContactList

/-- Entries of the same contacts in the same places are told apart by what stands under each identifier. -/
theorem members_ext : ∀ {ms ms' : List Member}, ms.map Member.bare = ms'.map Member.bare →
    (∀ x, ms.filter (·.contact.identifier = x) = ms'.filter (·.contact.identifier = x)) → ms = ms' := by
  intro ms
  induction ms with
  | nil =>
    intro ms' bare _
    exact (List.map_eq_nil_iff.1 bare.symm).symm
  | cons m ms ih =>
    intro ms' bare entries
    cases ms' with
    | nil => cases bare
    | cons m' ms' =>
      obtain ⟨hbare, hrest⟩ := List.cons.inj bare
      have hsame : m.contact.identifier = m'.contact.identifier :=
        congrArg (·.contact.identifier) hbare
      have hfirst := entries m.contact.identifier
      rw [List.filter_cons_of_pos (by simp), List.filter_cons_of_pos (by simp [hsame])] at hfirst
      obtain ⟨rfl, -⟩ := List.cons.inj hfirst
      refine congrArg (m :: ·) (ih hrest fun x => ?_)
      have hentries := entries x
      by_cases hx : m.contact.identifier = x
      · rw [List.filter_cons_of_pos (by simp [hx]), List.filter_cons_of_pos (by simp [hx])] at hentries
        exact (List.cons.inj hentries).2
      · rwa [List.filter_cons_of_neg (by simp [hx]), List.filter_cons_of_neg (by simp [hx])] at hentries

theorem ext_of_bare_eq {l l' : ContactList} (bare : l.bare = l'.bare)
    (entries : ∀ x, l.entries x = l'.entries x) : l = l' := by
  obtain ⟨name, branches, members⟩ := l
  obtain ⟨name', branches', members'⟩ := l'
  obtain ⟨rfl, rfl, hbare⟩ := ContactList.mk.inj bare
  exact congrArg (ContactList.mk name branches) (members_ext hbare entries)

end ContactList

namespace Session

def knowledge (s : Session) : Subject → Knowledge
  | .contact x => .entries (s.list.entries x)
  | .ownStatus => .mask s.own.mask
  | .ownMessage => .message s.own.message

def dossier (s : Session) (subject : Subject) : Dossier :=
  ⟨s.knowledge subject, s.trace.filter (·.subject? = some subject)⟩

/-- What reports go by and leave alone: the settings, the listeners, and the list but for statuses and
images. -/
def stage (s : Session) : Settings × Hub × ContactList := (s.settings, s.hub, s.list.bare)

section Stage

variable {s t : Session}

theorem stage_handle (s : Session) {e : ServerEvent} (h : e.isReport = true) :
    (s.handle e).stage = s.stage := by
  have hframe := (handle_course s h).frame
  rw [stage, hframe.settings, hframe.hub, hframe.list]
  rfl

theorem deliveries_of_stage_eq (h : s.stage = t.stage) (n : Notice) : s.deliveries n = t.deliveries n := by
  have hhub : s.hub = t.hub := congrArg (·.2.1) h
  rw [deliveries, deliveries, hhub]

end Stage

/-- A notice goes into the dossier of its subject. -/
theorem filter_deliveries (s : Session) (n : Notice) (subject : Subject) :
    (s.deliveries n).filter (·.subject? = some subject) =
      if n.subject? = some subject then s.deliveries n else [] := by
  have hsubject : ∀ o ∈ s.deliveries n, o.subject? = n.subject? := by
    intro o ho
    obtain ⟨l, -, rfl⟩ := List.mem_map.1 ho
    rfl
  split
  · next h => exact List.filter_eq_self.2 fun o ho => by simp [hsubject o ho, h]
  · next h => exact List.filter_eq_nil_iff.2 fun o ho => by simp [hsubject o ho, h]

/-- A contact that is known becomes another, and a notice may be told of that. -/
def amend (s : Session) (x : String) (change : Contact → Contact) (notice? : Contact → Option Notice) :
    Session :=
  match s.list.contact? x with
  | none => s
  | some old =>
    { s with
      list := s.list.modifyMember x fun m => { m with contact := change m.contact }
      trace := s.trace ++ ((notice? old).map s.deliveries).getD [] }

theorem applyStatus_eq_amend (s : Session) (x : String) (status : Status) (parent : Option Group) :
    (s.applyStatus x status parent).1 = s.amend x (fun c => { c with status := status }) fun old =>
      if old.status = status then none
      else some (.contactPresence ⟨{ old with status := status }, parent, old.status, status⟩) := by
  cases h : s.list.contact? x with
  | none => rw [applyStatus_of_unknown h, amend, h]
  | some old =>
    rw [applyStatus_of_known h, amend, h]
    dsimp only
    split <;> rfl

theorem buddyIcon_eq_amend (s : Session) (x : String) (icon : Option (List UInt8)) :
    s.buddyIcon x icon = s.amend x (fun c => { c with image := icon }) fun old =>
      some (.modified ⟨{ old with image := icon }, "image", describeImage old.image,
        describeImage icon⟩) := by
  cases h : s.list.contact? x with
  | none => simp only [buddyIcon, amend, h]
  | some old =>
    simp only [buddyIcon, amend, h]
    rfl

/-- What a report may do to a contact and tell of it. -/
structure Amendment (change : Contact → Contact) (notice? : Contact → Option Notice) : Prop where
  identifier : ∀ c, (change c).identifier = c.identifier
  subject : ∀ c, ∀ n ∈ notice? c, n.subject? = some (.contact c.identifier)

/-- Of a report about a contact it depends on the stage alone what it makes of the contact. -/
theorem handle_eq_amend (s : Session) {e : ServerEvent} (h : e.isReport = true) {x : String}
    (subject : e.subject = .contact x) : ∃ change notice?, Amendment change notice? ∧
      ∀ t : Session, s.stage = t.stage → t.handle e = t.amend x change notice? := by
  have hparent {t : Session} (hstage : s.stage = t.stage) : t.list.parentGroup? x = s.list.parentGroup? x :=
    ContactList.parentGroup?_of_bare_eq (congrArg (·.2.2) hstage).symm x
  have hstatus (status : Status) (parent : Option Group) :
      Amendment (fun c => { c with status := status }) fun old => if old.status = status then none
        else some (.contactPresence ⟨{ old with status := status }, parent, old.status, status⟩) := by
    refine ⟨fun _ => rfl, fun c n hn => ?_⟩
    split at hn
    · cases hn
    · cases hn
      rfl
  have himage (icon : Option (List UInt8)) : Amendment (fun c => { c with image := icon }) fun old =>
      some (.modified ⟨{ old with image := icon }, "image", describeImage old.image,
        describeImage icon⟩) := by
    refine ⟨fun _ => rfl, fun c n hn => ?_⟩
    cases hn
    rfl
  have hnothing (t : Session) : t = t.amend x id fun _ => none := by
    unfold amend
    split
    · rfl
    · simp [ContactList.modifyMember_eq_self]
  cases e with
  | buddyStatus info =>
    cases subject
    refine ⟨_, _, hstatus (s.settings.mode.buddyStatus info) (s.list.parentGroup? info.identifier),
      fun t hstage => ?_⟩
    have hsettings : t.settings = s.settings := (congrArg (·.1) hstage).symm
    rw [handle, buddyStatus, applyStatus_eq_amend, hparent hstage, hsettings]
  | buddyOffline y =>
    cases subject
    refine ⟨_, _, hstatus .offline (s.list.parentGroup? x), fun t hstage => ?_⟩
    rw [handle, buddyOffline, applyStatus_eq_amend, hparent hstage]
  | buddyIcon y icon =>
    cases subject
    exact ⟨_, _, himage icon, fun t _ => buddyIcon_eq_amend t x icon⟩
  | futureAuthorizationGranted | youWereAdded =>
    exact ⟨id, fun _ => none, ⟨fun _ => rfl, fun _ _ hn => by cases hn⟩, fun t _ => hnothing t⟩
  | ownInfo | ownExtraInfo => cases subject
  | _ => cases h

section Amend

variable {x : String} {change : Contact → Contact} {notice? : Contact → Option Notice} {s t : Session}
  {subject : Subject}

theorem entries_amend (h : Amendment change notice?) (s : Session) (y : String) :
    (s.amend x change notice?).list.entries y =
      if y = x then (s.list.entries x).modify 0 fun m => { m with contact := change m.contact }
      else s.list.entries y := by
  unfold amend
  split
  · next hnone =>
    have hempty := (ContactList.contact?_eq_none_iff ..).1 hnone
    split
    · next hy => rw [hy, hempty]; rfl
    · rfl
  · exact ContactList.entries_modifyMember s.list x y _ fun m hm => (h.identifier m.contact).trans hm

/-- What is told when a contact is amended is about that contact. -/
theorem trace_amend (h : Amendment change notice?) (s : Session) : ∃ new,
    (s.amend x change notice?).trace = s.trace ++ new ∧ ∀ o ∈ new, o.subject? = some (.contact x) := by
  unfold amend
  split
  · exact ⟨[], (List.append_nil _).symm, by simp⟩
  · next old hold =>
    refine ⟨_, rfl, fun o ho => ?_⟩
    cases hnotice : notice? old with
    | none => simp [hnotice] at ho
    | some n =>
      rw [hnotice, Option.map_some, Option.getD_some] at ho
      obtain ⟨l, -, rfl⟩ := List.mem_map.1 ho
      rw [Occurrence.subject?, h.subject old n hnotice, ContactList.identifier_of_contact? hold]

theorem dossier_amend_of_ne (h : Amendment change notice?) (other : subject ≠ .contact x) :
    (s.amend x change notice?).dossier subject = s.dossier subject := by
  obtain ⟨new, htrace, hnew⟩ := trace_amend h s (x := x)
  have hnone : new.filter (·.subject? = some subject) = [] := by
    refine List.filter_eq_nil_iff.2 fun o ho => ?_
    simpa [hnew o ho] using Ne.symm other
  have hown : (s.amend x change notice?).own = s.own := by
    unfold amend
    split <;> rfl
  have hknowledge : (s.amend x change notice?).knowledge subject = s.knowledge subject := by
    cases subject with
    | contact y =>
      have hy : y ≠ x := fun hy => other (congrArg Subject.contact hy)
      rw [knowledge, entries_amend h, if_neg hy]
      rfl
    | ownStatus | ownMessage => simp only [knowledge, hown]
  rw [dossier, dossier, hknowledge, htrace, List.filter_append, hnone, List.append_nil]

theorem dossier_amend_congr (h : Amendment change notice?) (stage : s.stage = t.stage)
    (same : s.dossier (.contact x) = t.dossier (.contact x)) :
    (s.amend x change notice?).dossier (.contact x) = (t.amend x change notice?).dossier (.contact x) := by
  have hentries : s.list.entries x = t.list.entries x :=
    Knowledge.entries.inj (congrArg Dossier.knowledge same)
  have htold := congrArg Dossier.told same
  have hcontact : s.list.contact? x = t.list.contact? x := by
    rw [ContactList.contact?_eq_entries, ContactList.contact?_eq_entries, hentries]
  have htrace : (s.amend x change notice?).trace.filter (·.subject? = some (.contact x)) =
      (t.amend x change notice?).trace.filter (·.subject? = some (.contact x)) := by
    unfold amend
    rw [hcontact]
    split
    · exact htold
    · next old _ =>
      have hdeliveries : s.deliveries = t.deliveries := funext (deliveries_of_stage_eq stage)
      simp only [List.filter_append, hdeliveries]
      exact congrArg (· ++ _) htold
  rw [dossier, dossier, htrace, knowledge, knowledge, entries_amend h, entries_amend h, hentries]

end Amend

section Own

variable {s t : Session} {subject : Subject}

theorem dossier_announce (s : Session) (own : OwnPresence) (n : Notice) (subject : Subject) :
    ({ s with own := own }.announce n).dossier subject =
      ⟨({ s with own := own } : Session).knowledge subject, s.trace.filter (·.subject? = some subject) ++
        if n.subject? = some subject then s.deliveries n else []⟩ := by
  rw [← filter_deliveries, ← List.filter_append]
  rfl

theorem dossier_ownInfo_of_ne (info : UserInfo) (other : subject ≠ .ownStatus) :
    (s.ownInfo info).1.dossier subject = s.dossier subject := by
  simp only [ownInfo]
  split
  · rfl
  · rw [dossier_announce, if_neg (by simpa [Notice.subject?] using other.symm), List.append_nil]
    cases subject with
    | ownStatus => exact absurd rfl other
    | contact | ownMessage => rfl

theorem dossier_ownInfo_congr (info : UserInfo) (stage : s.stage = t.stage)
    (same : s.dossier .ownStatus = t.dossier .ownStatus) :
    (s.ownInfo info).1.dossier .ownStatus = (t.ownInfo info).1.dossier .ownStatus := by
  have hmask : s.own.mask = t.own.mask := Knowledge.mask.inj (congrArg Dossier.knowledge same)
  have htold := congrArg Dossier.told same
  have hsettings : s.settings = t.settings := congrArg (·.1) stage
  have hreport : s.settings.mode.ownMask info = t.settings.mode.ownMask info := by rw [hsettings]
  have hstatus : s.status = t.status := by rw [status, hmask, status]
  simp only [ownInfo, hstatus, hreport]
  split
  · exact same
  · rw [dossier_announce, dossier_announce, deliveries_of_stage_eq stage]
    exact congrArg (fun told => Dossier.mk _ (told ++ _)) htold

theorem dossier_ownMessage_of_ne (message : Option String) (other : subject ≠ .ownMessage) :
    (s.ownMessage message).1.dossier subject = s.dossier subject := by
  unfold ownMessage
  split
  · rfl
  · split
    · rfl
    · rw [dossier_announce, if_neg (by simpa [Notice.subject?] using other.symm), List.append_nil]
      cases subject with
      | ownMessage => exact absurd rfl other
      | contact | ownStatus => rfl

theorem dossier_ownMessage_congr (message : Option String) (stage : s.stage = t.stage)
    (same : s.dossier .ownMessage = t.dossier .ownMessage) :
    (s.ownMessage message).1.dossier .ownMessage = (t.ownMessage message).1.dossier .ownMessage := by
  have hmessage : s.own.message = t.own.message := Knowledge.message.inj (congrArg Dossier.knowledge same)
  have htold := congrArg Dossier.told same
  unfold ownMessage
  split
  · exact same
  · rw [hmessage]
    split
    · exact same
    · rw [dossier_announce, dossier_announce, deliveries_of_stage_eq stage]
      exact congrArg (fun told => Dossier.mk _ (told ++ _)) htold

end Own

section Handle

variable {s t : Session} {e : ServerEvent} {subject : Subject}

/-- A report leaves what is known of other subjects. -/
theorem dossier_handle_of_ne (h : e.isReport = true) (other : e.subject ≠ subject) :
    (s.handle e).dossier subject = s.dossier subject := by
  cases hsubject : e.subject with
  | contact x =>
    obtain ⟨change, notice?, hamendment, hamend⟩ := handle_eq_amend s h hsubject
    rw [hamend s rfl]
    exact dossier_amend_of_ne hamendment (hsubject ▸ other.symm)
  | ownStatus =>
    cases e with
    | ownInfo info => exact dossier_ownInfo_of_ne info other.symm
    | _ => cases hsubject
  | ownMessage =>
    cases e with
    | ownExtraInfo message => exact dossier_ownMessage_of_ne message other.symm
    | _ => cases hsubject

/-- What comes of its subject goes by what is known of that. -/
theorem dossier_handle_congr (h : e.isReport = true) (stage : s.stage = t.stage)
    (same : s.dossier e.subject = t.dossier e.subject) :
    (s.handle e).dossier e.subject = (t.handle e).dossier e.subject := by
  cases hsubject : e.subject with
  | contact x =>
    obtain ⟨change, notice?, hamendment, hamend⟩ := handle_eq_amend s h hsubject
    rw [hamend s rfl, hamend t stage]
    exact dossier_amend_congr hamendment stage (hsubject ▸ same)
  | ownStatus =>
    cases e with
    | ownInfo info => exact dossier_ownInfo_congr info stage same
    | _ => cases hsubject
  | ownMessage =>
    cases e with
    | ownExtraInfo message => exact dossier_ownMessage_congr message stage same
    | _ => cases hsubject

/-- A report touches the list and our own presence, and tells of its subject. -/
theorem handle_confined (s : Session) (h : e.isReport = true) :
    { s.handle e with list := s.list, own := s.own, trace := s.trace } = s ∧
      ∃ new, (s.handle e).trace = s.trace ++ new ∧ ∀ o ∈ new, o.subject? = some e.subject := by
  have hquiet : ∃ new, s.trace = s.trace ++ new ∧ ∀ o ∈ new, o.subject? = some e.subject :=
    ⟨[], (List.append_nil _).symm, by simp⟩
  have htold {n : Notice} (hn : n.subject? = some e.subject) :
      ∀ o ∈ s.deliveries n, o.subject? = some e.subject := by
    intro o ho
    obtain ⟨l, -, rfl⟩ := List.mem_map.1 ho
    exact hn
  cases hsubject : e.subject with
  | contact x =>
    obtain ⟨change, notice?, hamendment, hamend⟩ := handle_eq_amend s h hsubject
    rw [hamend s rfl]
    refine ⟨?_, trace_amend hamendment s⟩
    unfold amend
    split <;> rfl
  | ownStatus =>
    cases e with
    | ownInfo info =>
      simp only [handle, ownInfo]
      split
      · exact ⟨rfl, hquiet⟩
      · exact ⟨rfl, _, rfl, htold rfl⟩
    | _ => cases hsubject
  | ownMessage =>
    cases e with
    | ownExtraInfo message =>
      simp only [handle, ownMessage]
      split
      · exact ⟨rfl, hquiet⟩
      · split
        · exact ⟨rfl, hquiet⟩
        · exact ⟨rfl, _, rfl, htold rfl⟩
    | _ => cases hsubject

end Handle

section Reports

variable {s t : Session} {events events' : List ServerEvent}

theorem stage_foldl_handle (reports : ∀ e ∈ events, e.isReport = true) (s : Session) :
    (events.foldl handle s).stage = s.stage := by
  induction events generalizing s with
  | nil => rfl
  | cons e events ih =>
    obtain ⟨he, hrest⟩ := List.forall_mem_cons.1 reports
    exact (ih hrest (s.handle e)).trans (stage_handle s he)

/-- Without the reports about others a subject fares the same. -/
theorem dossier_foldl_filter (subject : Subject) (reports : ∀ e ∈ events, e.isReport = true) :
    ∀ {s t : Session}, s.stage = t.stage → s.dossier subject = t.dossier subject →
      (events.foldl handle s).dossier subject =
        ((events.filter (·.subject = subject)).foldl handle t).dossier subject := by
  induction events with
  | nil => exact fun _ same => same
  | cons e events ih =>
    intro s t stage same
    obtain ⟨he, hrest⟩ := List.forall_mem_cons.1 reports
    by_cases hsubject : e.subject = subject
    · rw [List.filter_cons_of_pos (by simpa using hsubject), List.foldl_cons, List.foldl_cons]
      have hstage : (s.handle e).stage = (t.handle e).stage := by
        rw [stage_handle s he, stage_handle t he, stage]
      exact ih hrest hstage (hsubject ▸ dossier_handle_congr he stage (hsubject ▸ same))
    · rw [List.filter_cons_of_neg (by simpa using hsubject), List.foldl_cons]
      exact ih hrest ((stage_handle s he).trans stage) ((dossier_handle_of_ne he hsubject).trans same)

theorem foldl_handle_confined (reports : ∀ e ∈ events, e.isReport = true) (s : Session) :
    { events.foldl handle s with list := s.list, own := s.own, trace := s.trace } = s ∧
      ∃ new, (events.foldl handle s).trace = s.trace ++ new ∧
        ∀ o ∈ new, ∃ e ∈ events, o.subject? = some e.subject := by
  induction events generalizing s with
  | nil => exact ⟨rfl, [], (List.append_nil _).symm, by simp⟩
  | cons e events ih =>
    obtain ⟨he, hrest⟩ := List.forall_mem_cons.1 reports
    obtain ⟨hfirst, new, hnew, htold⟩ := handle_confined s he
    obtain ⟨hothers, more, hmore, htoldMore⟩ := ih hrest (s.handle e)
    refine ⟨?_, new ++ more, by rw [List.foldl_cons, hmore, hnew, List.append_assoc], fun o ho => ?_⟩
    · have hboth := congrArg
        (fun u : Session => { u with list := s.list, own := s.own, trace := s.trace }) hothers
      exact hboth.trans hfirst
    · rcases List.mem_append.1 ho with ho | ho
      · exact ⟨e, List.mem_cons_self, htold o ho⟩
      · obtain ⟨e', he', ho⟩ := htoldMore o ho
        exact ⟨e', List.mem_cons_of_mem _ he', ho⟩

/-- Nothing else is due when reports come in. -/
theorem run_handle (prompt : s.Prompt) (reports : ∀ e ∈ events, e.isReport = true) :
    s.run (events.map Step.handle) = events.foldl handle s := by
  induction events generalizing s with
  | nil => rfl
  | cons e events ih =>
    obtain ⟨he, hrest⟩ := List.forall_mem_cons.1 reports
    have hprompt : (s.handle e).Prompt := Prompt.of_clockwork (clockwork_handle s e) prompt
    have hstep : (s.perform (.handle e)).1 = s.handle e := hprompt.settle
    rw [List.map_cons, run_cons, hstep, List.foldl_cons, ih hprompt hrest]

/-- Two sequences of reports from which each subject hears the same, in the same order, leave everything the
same but for the order in which different subjects were told of. -/
theorem foldl_handle_eq (reports : ∀ e ∈ events, e.isReport = true)
    (reports' : ∀ e ∈ events', e.isReport = true)
    (same : ∀ subject, (events.foldl handle s).dossier subject = (events'.foldl handle s).dossier subject) :
    { events.foldl handle s with trace := [] } = { events'.foldl handle s with trace := [] } := by
  have hentries (x : String) :
      (events.foldl handle s).list.entries x = (events'.foldl handle s).list.entries x :=
    Knowledge.entries.inj (congrArg Dossier.knowledge (same (.contact x)))
  have hbare : (events.foldl handle s).list.bare = (events'.foldl handle s).list.bare := by
    have hstage := (stage_foldl_handle reports s).trans (stage_foldl_handle reports' s).symm
    exact congrArg (·.2.2) hstage
  have hlist := ContactList.ext_of_bare_eq hbare hentries
  have hmask : (events.foldl handle s).own.mask = (events'.foldl handle s).own.mask :=
    Knowledge.mask.inj (congrArg Dossier.knowledge (same .ownStatus))
  have hmessage : (events.foldl handle s).own.message = (events'.foldl handle s).own.message :=
    Knowledge.message.inj (congrArg Dossier.knowledge (same .ownMessage))
  have hown : (events.foldl handle s).own = (events'.foldl handle s).own := by
    cases h : (events.foldl handle s).own
    cases h' : (events'.foldl handle s).own
    rw [h, h'] at hmask hmessage
    exact congrArg₂ OwnPresence.mk hmask hmessage
  have hrest := (foldl_handle_confined reports s).1.trans (foldl_handle_confined reports' s).1.symm
  have hall := congrArg (fun u : Session =>
    { u with list := (events.foldl handle s).list, own := (events.foldl handle s).own, trace := [] }) hrest
  calc { events.foldl handle s with trace := [] }
      = { events'.foldl handle s with
          list := (events.foldl handle s).list, own := (events.foldl handle s).own, trace := [] } := hall
    _ = { events'.foldl handle s with trace := [] } := by rw [hlist, hown]

end Reports

/-- Reports about different subjects are independent of each other. What is known of a subject after some
reports, be it the entries of a contact, our mask or our message, and what anybody has been told of it,
depends on where the session stood and on the reports about that subject. If each subject gets the same
reports in the same order, however they are mingled, the session ends in the same state. Whatever comes, the
list is the same but for statuses and images, nothing else of the session changes, and the trace grows by
notices about subjects of the reports. In a session that can come about, a run of such steps is just that. -/
theorem reports_are_independent (s : Session) {events events' : List ServerEvent}
    (reports : ∀ e ∈ events, e.isReport = true) (reports' : ∀ e ∈ events', e.isReport = true) :
    let t := events.foldl handle s
    let t' := events'.foldl handle s
    (∀ subject, events.filter (·.subject = subject) = events'.filter (·.subject = subject) →
      t.dossier subject = t'.dossier subject) ∧
    ((∀ subject, events.filter (·.subject = subject) = events'.filter (·.subject = subject)) →
      { t with trace := [] } = { t' with trace := [] }) ∧
    t.list.bare = s.list.bare ∧
    { t with list := s.list, own := s.own, trace := s.trace } = s ∧
    (∃ new, t.trace = s.trace ++ new ∧ ∀ o ∈ new, ∃ e ∈ events, o.subject? = some e.subject) ∧
    (s.Reachable → s.run (events.map Step.handle) = t) := by
  intro t t'
  have hdossier (subject : Subject)
      (h : events.filter (·.subject = subject) = events'.filter (·.subject = subject)) :
      t.dossier subject = t'.dossier subject := by
    have hfiltered := dossier_foldl_filter subject reports (s := s) (t := s) rfl rfl
    rw [h] at hfiltered
    exact hfiltered.trans (dossier_foldl_filter subject reports' (s := s) (t := s) rfl rfl).symm
  obtain ⟨hrest, hnew⟩ := foldl_handle_confined reports s
  have hstage : t.stage = s.stage := stage_foldl_handle reports s
  refine ⟨hdossier, fun h => ?_, congrArg (·.2.2) hstage, hrest, hnew, fun reachable => ?_⟩
  · exact foldl_handle_eq reports reports' fun subject => hdossier subject (h subject)
  · exact run_handle reachable.settles.2 reports

/-- Two contacts and we come online, one of the contacts shows its face, and in the end goes offline. The
other order keeps to that of each, and ends in the same. -/
theorem mingled_reports_of_two_contacts :
    let s : Session :=
      { settings := {}, localIdentifier := "12345"
        list := ⟨"root", [⟨.root "root", none⟩], [⟨.resolve "777", "root"⟩, ⟨.resolve "888", "root"⟩]⟩
        hub := ⟨⟨[.tally]⟩, ⟨[.tally]⟩, ⟨[.tally]⟩, ⟨[.tally]⟩⟩ }
    let events : List ServerEvent :=
      [.buddyStatus (.plain "777" .online), .ownInfo (.plain "12345" .online),
        .buddyIcon "777" (some [1, 2, 3]), .buddyStatus (.plain "888" (.ofFlag .away)), .buddyOffline "777",
        .youWereAdded "888"]
    let events' : List ServerEvent :=
      [.buddyStatus (.plain "888" (.ofFlag .away)), .buddyStatus (.plain "777" .online),
        .buddyIcon "777" (some [1, 2, 3]), .buddyOffline "777", .youWereAdded "888",
        .ownInfo (.plain "12345" .online)]
    let t := events.foldl handle s
    let t' := events'.foldl handle s
    (∀ e ∈ events ++ events', e.isReport = true) ∧ events ≠ events' ∧
      t.list.contact? "777" = some { Contact.resolve "777" with image := some [1, 2, 3] } ∧
      t.trace.length = 5 ∧ t.trace ≠ t'.trace ∧
      t.dossier (.contact "777") = t'.dossier (.contact "777") ∧
      { t with trace := [] } = { t' with trace := [] } := by
  intro s events events' t t'
  have reports : ∀ e ∈ events, e.isReport = true := by decide
  have reports' : ∀ e ∈ events', e.isReport = true := by decide
  have hsame (subject : Subject) :
      events.filter (·.subject = subject) = events'.filter (·.subject = subject) := by
    cases subject with
    | contact x =>
      by_cases hx : "777" = x
      · subst hx
        decide
      · by_cases hx' : "888" = x
        · subst hx'
          decide
        · simp [events, events', ServerEvent.subject, UserInfo.plain, hx, hx']
    | ownStatus | ownMessage => decide
  obtain ⟨hdossier, hstate, -⟩ := reports_are_independent s reports reports'
  refine ⟨List.forall_mem_append.2 ⟨reports, reports'⟩, by decide, by decide +kernel, by decide +kernel,
    by decide +kernel, hdossier _ (hsame _), hstate hsame⟩

end Session

end Roster
