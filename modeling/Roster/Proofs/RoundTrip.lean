import Roster.Proofs.Heard

/-! A parked contact and its way back. Reports, the authorization of others, polls and time leave alone
what its release depends on: where it lies, which group it belongs to, and the groups there are. -/

namespace Roster

/-- What a notice says about a move of a contact. -/
def Notice.move? (x : String) : Notice → Option ContactMove
  | .moved m => if m.contact.identifier = x then some m else none
  | _ => none

/-- What an application was told of the decision of a contact. -/
def Occurrence.outcome? (x : String) : Occurrence → Option Decision
  | .informed _ y outcome => if y = x then some outcome else none
  | _ => none

/-- Tells of a move of a contact, or of its decision. -/
def Occurrence.concerns (x : String) : Occurrence → Bool
  | .delivered _ (.moved m) => m.contact.identifier = x
  | .informed _ y _ => y = x
  | _ => false

theorem Occurrence.not_concerns_of_isReport {o : Occurrence} (h : o.isReport = true) (x : String) :
    o.concerns x = false := by
  cases o with
  | delivered l n => cases n <;> first | rfl | cases h
  | informed => cases h
  | _ => rfl

theorem Occurrence.not_concerns_of_isQuiet {o : Occurrence} {x y : String} (hxy : x ≠ y)
    (h : o.isQuiet y = true) : o.concerns x = false := by
  cases o with
  | delivered l n =>
    cases n with
    | moved m =>
      have hm : m.contact.identifier = y := by simpa [isQuiet] using h
      simp [concerns, hm, Ne.symm hxy]
    | _ => rfl
  | informed policy z outcome =>
    have hz : z = y := by simpa [isQuiet] using h
    simp [concerns, hz, Ne.symm hxy]
  | _ => rfl

/-- A report about anybody, or an event of the authorization of somebody else. -/
def ServerEvent.spares (x : String) : ServerEvent → Bool
  | .authorizationRequestReceived y _ | .authorizationAccepted y _ | .authorizationDenied y _ => y ≠ x
  | _ => true

/-- What may happen while a contact waits for its decision: reports and the like, the authorization of
others, and a change of what the application decides. -/
def Step.spares (x : String) : Step → Bool
  | .emit event | .handle event => event.spares x
  | .requireAuthorization y _ | .authorizationRequired y _ => y ≠ x
  | .setIncoming _ | .setOutgoing _ => true
  | step => step.isReport

namespace ContactList

theorem entries_addMember_of_ne {l : ContactList} {c : Contact} {x : String}
    (h : c.identifier ≠ x) (g : String) : (l.addMember c g).entries x = l.entries x := by
  rw [entries_addMember, if_neg h, List.append_nil]

end ContactList

namespace Session

open ContactList

/-- The moves of a contact that a listener was told of, in order. -/
def moves (s : Session) (l : Listener) (x : String) : List ContactMove :=
  (s.heard l).filterMap (Notice.move? x)

/-- The decisions of a contact that the application was told of, in order. -/
def outcomes (s : Session) (x : String) : List Decision :=
  s.trace.filterMap (Occurrence.outcome? x)

/-- What stays when a contact is left alone. -/
structure Spared (x : String) (s s' : Session) : Prop where
  entries : (s'.list.entries x).map Member.bare = (s.list.entries x).map Member.bare
  branches : s'.list.branches = s.list.branches
  rootName : s'.list.rootName = s.list.rootName
  settings : s'.settings = s.settings
  hub : s'.hub = s.hub
  installed : s'.desk.installed = s.desk.installed
  trace : ∃ new, s'.trace = s.trace ++ new ∧ ∀ o ∈ new, o.concerns x = false

namespace Spared

variable {x : String} {s s' t : Session}

theorem refl (s : Session) : Spared x s s :=
  ⟨rfl, rfl, rfl, rfl, rfl, rfl, [], (List.append_nil _).symm, by simp⟩

theorem trans (h : Spared x s t) (h' : Spared x t s') : Spared x s s' := by
  obtain ⟨new, e, hnew⟩ := h.trace
  obtain ⟨new', e', hnew'⟩ := h'.trace
  refine ⟨h'.entries.trans h.entries, h'.branches.trans h.branches, h'.rootName.trans h.rootName,
    h'.settings.trans h.settings, h'.hub.trans h.hub, h'.installed.trans h.installed, new ++ new',
    by rw [e', e, List.append_assoc], fun o ho => ?_⟩
  exact (List.mem_append.1 ho).elim (hnew o) (hnew' o)

theorem of_course (h : Course s s') : Spared x s s' := by
  have hframe := h.frame
  obtain ⟨new, e, hnew⟩ := hframe.trace
  exact ⟨entries_of_bare_eq hframe.list x, branches_of_bare_eq hframe.list,
    rootName_of_bare_eq hframe.list, hframe.settings, hframe.hub, congrArg _ hframe.desk, new, e,
    fun o ho => Occurrence.not_concerns_of_isReport (hnew o ho) x⟩

theorem of_quiet {y : String} (hxy : x ≠ y) (h : Quiet y s s')
    (entries : s'.list.entries x = s.list.entries x) (branches : s'.list.branches = s.list.branches)
    (rootName : s'.list.rootName = s.list.rootName) : Spared x s s' := by
  obtain ⟨new, e, hnew⟩ := h.trace
  exact ⟨congrArg _ entries, branches, rootName, h.settings, h.hub, congrArg _ h.desk, new, e,
    fun o ho => Occurrence.not_concerns_of_isQuiet hxy (hnew o ho)⟩

end Spared

section Steps

variable {x y : String} {s : Session}

theorem authorizationRequired_spared (hxy : x ≠ y) (hs : s.Parks) (parent : Option String) :
    Spared x s (s.authorizationRequired y parent).1 := by
  have hquiet := authorizationRequired_quiet s y parent
  have hlist := authorizationRequired_list s y parent
  have hawaiting : s.awaitingList = s.list := if_pos hs
  split at hlist
  · refine .of_quiet hxy hquiet ?_ ?_ ?_ <;> rw [hlist, hawaiting]
    · exact entries_addMember_of_ne (Ne.symm hxy) _
    · rfl
    · rfl
  · exact .of_quiet hxy hquiet (by rw [hlist]) (by rw [hlist]) (by rw [hlist])

theorem authorizationRequested_spared (hxy : x ≠ y) (s : Session) :
    Spared x s (s.authorizationRequested y) := by
  have hquiet := authorizationRequested_quiet s y
  have hlist := authorizationRequested_list s y
  split at hlist
  · refine .of_quiet hxy hquiet ?_ ?_ ?_ <;> rw [hlist]
    · exact entries_addMember_of_ne (Ne.symm hxy) _
    · rfl
    · rfl
  · exact .of_quiet hxy hquiet (by rw [hlist]) (by rw [hlist]) (by rw [hlist])

theorem authorizationAccepted_spared (hxy : x ≠ y) (s : Session) (reason : Option String) :
    Spared x s (s.authorizationAccepted y reason) := by
  have hquiet := authorizationAccepted_quiet s y reason
  have hlist := authorizationAccepted_list s y reason
  cases hy : s.list.contact? y with
  | none =>
    rw [hy, Option.elim_none] at hlist
    exact .of_quiet hxy hquiet (by rw [hlist]) (by rw [hlist]) (by rw [hlist])
  | some c =>
    rw [hy, Option.elim_some] at hlist
    have hid : c.identifier = y := identifier_of_contact? hy
    have hentries := entries_modifyMember s.list y x
      (fun m => ⟨c.released, (s.return? c).getD m.group⟩) fun _ _ => hid
    rw [if_neg hxy] at hentries
    exact .of_quiet hxy hquiet (by rw [hlist, hentries]) (by rw [hlist]; rfl) (by rw [hlist]; rfl)

theorem authorizationDenied_spared (hxy : x ≠ y) (s : Session) (reason : Option String) :
    Spared x s (s.authorizationDenied y reason) := by
  have hquiet := authorizationDenied_quiet s y reason
  have hlist := authorizationDenied_list s y reason
  exact .of_quiet hxy hquiet (hlist.entries_of_ne hxy) hlist.branches hlist.rootName

theorem handle_spared (s : Session) {e : ServerEvent} (he : e.spares x = true) :
    Spared x s (s.handle e) := by
  cases e with
  | authorizationRequestReceived y _ =>
    have hyx : y ≠ x := of_decide_eq_true he
    exact authorizationRequested_spared hyx.symm s
  | authorizationAccepted y reason =>
    have hyx : y ≠ x := of_decide_eq_true he
    exact authorizationAccepted_spared hyx.symm s reason
  | authorizationDenied y reason =>
    have hyx : y ≠ x := of_decide_eq_true he
    exact authorizationDenied_spared hyx.symm s reason
  | _ => exact .of_course (handle_course s rfl)

theorem act_spared (hs : s.Sound) (hp : s.Parks) {step : Step} (h : step.spares x = true) :
    Spared x s (s.act step).1 := by
  cases step with
  | emit e =>
    simp only [act]
    split
    · exact handle_spared s h
    · exact .refl s
  | handle e => exact handle_spared s h
  | requireAuthorization y parent =>
    have hyx : y ≠ x := of_decide_eq_true h
    simp only [act]
    split
    · exact authorizationRequired_spared hyx.symm hp parent
    · exact .refl s
  | authorizationRequired y parent =>
    have hyx : y ≠ x := of_decide_eq_true h
    exact authorizationRequired_spared hyx.symm hp parent
  | setIncoming | setOutgoing =>
    exact ⟨rfl, rfl, rfl, rfl, rfl, rfl, [], (List.append_nil _).symm, by simp⟩
  | _ => first | exact .of_course (act_course hs rfl) | cases h

theorem run_spared (steps : List Step) : ∀ {s : Session}, s.Sound → s.Parks →
    (∀ step ∈ steps, step.spares x = true) → Spared x s (s.run steps) := by
  induction steps with
  | nil => exact fun _ _ _ => .refl _
  | cons step steps ih =>
    intro s hs hp h
    have hact := act_spared hs hp (h step (by simp))
    have hperform : Spared x s (s.perform step).1 :=
      hact.trans (.of_course (settle_course (act_sound hs step)))
    have hparks : (s.perform step).1.Parks := by
      rw [Parks, hperform.settings, group?, hperform.branches]
      exact hp
    exact hperform.trans (ih (perform_sound hs step) hparks
      fun step' h' => h step' (List.mem_cons_of_mem _ h'))

end Steps

section Told

variable {x : String} {l : Listener} {s s' : Session} {new : List Occurrence}

theorem moves_append (h : s'.trace = s.trace ++ new) :
    s'.moves l x = s.moves l x ++ (notices l new).filterMap (Notice.move? x) := by
  rw [moves, heard_append h, List.filterMap_append]
  rfl

theorem outcomes_append (h : s'.trace = s.trace ++ new) :
    s'.outcomes x = s.outcomes x ++ new.filterMap (Occurrence.outcome? x) := by
  rw [outcomes, h, List.filterMap_append]
  rfl

theorem move?_of_not_concerns (h : ∀ o ∈ new, o.concerns x = false) :
    (notices l new).filterMap (Notice.move? x) = [] := by
  rw [List.filterMap_eq_nil_iff]
  intro n hn
  obtain ⟨o, ho, hon⟩ := List.mem_filterMap.1 hn
  have hx := h o ho
  cases o with
  | delivered l' n' =>
    simp only [Occurrence.notice?] at hon
    split at hon
    · cases hon
      cases n with
      | moved m => simpa [Notice.move?, Occurrence.concerns] using hx
      | _ => rfl
    · cases hon
  | _ => cases hon

theorem outcome?_of_not_concerns (h : ∀ o ∈ new, o.concerns x = false) :
    new.filterMap (Occurrence.outcome? x) = [] := by
  rw [List.filterMap_eq_nil_iff]
  intro o ho
  have hx := h o ho
  cases o with
  | informed policy y outcome => simpa [Occurrence.outcome?, Occurrence.concerns] using hx
  | _ => rfl

theorem Spared.moves (h : Spared x s s') : s'.moves l x = s.moves l x := by
  obtain ⟨new, htrace, hnew⟩ := h.trace
  rw [moves_append htrace, move?_of_not_concerns hnew, List.append_nil]

theorem Spared.outcomes (h : Spared x s s') : s'.outcomes x = s.outcomes x := by
  obtain ⟨new, htrace, hnew⟩ := h.trace
  rw [outcomes_append htrace, outcome?_of_not_concerns hnew, List.append_nil]

/-- A listener that is registered for the list, and implements moves, hears of a move. -/
theorem move?_deliveries (hs : s.hub.Lawful) {m : ContactMove} (hl : l ∈ s.hub.subscription.listeners)
    (hears : l.hears (.moved m) = true) :
    (notices l (s.deliveries (.moved m))).filterMap (Notice.move? m.contact.identifier) = [m] := by
  rw [notices_deliveries hs, if_pos ⟨hl, hears⟩]
  simp [Notice.move?]

theorem awaitingNews_not_concerns (s : Session) : ∀ o ∈ s.awaitingNews, o.concerns x = false := by
  intro o ho
  unfold awaitingNews at ho
  split at ho
  · cases ho
  · obtain ⟨l, -, rfl⟩ := List.mem_map.1 ho
    rfl

theorem outcome?_deliveries (s : Session) (n : Notice) :
    (s.deliveries n).filterMap (Occurrence.outcome? x) = [] := by
  rw [List.filterMap_eq_nil_iff]
  intro o ho
  obtain ⟨l, -, rfl⟩ := List.mem_map.1 ho
  rfl

theorem notices_verdicts (s : Session) (y : String) (outcome : Decision) :
    notices l (s.verdicts y outcome) = [] := by
  unfold verdicts
  split <;> rfl

theorem outcome?_verdicts (s : Session) (outcome : Decision) :
    (s.verdicts x outcome).filterMap (Occurrence.outcome? x) =
      if s.desk.installed then [outcome] else [] := by
  unfold verdicts
  split <;> simp [Occurrence.outcome?]

end Told

/-- A contact is parked, and there is a group that it belongs to. -/
structure Waits (s : Session) (x origin : String) : Prop where
  entry : (s.list.entries x).map Member.bare =
    [⟨Contact.parked x origin, s.settings.awaitingGroup⟩]
  origin : (s.list.group? origin).isSome
  parks : s.Parks

theorem Waits.spared {s s' : Session} {x origin : String} (h : s.Waits x origin)
    (spared : Spared x s s') : s'.Waits x origin := by
  refine ⟨?_, ?_, ?_⟩
  · rw [spared.entries, spared.settings]
    exact h.entry
  · rw [group?, spared.branches]
    exact h.origin
  · rw [Parks, group?, spared.branches, spared.settings]
    exact h.parks

/-- The entry of a contact that waits, with whatever status and image. -/
theorem Waits.contact {s : Session} {x origin : String} (h : s.Waits x origin) :
    ∃ c, s.list.entries x = [⟨c, s.settings.awaitingGroup⟩] ∧ c.identifier = x ∧
      c.structuralParent = some origin := by
  have hlength := congrArg List.length h.entry
  rw [List.length_map] at hlength
  obtain ⟨m, hm⟩ := List.length_eq_one_iff.1 hlength
  have hbare := h.entry
  rw [hm, List.map_singleton, List.cons.injEq] at hbare
  obtain ⟨c, g⟩ := m
  have hgroup : g = s.settings.awaitingGroup := congrArg Member.group hbare.1
  have hcontact : c.bare = Contact.parked x origin := congrArg Member.contact hbare.1
  refine ⟨c, by rw [hm, hgroup], ?_, ?_⟩
  · exact congrArg Contact.identifier hcontact
  · exact congrArg Contact.structuralParent hcontact

theorem Waits.accept {s : Session} {x origin : String} (h : s.Waits x origin)
    (reason : Option String) :
    ∃ c back, s.list.entries x = [⟨c, s.settings.awaitingGroup⟩] ∧ c.identifier = x ∧
      back.name = origin ∧
      s.authorizationAccepted x reason =
        ({ s with
          list := s.list.modifyMember x fun _ => ⟨c.released, origin⟩
          trace := s.trace ++ s.deliveries (.moved ⟨c.released, s.awaitingGroup, back⟩) } :
          Session).inform c.released ⟨.accept, reason⟩ := by
  obtain ⟨c, hentries, hid, hparent⟩ := h.contact
  obtain ⟨back, hback⟩ := Option.isSome_iff_exists.1 h.origin
  obtain ⟨awaiting, hawaiting⟩ := Option.isSome_iff_exists.1 h.parks
  have hname := name_of_group? hback
  have hhome : s.home c.structuralParent = back := by
    rw [home, hparent, Option.bind_some, hback, Option.getD_some]
  have hgroup : s.awaitingGroup = awaiting := by
    rw [awaitingGroup, awaitingGroup?, hawaiting, Option.getD_some]
  have hc : s.list.contact? x = some c := by
    rw [contact?_eq_entries, hentries]
    rfl
  have hp : (s.list.parentGroup? x).filter (·.name = s.settings.awaitingGroup) = some awaiting := by
    rw [parentGroup?, groupNameOf?_eq_entries, hentries, List.head?_cons, Option.map_some,
      Option.bind_some, hawaiting]
    simp [name_of_group? hawaiting]
  have haccepted := authorizationAccepted_of_parked hc hp (by rw [hhome, hname]; exact h.origin) reason
  rw [hhome, hname, ← hgroup] at haccepted
  exact ⟨c, back, hentries, hid, hname, haccepted⟩

theorem isSome_home {s : Session} (root : (s.list.group? s.list.rootName).isSome)
    (parent : Option String) : (s.list.group? (s.home parent).name).isSome := by
  unfold home
  cases h : parent.bind s.list.group? with
  | none => exact root
  | some g =>
    obtain ⟨name, -, hg⟩ := Option.bind_eq_some_iff.1 h
    rw [Option.getD_some, name_of_group? hg, hg]
    rfl

/-- A petition moves nobody, and nobody has decided yet. -/
theorem petition_spared (s : Session) (x : String) (c : Contact) :
    Spared x s (s.petition c).1 := by
  -- it is quiet about anybody, and so about somebody else
  obtain ⟨y, hxy⟩ : ∃ y, x ≠ y := ⟨if x = "" then "?" else "", by split <;> simp_all⟩
  have hlist := petition_list s c
  exact .of_quiet hxy (petition_quiet s y c) (by rw [hlist]) (by rw [hlist]) (by rw [hlist])

/-- A stranger that is parked waits. -/
theorem authorizationRequired_waits {s : Session} {x : String}
    (root : (s.list.group? s.list.rootName).isSome) (unknown : s.list.contact? x = none)
    (parent : Option String) :
    ∃ t : Session, t.Waits x (s.home parent).name ∧ t.settings = s.settings ∧ t.hub = s.hub ∧
      t.desk = s.desk ∧ t.list.branches = s.awaitingList.branches ∧
      t.list.rootName = s.list.rootName ∧
      t.trace = s.trace ++ s.awaitingNews ++ s.deliveries
        (.moved ⟨.parked x (s.home parent).name, s.home parent, s.awaitingGroup⟩) ∧
      Spared x t (s.authorizationRequired x parent).1 := by
  have hpark := park_of_unknown unknown parent
  rw [if_pos (isSome_home root parent)] at hpark
  refine ⟨(s.park x parent).1, ?_, ?_⟩
  · rw [hpark]
    refine ⟨?_, ?_, ?_⟩
    · have hnone := (contact?_eq_none_iff s.list x).1 unknown
      have hid : (Contact.parked x (s.home parent).name).identifier = x := rfl
      rw [entries_addMember, entries_awaitingList, hnone, awaitingGroup_name, if_pos hid]
      rfl
    · exact group?_awaitingList_isSome (isSome_home root parent)
    · have hgroup := group?_awaitingList s
      rw [Parks]
      exact Option.isSome_iff_exists.2 ⟨_, hgroup⟩
  · rw [authorizationRequired, unknown, hpark]
    have hroot : s.awaitingList.rootName = s.list.rootName := by
      unfold awaitingList
      split <;> rfl
    exact ⟨rfl, rfl, rfl, rfl, hroot, rfl, petition_spared _ x _⟩

/-- A contact has its answer, and one entry, in a group. -/
def Answered (s : Session) (x : String) (c : Contact) (group : String) : Prop :=
  s.list.entries x = [⟨c.released, group⟩]

section Answered

variable {s : Session} {x group : String} {c : Contact} (h : s.Answered x c group)

include h

theorem Answered.contact? : s.list.contact? x = some c.released := by
  rw [contact?_eq_entries, h]
  rfl

theorem Answered.parentGroup? : s.list.parentGroup? x = s.list.group? group := by
  rw [ContactList.parentGroup?, groupNameOf?_eq_entries, h]
  rfl

/-- Its acceptance changes nothing, unless it is to leave the awaiting group for the root. -/
theorem Answered.accept_list (hgroup : group = s.settings.awaitingGroup → group = s.list.rootName)
    (reason : Option String) : (s.authorizationAccepted x reason).list = s.list := by
  have hid := identifier_of_contact? h.contact?
  rw [authorizationAccepted_list, h.contact?, Option.elim_some]
  refine modifyMember_eq_self fun m hm => ?_
  rw [h, List.head?_cons, Option.some.injEq] at hm
  subst hm
  have hreturn : (s.return? c.released).getD group = group := by
    unfold return?
    split
    · next hcond =>
      obtain ⟨g, hg⟩ := Option.isSome_iff_exists.1 hcond.1
      obtain ⟨hg, hawaiting⟩ := Option.filter_eq_some_iff.1 hg
      rw [hid, h.parentGroup?] at hg
      have hname := (name_of_group? hg).symm.trans (of_decide_eq_true hawaiting)
      rw [Option.getD_some]
      exact (hgroup hname).symm
    · rfl
  rw [hreturn]
  rfl

theorem Answered.accept_moves (hgroup : group ≠ s.settings.awaitingGroup) (reason : Option String)
    (l : Listener) : (s.authorizationAccepted x reason).moves l x = s.moves l x := by
  have hp : (s.list.parentGroup? x).filter (·.name = s.settings.awaitingGroup) = none := by
    rw [Option.filter_eq_none_iff, h.parentGroup?]
    intro g hg
    rw [name_of_group? hg]
    simpa using hgroup
  have htrace : (s.authorizationAccepted x reason).trace =
      s.trace ++ s.verdicts c.released.identifier ⟨.accept, reason⟩ := by
    rw [authorizationAccepted_of_unparked h.contact? hp, inform_trace]
    rfl
  rw [moves_append htrace, notices_verdicts, List.filterMap_nil, List.append_nil]

end Answered

/-- A contact that does not belong to the awaiting group as such belongs there only with the root. -/
theorem home_of_awaiting {s : Session} {parent : Option String}
    (hparent : parent = some s.settings.awaitingGroup → s.awaitingGroup? = none)
    (hname : (s.home parent).name = s.settings.awaitingGroup) :
    (s.home parent).name = s.list.rootName := by
  rcases s.home_name parent with hroot | hnamed
  · exact hroot
  · rw [hname] at hnamed
    have hnone : s.list.group? s.settings.awaitingGroup = none := hparent hnamed
    rw [home, hnamed, Option.bind_some, hnone]
    rfl

end Session

end Roster
