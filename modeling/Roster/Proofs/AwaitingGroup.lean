import Roster.Proofs.Runs

/-! Who lies in the awaiting group. A list is orderly if the contacts in that group are the flagged
ones, each with another group to go back to. Parking, releasing, and every operation that is guarded
keep it orderly; the other operations that place a contact disturb it, exactly when they put one into
the awaiting group or take one out of it. -/

namespace Roster

/-- Lies in the awaiting group if flagged, and has then another group to go back to. -/
def Member.Agrees (awaiting : String) (m : Member) : Prop :=
  (m.group = awaiting ↔ m.contact.awaitingAuthorization = true) ∧
    if m.group = awaiting then ∃ p ∈ m.contact.structuralParent, p ≠ awaiting
    else m.contact.structuralParent = none

instance (awaiting : String) (m : Member) : Decidable (m.Agrees awaiting) :=
  inferInstanceAs (Decidable (_ ∧ _))

/-- A contact that was never parked agrees anywhere but in the awaiting group. -/
theorem Member.agrees_iff_of_unparked {awaiting g : String} {c : Contact}
    (hflag : c.awaitingAuthorization = false) (hparent : c.structuralParent = none) :
    Member.Agrees awaiting ⟨c, g⟩ ↔ g ≠ awaiting := by
  by_cases hg : g = awaiting <;> simp [Agrees, hflag, hparent, hg]

theorem Member.agrees_parked_iff {awaiting x origin : String} :
    Member.Agrees awaiting ⟨.parked x origin, awaiting⟩ ↔ origin ≠ awaiting := by
  simp [Agrees, Contact.parked]

namespace ContactList

/-- Every entry agrees. -/
def Agrees (awaiting : String) (l : ContactList) : Prop := ∀ m ∈ l.members, m.Agrees awaiting

/-- Every entry agrees, the root is not the awaiting group, and that group is there if it is needed. -/
structure Orderly (awaiting : String) (l : ContactList) : Prop where
  agrees : l.Agrees awaiting
  root : l.rootName ≠ awaiting
  parks : ∀ m ∈ l.members, m.group = awaiting → (l.group? awaiting).isSome

/-- What becomes of an orderly list: it stays orderly, or some entry does not agree any more. -/
inductive Judged (awaiting : String) (l : ContactList) : Bool → Prop
  | orderly (h : l.Orderly awaiting) : Judged awaiting l false
  | disturbed (h : ¬l.Agrees awaiting) : Judged awaiting l true

variable {awaiting : String} {l l' : ContactList}

theorem Judged.agrees_iff {b : Bool} (h : l.Judged awaiting b) : l.Agrees awaiting ↔ b = false := by
  cases h with
  | orderly h => simp [h.agrees]
  | disturbed h => simp [h]

theorem Judged.of_false (h : l.Judged awaiting false) : l.Orderly awaiting := by
  cases h with
  | orderly h => exact h

/-- An edit that may not come about disturbs only if it does. -/
theorem Judged.guard {p : Prop} [Decidable p] {b : Bool} (hl : l.Orderly awaiting)
    (h : p → l'.Judged awaiting b) : (if p then l' else l).Judged awaiting (p && b) := by
  by_cases hp : p
  · simpa [hp] using h hp
  · simpa [hp] using Judged.orderly hl

section SameBare

variable (h : l'.bare = l.bare)

include h

theorem agrees_of_bare_eq (hl : l.Agrees awaiting) : l'.Agrees awaiting := by
  intro m hm
  obtain ⟨m₀, hm₀, heq⟩ := mem_of_bare_eq h hm
  have hagrees : m₀.bare.Agrees awaiting := hl m₀ hm₀
  rw [heq] at hagrees
  exact hagrees

theorem Orderly.of_bare_eq (hl : l.Orderly awaiting) : l'.Orderly awaiting := by
  refine ⟨agrees_of_bare_eq h hl.agrees, rootName_of_bare_eq h ▸ hl.root, fun m hm hgroup => ?_⟩
  obtain ⟨m₀, hm₀, heq⟩ := mem_of_bare_eq h hm
  have hgroup₀ : m₀.bare.group = m.bare.group := by rw [heq]
  rw [group?_of_bare_eq h]
  exact hl.parks m₀ hm₀ (hgroup₀.trans hgroup)

theorem Judged.of_bare_eq {b : Bool} (hl : l.Judged awaiting b) : l'.Judged awaiting b := by
  cases hl with
  | orderly hl => exact .orderly (hl.of_bare_eq h)
  | disturbed hl => exact .disturbed fun hl' => hl (agrees_of_bare_eq h.symm hl')

end SameBare

theorem Orderly.drops (hl : l.Orderly awaiting) {x : String} (h : l.Drops x l') :
    l'.Orderly awaiting := by
  refine ⟨fun m hm => hl.agrees m (h.members.subset hm), h.rootName ▸ hl.root,
    fun m hm hgroup => ?_⟩
  rw [group?, h.branches]
  exact hl.parks m (h.members.subset hm) hgroup

theorem Orderly.addGroup (hl : l.Orderly awaiting) (g : Group) : (l.addGroup g).Orderly awaiting :=
  ⟨hl.agrees, hl.root, fun m hm hgroup => isSome_group?_addGroup (hl.parks m hm hgroup) g⟩

/-- The contacts of a group go with it, and so the awaiting group is not missed. -/
theorem Orderly.removeGroup (hl : l.Orderly awaiting) (name : String) :
    (l.removeGroup name).Orderly awaiting := by
  refine ⟨fun m hm => hl.agrees m (List.mem_filter.1 hm).1, hl.root, fun m hm hgroup => ?_⟩
  obtain ⟨hm, hne⟩ := List.mem_filter.1 hm
  obtain ⟨b, hb, hname⟩ := (isSome_group?_iff ..).1 (hl.parks m hm hgroup)
  refine (isSome_group?_iff ..).2 ⟨b, (List.mem_eraseP_of_neg ?_).2 hb, hname⟩
  rw [hname, ← hgroup]
  simpa using hne

/-- A renaming disturbs if it takes somebody into the awaiting group or out of it. -/
theorem Orderly.renameGroup (hl : l.Orderly awaiting) (name newName : String) :
    (l.renameGroup name newName).Judged awaiting
      (name ≠ newName ∧ (name = awaiting ∨ newName = awaiting) ∧
        ∃ m ∈ l.members, m.group = name : Bool) := by
  by_cases hsame : name = newName
  · subst hsame
    simpa [renameGroup_self] using Judged.orderly hl
  by_cases htaken : (name = awaiting ∨ newName = awaiting) ∧ ∃ m ∈ l.members, m.group = name
  · rw [decide_eq_true ⟨hsame, htaken⟩]
    obtain ⟨hawaiting, m, hm, hgroup⟩ := htaken
    refine .disturbed fun hagrees => ?_
    have hmoved : (⟨m.contact, newName⟩ : Member).Agrees awaiting :=
      hagrees _ (List.mem_map.2 ⟨m, hm, if_pos hgroup⟩)
    -- the flag went along: it would have to agree with the old name and the new one
    have hiff := hmoved.1.trans (hl.agrees m hm).1.symm
    rw [hgroup] at hiff
    rcases hawaiting with h | h
    · exact hsame (h.trans (hiff.2 h).symm)
    · exact hsame ((hiff.1 h).trans h.symm)
  · rw [decide_eq_false fun h => htaken h.2]
    have hout {m : Member} (hm : m ∈ l.members) (hgroup : m.group = name) :
        name ≠ awaiting ∧ newName ≠ awaiting := by
      have hnone : ¬(name = awaiting ∨ newName = awaiting) := fun h => htaken ⟨h, m, hm, hgroup⟩
      exact not_or.1 hnone
    refine .orderly ⟨fun m' hm' => ?_, hl.root, fun m' hm' hgroup' => ?_⟩ <;>
      obtain ⟨m, hm, rfl⟩ := List.mem_map.1 hm'
    · split
      · next hgroup =>
        obtain ⟨hname, hnew⟩ := hout hm hgroup
        have hagrees := hl.agrees m hm
        rw [Member.Agrees, hgroup] at hagrees
        simpa [Member.Agrees, hname, hnew] using hagrees
      · exact hl.agrees m hm
    · by_cases hgroup : m.group = name
      · rw [if_pos hgroup] at hgroup'
        exact absurd hgroup' (hout hm hgroup).2
      · rw [if_neg hgroup] at hgroup'
        obtain ⟨b, hb, hname⟩ := (isSome_group?_iff ..).1 (hl.parks m hm hgroup')
        have hne : b.group.name ≠ name := by rw [hname, ← hgroup']; exact hgroup
        exact (isSome_group?_iff ..).2 ⟨b, mem_renameFirst hb hne, hname⟩

/-- A new entry disturbs if it does not agree. -/
theorem Orderly.addMember (hl : l.Orderly awaiting) {c : Contact} {g : String}
    (parks : g = awaiting → (l.group? awaiting).isSome) {b : Bool}
    (hb : Member.Agrees awaiting ⟨c, g⟩ ↔ b = false) : (l.addMember c g).Judged awaiting b := by
  cases b with
  | false =>
    refine .orderly ⟨fun m hm => ?_, hl.root, fun m hm hgroup => ?_⟩ <;>
      rcases List.mem_append.1 hm with hm | hm
    · exact hl.agrees m hm
    · rw [List.mem_singleton.1 hm]
      exact hb.2 rfl
    · exact hl.parks m hm hgroup
    · rw [List.mem_singleton.1 hm] at hgroup
      exact parks hgroup
  | true =>
    refine .disturbed fun hagrees => Bool.noConfusion (hb.1 (hagrees _ ?_))
    exact List.mem_append_right _ List.mem_cons_self

/-- A contact that was never parked disturbs if it is added to the awaiting group. -/
theorem Orderly.addUnparked (hl : l.Orderly awaiting) {c : Contact} {g : String}
    (parks : g = awaiting → (l.group? awaiting).isSome) (hflag : c.awaitingAuthorization = false)
    (hparent : c.structuralParent = none) :
    (l.addMember c g).Judged awaiting (g = awaiting : Bool) := by
  refine hl.addMember parks ?_
  rw [Member.agrees_iff_of_unparked hflag hparent, decide_eq_false_iff_not]

/-- The default group is the root or a group under it. -/
theorem Orderly.isSome_defaultGroup (hl : l.Orderly awaiting) (h : l.defaultGroup = awaiting) :
    (l.group? awaiting).isSome := by
  unfold defaultGroup at h
  split at h
  · next g hg =>
    obtain ⟨b, hb, rfl⟩ := List.mem_map.1 (List.mem_of_find?_eq_some hg)
    exact (isSome_group?_iff ..).2 ⟨b, (List.mem_filter.1 hb).1, h⟩
  · exact absurd h hl.root

/-- An amended entry disturbs if it does not agree any more. -/
theorem Orderly.modifyMember (hl : l.Orderly awaiting) {x : String} {f : Member → Member}
    {m₀ : Member} (h : (l.entries x).head? = some m₀)
    (parks : (f m₀).group = awaiting → (l.group? awaiting).isSome) {b : Bool}
    (hb : (f m₀).Agrees awaiting ↔ b = false) : (l.modifyMember x f).Judged awaiting b := by
  rw [← find?_eq_head?_entries] at h
  cases b with
  | false =>
    refine .orderly ⟨fun m hm => ?_, hl.root, fun m hm hgroup => ?_⟩ <;>
      rcases eq_or_mem_of_mem_modifyFirst h hm with rfl | hm
    · exact hb.2 rfl
    · exact hl.agrees m hm
    · exact parks hgroup
    · exact hl.parks m hm hgroup
  | true =>
    exact .disturbed fun hagrees => Bool.noConfusion (hb.1 (hagrees _ (mem_modifyFirst h f)))

/-- Nobody is disturbed who moves between groups other than the awaiting group. -/
theorem Orderly.shift (hl : l.Orderly awaiting) {x group : String} (hinto : group ≠ awaiting)
    (hout : (l.parentGroup? x).map Group.name ≠ some awaiting) :
    (l.shift x group).Orderly awaiting := by
  unfold ContactList.shift
  split
  · cases hx : (l.entries x).head? with
    | none =>
      rw [modifyMember_of_unknown (by rw [contact?_eq_entries, hx]; rfl)]
      exact hl
    | some m =>
      have hm : m ∈ l.members := (mem_entries.1 (List.mem_of_mem_head? hx)).1
      -- the awaiting group is there if it is needed, so the guard has seen it
      have hstays : m.group ≠ awaiting := by
        intro hgroup
        obtain ⟨g, hg⟩ := Option.isSome_iff_exists.1 (hl.parks m hm hgroup)
        apply hout
        rw [parentGroup?, groupNameOf?_eq_entries, hx, Option.map_some, Option.bind_some, hgroup, hg,
          Option.map_some, name_of_group? hg]
      have hagrees := hl.agrees m hm
      refine (hl.modifyMember hx (fun h => absurd h hinto) ?_).of_false
      simpa [Member.Agrees, hinto, hstays] using hagrees
  · exact hl

end ContactList

namespace Session

open ContactList

/-- Every entry of the list agrees. -/
def Agrees (s : Session) : Prop := s.list.Agrees s.settings.awaitingGroup

/-- Nobody has been parked, nor is there a group for it. -/
structure Unparked (s : Session) : Prop where
  unflagged : ∀ m ∈ s.list.members,
    m.contact.awaitingAuthorization = false ∧ m.contact.structuralParent = none
  placed : ∀ m ∈ s.list.members, (s.list.group? m.group).isSome
  unclaimed : ∀ b ∈ s.list.branches, b.group.name ≠ s.settings.awaitingGroup
  root : s.list.rootName ≠ s.settings.awaitingGroup

theorem Unparked.orderly {s : Session} (h : s.Unparked) :
    s.list.Orderly s.settings.awaitingGroup := by
  have hout (m : Member) (hm : m ∈ s.list.members) : m.group ≠ s.settings.awaitingGroup := by
    obtain ⟨b, hb, hname⟩ := (isSome_group?_iff ..).1 (h.placed m hm)
    exact hname ▸ h.unclaimed b hb
  refine ⟨fun m hm => ?_, h.root, fun m hm hgroup => absurd hgroup (hout m hm)⟩
  obtain ⟨hflag, hparent⟩ := h.unflagged m hm
  exact (Member.agrees_iff_of_unparked hflag hparent).2 (hout m hm)

/-- A contact that accepts stays in the awaiting group: its own group is gone, and so is the root. -/
def strands (s : Session) (x : String) : Bool :=
  (s.list.contact? x).any fun c => s.list.groupNameOf? x = some s.settings.awaitingGroup ∧
    s.list.group? (s.home c.structuralParent).name = none

/-- A stranger is parked that belongs to the awaiting group itself. -/
def immures (s : Session) (x : String) (parent : Option String) : Bool :=
  (s.list.contact? x = none ∧ (s.list.group? (s.home parent).name).isSome) ∧
    (s.home parent).name = s.settings.awaitingGroup

def mishandles (s : Session) : ServerEvent → Bool
  | .authorizationAccepted x _ => s.strands x
  | _ => false

/-- What makes flags and groups disagree. A contact gets into the awaiting group unasked, by being added
to it or with a group that is renamed; or gets out of it with its group; or is to go back to it; or
cannot go back. -/
def breaches (s : Session) : Step → Bool
  | .subscribe _ => s.able ∧ s.list.defaultGroup = s.settings.awaitingGroup
  | .subscribeIn group _ =>
    (s.able ∧ (s.list.group? group).isSome) ∧ group = s.settings.awaitingGroup
  | .createUnresolvedContact _ _ parent =>
    (s.list.group? (parent.getD s.list.rootName)).isSome ∧
      parent.getD s.list.rootName = s.settings.awaitingGroup
  | .renameGroup name newName =>
    (s.able ∧ (s.list.group? name).isSome) ∧ name ≠ newName ∧
      (name = s.settings.awaitingGroup ∨ newName = s.settings.awaitingGroup) ∧
      ∃ m ∈ s.list.members, m.group = name
  | .requireAuthorization x parent => s.server.attached && s.immures x parent
  | .authorizationRequired x parent => s.immures x parent
  | .emit event => s.server.attached && s.mishandles event
  | .handle event => s.mishandles event
  | _ => false

variable {s : Session}

theorem isSome_awaitingGroup (s : Session) :
    (s.awaitingList.group? s.settings.awaitingGroup).isSome := by
  rw [group?_awaitingList]
  rfl

theorem awaitingList_orderly (h : s.list.Orderly s.settings.awaitingGroup) :
    s.awaitingList.Orderly s.settings.awaitingGroup := by
  unfold awaitingList
  split
  · exact h
  · exact h.addGroup _

theorem authorizationRequired_judged (h : s.list.Orderly s.settings.awaitingGroup) (x : String)
    (parent : Option String) : (s.authorizationRequired x parent).1.list.Judged
      s.settings.awaitingGroup (s.immures x parent) := by
  rw [authorizationRequired_list, immures, Bool.decide_and]
  refine .guard h fun _ => (awaitingList_orderly h).addMember (fun _ => isSome_awaitingGroup s) ?_
  rw [Member.agrees_parked_iff, decide_eq_false_iff_not]

/-- A contact that accepts lies in the awaiting group then only if it cannot go back. -/
theorem return?_eq_awaiting_iff (h : s.list.Orderly s.settings.awaitingGroup) {x : String} {m : Member}
    (hm : (s.list.entries x).head? = some m) :
    (s.return? m.contact).getD m.group = s.settings.awaitingGroup ↔
      m.group = s.settings.awaitingGroup ∧
        s.list.group? (s.home m.contact.structuralParent).name = none := by
  obtain ⟨hmem, rfl⟩ := mem_entries.1 (List.mem_of_mem_head? hm)
  have hparent : s.list.parentGroup? m.contact.identifier = s.list.group? m.group := by
    rw [parentGroup?, groupNameOf?_eq_entries, hm]
    rfl
  rw [return?, hparent]
  by_cases hgroup : m.group = s.settings.awaitingGroup
  · obtain ⟨g, hg⟩ := Option.isSome_iff_exists.1 (h.parks m hmem hgroup)
    have hback : (s.home m.contact.structuralParent).name ≠ s.settings.awaitingGroup := by
      obtain ⟨-, hto⟩ := h.agrees m hmem
      rw [if_pos hgroup] at hto
      obtain ⟨p, hp, hne⟩ := hto
      rcases s.home_name m.contact.structuralParent with hroot | hnamed
      · rw [hroot]
        exact h.root
      · intro hname
        rw [hname] at hnamed
        exact hne (Option.some.inj (hp.symm.trans hnamed))
    cases hgone : s.list.group? (s.home m.contact.structuralParent).name with
    | none => simp [hgroup]
    | some origin => simp [hgroup, hg, name_of_group? hg, hback]
  · have hstays : (s.list.group? m.group).filter (·.name = s.settings.awaitingGroup) = none := by
      rw [Option.filter_eq_none_iff]
      intro g hg
      rw [name_of_group? hg]
      simpa using hgroup
    simp [hstays, hgroup]

/-- Releasing disturbs if the contact cannot go back. -/
theorem authorizationAccepted_judged (h : s.list.Orderly s.settings.awaitingGroup) (x : String)
    (reason : Option String) :
    (s.authorizationAccepted x reason).list.Judged s.settings.awaitingGroup (s.strands x) := by
  rw [authorizationAccepted_list, strands, contact?_eq_entries, groupNameOf?_eq_entries]
  cases hm : (s.list.entries x).head? with
  | none => exact .orderly h
  | some m =>
    have hback := return?_eq_awaiting_iff h hm
    refine h.modifyMember hm (fun hgroup => ?_) ?_
    · exact h.parks m (mem_entries.1 (List.mem_of_mem_head? hm)).1 (hback.1 hgroup).1
    · rw [Member.agrees_iff_of_unparked rfl rfl, Ne, hback]
      simp

/-- A contact of this session lies in the root, and so not in the awaiting group. -/
theorem addVolatile_orderly (h : s.list.Orderly s.settings.awaitingGroup) (x : String) :
    (s.list.addMember (.volatile x) s.list.rootName).Orderly s.settings.awaitingGroup := by
  refine (h.addMember (fun hroot => absurd hroot h.root) ?_).of_false
  rw [Member.agrees_iff_of_unparked rfl rfl]
  exact iff_of_true h.root rfl

theorem groupNameOf?_authorizationAccepted (h : s.list.Orderly s.settings.awaitingGroup) (x : String)
    (reason : Option String) :
    (s.authorizationAccepted x reason).list.groupNameOf? x = some s.settings.awaitingGroup ↔
      s.strands x = true := by
  rw [authorizationAccepted_list, strands, contact?_eq_entries, groupNameOf?_eq_entries,
    groupNameOf?_eq_entries]
  cases hm : (s.list.entries x).head? with
  | none => simp [hm]
  | some m =>
    have hid : m.contact.released.identifier = x := (mem_entries.1 (List.mem_of_mem_head? hm)).2
    have hback := return?_eq_awaiting_iff h hm
    have hentries := entries_modifyMember s.list x x
      (fun m' => ⟨m.contact.released, (s.return? m.contact).getD m'.group⟩) fun _ _ => hid
    obtain ⟨rest, hrest⟩ := List.head?_eq_some_iff.1 hm
    simp only [Option.map_some, Option.elim_some]
    rw [hentries, if_pos rfl, hrest]
    simp [hback]

theorem handle_judged (h : s.list.Orderly s.settings.awaitingGroup) (e : ServerEvent) :
    (s.handle e).list.Judged s.settings.awaitingGroup (s.mishandles e) := by
  cases e with
  | authorizationRequestReceived x _ =>
    simp only [handle, mishandles, authorizationRequested_list]
    split
    · exact .orderly (addVolatile_orderly h x)
    · exact .orderly h
  | authorizationAccepted x reason => exact authorizationAccepted_judged h x reason
  | authorizationDenied x reason =>
    exact .orderly (h.drops (authorizationDenied_list s x reason))
  | _ => exact .orderly (h.of_bare_eq (handle_course s rfl).frame.list)

/-- What becomes of flags and groups in a step. -/
theorem act_judged (hs : s.Sound) (h : s.list.Orderly s.settings.awaitingGroup) {step : Step}
    (hstep : step.bypasses = false) :
    (s.act step).1.list.Judged s.settings.awaitingGroup (s.breaches step) := by
  cases step with
  | emit e =>
    simp only [act, breaches]
    cases s.server.attached with
    | true => exact handle_judged h e
    | false => exact .orderly h
  | handle e => exact handle_judged h e
  | requireAuthorization x parent =>
    simp only [act, breaches]
    cases s.server.attached with
    | true => exact authorizationRequired_judged h x parent
    | false => exact .orderly h
  | authorizationRequired x parent => exact authorizationRequired_judged h x parent
  | subscribe x =>
    rw [act, breaches, done_fst, subscribe_list, Bool.decide_and]
    exact .guard h fun _ => h.addUnparked h.isSome_defaultGroup rfl rfl
  | subscribeIn group x =>
    rw [act, breaches, done_fst, subscribeIn_list, Bool.decide_and]
    exact .guard h fun hable => h.addUnparked (fun hg => hg ▸ hable.2) rfl rfl
  | unsubscribe x =>
    simp only [act, breaches, done_fst]
    exact .orderly (h.drops (unsubscribe_list s x))
  | moveContact x group =>
    simp only [act, breaches, done_fst]
    rcases moveContact_list s x group with hl | ⟨hl, hinto, hout⟩ <;> rw [hl]
    · exact .orderly h
    · exact .orderly (h.shift hinto hout)
  | createGroup parent name =>
    simp only [act, breaches, done_fst, createGroup_list]
    split
    · exact .orderly (h.addGroup _)
    · exact .orderly h
  | removeGroup name =>
    simp only [act, breaches, done_fst, removeGroup_list]
    split
    · exact .orderly (h.removeGroup name)
    · exact .orderly h
  | renameGroup name newName =>
    rw [act, breaches, done_fst, renameGroup_list, Bool.decide_and]
    exact .guard h fun _ => h.renameGroup name newName
  | createUnresolvedContact x data parent =>
    rw [act, breaches, outcomeOf_fst, createUnresolvedContact_list, Bool.decide_and]
    exact .guard h fun hparent => h.addUnparked (fun hg => hg ▸ hparent) rfl rfl
  | createUnresolvedGroup name => exact .orderly (h.addGroup _)
  | createVolatileContact x => exact .orderly (addVolatile_orderly h x)
  | ensureAwaitingGroup =>
    simp only [act, breaches, ensureAwaitingGroup_eq]
    exact .orderly (awaitingList_orderly h)
  | addListener | removeListener | setIncoming | setOutgoing | replacePolicy => exact .orderly h
  | _ => first | exact .orderly (h.of_bare_eq (act_course hs rfl).frame.list) | cases hstep

theorem perform_judged (hs : s.Sound) (h : s.list.Orderly s.settings.awaitingGroup) {step : Step}
    (hstep : step.bypasses = false) :
    (s.perform step).1.list.Judged (s.perform step).1.settings.awaitingGroup (s.breaches step) := by
  rw [perform_settings hs]
  exact (act_judged hs h hstep).of_bare_eq (settle_course (act_sound hs step)).frame.list

/-- Flags and groups agree all the way. -/
def AgreesThroughout (s : Session) (steps : List Step) : Prop :=
  ∀ before, before <+: steps → (s.run before).Agrees

/-- No step breaches where it is taken. -/
def Unbreached (s : Session) (steps : List Step) : Prop :=
  ∀ before step, before ++ [step] <+: steps → (s.run before).breaches step = false

theorem unbreached_nil (s : Session) : s.Unbreached [] := never_nil breaches s

theorem unbreached_cons {step : Step} {steps : List Step} :
    s.Unbreached (step :: steps) ↔
      s.breaches step = false ∧ (s.perform step).1.Unbreached steps :=
  never_cons

/-- Flags and groups agree up to the first breach, and not right after it. -/
theorem run_judged {steps : List Step} (hs : s.Sound)
    (h : s.list.Orderly s.settings.awaitingGroup) (hsteps : ∀ step ∈ steps, step.bypasses = false) :
    (s.AgreesThroughout steps ↔ s.Unbreached steps) ∧
      (s.Unbreached steps → (s.run steps).list.Orderly (s.run steps).settings.awaitingGroup) := by
  let I (s : Session) : Prop := s.Sound ∧ s.list.Orderly s.settings.awaitingGroup
  have kept : ∀ s, ∀ step ∈ steps, I s → s.breaches step = false → I (s.perform step).1 := by
    rintro s step hstep ⟨hs, h⟩ hq
    have hjudged := perform_judged hs h (hsteps step hstep)
    rw [hq] at hjudged
    exact ⟨perform_sound hs step, hjudged.of_false⟩
  have lost : ∀ s, ∀ step ∈ steps, I s → s.breaches step = true → ¬(s.perform step).1.Agrees := by
    rintro s step hstep ⟨hs, h⟩ hq hnext
    have hjudged := perform_judged hs h (hsteps step hstep)
    exact Bool.noConfusion ((hjudged.agrees_iff.1 hnext).symm.trans hq)
  obtain ⟨hiff, horderly⟩ :=
    throughout_iff_never (fun s (h : I s) => h.2.agrees) kept lost ⟨hs, h⟩
  exact ⟨hiff, fun hunbreached => (horderly hunbreached).2⟩

/-- Where nobody has been parked yet, flags and groups agree through a whole run exactly if no step
of it breaches. As long as they do, a contact that accepts stays in the awaiting group only if there
is no group that it could go back to. -/
theorem flags_agree_iff_unbreached {s : Session} (reachable : s.Reachable) (unparked : s.Unparked)
    (steps : List Step) (bypasses : ∀ step ∈ steps, step.bypasses = false) :
    (s.AgreesThroughout steps ↔ s.Unbreached steps) ∧
      (s.Unbreached steps → ∀ x reason,
        ((s.run steps).authorizationAccepted x reason).list.groupNameOf? x =
          some (s.run steps).settings.awaitingGroup ↔ (s.run steps).strands x = true) := by
  obtain ⟨hiff, horderly⟩ := run_judged reachable.sound unparked.orderly bypasses
  refine ⟨hiff, fun hunbreached x reason => ?_⟩
  exact groupNameOf?_authorizationAccepted (horderly hunbreached) x reason

/-- A contact is parked, is not moved out of its group, and accepts. -/
theorem agreement_of_parked_contact :
    let s : Session :=
      { settings := {}, localIdentifier := "12345", reRequests := false
        list := ⟨"root", [⟨.root "root", none⟩, ⟨.stored "Friends", some "root"⟩], []⟩ }
    let steps : List Step :=
      [.authorizationRequired "777" (some "Friends"), .moveContact "777" "root",
        .handle (.authorizationAccepted "777" none)]
    s.Reachable ∧ s.Unparked ∧ (∀ step ∈ steps, step.bypasses = false) ∧
      s.AgreesThroughout steps := by
  intro s steps
  have reachable : s.Reachable :=
    ⟨{ connection := some ⟨"12345", true⟩, list := some s.list, hasPolicy := true }, s, [], rfl, rfl⟩
  have unparked : s.Unparked := ⟨by simp [s], by simp [s], by decide, by decide⟩
  have bypasses : ∀ step ∈ steps, step.bypasses = false := by decide
  have unbreached : s.Unbreached steps :=
    unbreached_cons.2 ⟨by decide +kernel, unbreached_cons.2 ⟨by decide +kernel,
      unbreached_cons.2 ⟨by decide +kernel, unbreached_nil _⟩⟩⟩
  refine ⟨reachable, unparked, bypasses, ?_⟩
  exact (flags_agree_iff_unbreached reachable unparked steps bypasses).1.2 unbreached

/-- A contact is parked, and another one is added to the group that it is parked in. -/
theorem unflagged_contact_in_awaiting_group :
    ¬∀ (s : Session) (steps : List Step), s.Reachable → s.Unparked →
      (s.list.members.map (·.contact.identifier)).Nodup →
      (∀ step ∈ steps, step.bypasses = false) → (s.run steps).Agrees := by
  intro h
  let s : Session :=
    { settings := {}, localIdentifier := "12345", reRequests := false
      list := ⟨"root", [⟨.root "root", none⟩, ⟨.stored "Friends", some "root"⟩], []⟩ }
  let steps : List Step :=
    [.authorizationRequired "777" (some "Friends"), .subscribeIn s.settings.awaitingGroup "888"]
  have reachable : s.Reachable :=
    ⟨{ connection := some ⟨"12345", true⟩, list := some s.list, hasPolicy := true }, s, [],
      rfl, rfl⟩
  have unparked : s.Unparked := ⟨by simp [s], by simp [s], by decide, by decide⟩
  have hmem : (⟨.resolve "888", s.settings.awaitingGroup⟩ : Member) ∈ (s.run steps).list.members := by
    decide +kernel
  have hagrees := h s steps reachable unparked List.nodup_nil (by decide) _ hmem
  revert hagrees
  decide +kernel

end Session

end Roster
