import Roster.Proofs.Edits

/-! Whether groups and contacts can be told apart. A list is consistent if no name and no identifier is
given twice, the root is there, and so is everybody's group. Each edit keeps it so or spoils it, and the
edits that spoil it are those of operations that do not look at what there is already. -/

namespace Roster

namespace ContactList

/-- The names of all groups. -/
def names (l : ContactList) : List String := l.branches.map (·.group.name)

/-- Whom the entries are about. -/
def identifiers (l : ContactList) : List String := l.members.map (·.contact.identifier)

structure Consistent (l : ContactList) : Prop where
  root : l.rootGroup ∈ l.branches.map Branch.group
  names : l.names.Nodup
  placed : ∀ m ∈ l.members, m.group ∈ l.names
  single : l.identifiers.Nodup

/-- What an edit would do to a consistent list: give a name or an identifier twice, take the root away, or
place a contact nowhere. -/
def spoils (l : ContactList) : Edit → Bool
  | .found group => group.name ∈ l.names
  | .dissolve name => name = l.rootName
  | .rename name newName =>
    name ≠ newName ∧ name ∈ l.names ∧ (newName ∈ l.names ∨ name = l.rootName)
  | .enter contact group => contact.identifier ∈ l.identifiers ∨ group ∉ l.names
  | .park x _ _ => x ∈ l.identifiers
  | .release x back => x ∈ l.identifiers ∧ ∃ g ∈ back, g ∉ l.names
  | .shift .. | .rewrite _ | .leave _ | .detach _ => false

variable {l l' : ContactList}

theorem isSome_group?_iff_mem_names {name : String} : (l.group? name).isSome ↔ name ∈ l.names := by
  rw [isSome_group?_iff, names, List.mem_map]

theorem isSome_contact?_iff_mem_identifiers {x : String} :
    (l.contact? x).isSome ↔ x ∈ l.identifiers := by
  simp [contact?, identifiers]

theorem contact?_eq_none_iff_not_mem {x : String} : l.contact? x = none ↔ x ∉ l.identifiers := by
  rw [← isSome_contact?_iff_mem_identifiers, Option.not_isSome_iff_eq_none]

theorem mem_names_renameFirst {name : String} (newName y : String) {bs : List Branch}
    (hnodup : (bs.map (·.group.name)).Nodup) (hname : name ∈ bs.map (·.group.name)) :
    y ∈ (renameFirst name newName bs).map (·.group.name) ↔
      y = newName ∨ (y ≠ name ∧ y ∈ bs.map (·.group.name)) := by
  induction bs with
  | nil => cases hname
  | cons b bs ih =>
    rw [List.map_cons] at hnodup
    obtain ⟨hnew, hnodup⟩ := List.nodup_cons.1 hnodup
    by_cases hb : b.group.name = name
    · rw [hb] at hnew
      have hrest : y ∈ bs.map (·.group.name) → y ≠ name := by
        rintro hy rfl
        exact hnew hy
      simp only [renameFirst, hb, if_true, List.map_cons, List.mem_cons]
      grind
    · have hname : name ∈ bs.map (·.group.name) :=
        (List.mem_cons.1 hname).resolve_left fun h => hb h.symm
      simp only [renameFirst, hb, if_false, List.map_cons, List.mem_cons, ih hnodup hname]
      grind

/-- A renaming keeps the names distinct if the new one is not taken. -/
theorem nodup_renameFirst_iff {name newName : String} {bs : List Branch}
    (hnodup : (bs.map (·.group.name)).Nodup) (hname : name ∈ bs.map (·.group.name))
    (hne : name ≠ newName) : ((renameFirst name newName bs).map (·.group.name)).Nodup ↔
      newName ∉ bs.map (·.group.name) := by
  induction bs with
  | nil => cases hname
  | cons b bs ih =>
    rw [List.map_cons] at hnodup
    obtain ⟨hfirst, hnodup⟩ := List.nodup_cons.1 hnodup
    by_cases hb : b.group.name = name
    · simp only [renameFirst, hb, if_true, List.map_cons, List.nodup_cons, List.mem_cons]
      grind
    · have hname : name ∈ bs.map (·.group.name) :=
        (List.mem_cons.1 hname).resolve_left fun h => hb h.symm
      have hmem := mem_names_renameFirst newName b.group.name hnodup hname
      simp only [renameFirst, hb, if_false, List.map_cons, List.nodup_cons, List.mem_cons,
        ih hnodup hname, hmem]
      grind

theorem renameFirst_of_not_mem {name newName : String} {bs : List Branch}
    (h : name ∉ bs.map (·.group.name)) : renameFirst name newName bs = bs := by
  induction bs with
  | nil => rfl
  | cons b bs ih =>
    rw [List.map_cons, List.mem_cons, not_or] at h
    rw [renameFirst, if_neg (Ne.symm h.1), ih h.2]

theorem names_removeGroup (l : ContactList) (name : String) :
    (l.removeGroup name).names = l.names.erase name := by
  rw [List.erase_eq_eraseP, names, names, List.eraseP_map]
  have hsame : (fun b : Branch => decide (b.group.name = name)) =
      (name == ·) ∘ fun b : Branch => b.group.name := by
    funext b
    simp only [Function.comp_apply, beq_eq_decide, eq_comm]
  rw [removeGroup, hsame]

section Consistent

variable (h : l.Consistent)

include h

theorem Consistent.rootName_mem : l.rootName ∈ l.names := by
  obtain ⟨b, hb, heq⟩ := List.mem_map.1 h.root
  exact List.mem_map.2 ⟨b, hb, by rw [heq]; rfl⟩

theorem Consistent.of_bare_eq (hbare : l'.bare = l.bare) : l'.Consistent := by
  have hbranches := branches_of_bare_eq hbare
  have hnames : l'.names = l.names := by rw [ContactList.names, ContactList.names, hbranches]
  have hidentifiers : l'.identifiers = l.identifiers := by
    simpa [ContactList.bare, identifiers, Function.comp_def, Member.bare, Contact.bare] using
      congrArg identifiers hbare
  refine ⟨?_, hnames ▸ h.names, fun m hm => ?_, hidentifiers ▸ h.single⟩
  · rw [rootGroup, rootName_of_bare_eq hbare, hbranches]
    exact h.root
  · obtain ⟨m₀, hm₀, heq⟩ := mem_of_bare_eq hbare hm
    have hgroup : m₀.bare.group = m.bare.group := congrArg Member.group heq
    rw [Member.bare_group, Member.bare_group] at hgroup
    rw [hnames, ← hgroup]
    exact h.placed m₀ hm₀

theorem Consistent.addGroup_iff (g : Group) : (l.addGroup g).Consistent ↔ g.name ∉ l.names := by
  have hnames : (l.addGroup g).names = l.names ++ [g.name] := by simp [ContactList.names, addGroup]
  constructor
  · intro h'
    have hnodup := h'.names
    rw [hnames, ← List.concat_eq_append, List.nodup_concat] at hnodup
    exact hnodup.1
  · intro hnew
    refine ⟨?_, ?_, fun m hm => ?_, h.single⟩
    · simp only [addGroup, List.map_append, List.mem_append]
      exact .inl h.root
    · rw [hnames, ← List.concat_eq_append, List.nodup_concat]
      exact ⟨hnew, h.names⟩
    · rw [hnames]
      exact List.mem_append_left _ (h.placed m hm)

theorem Consistent.removeGroup_iff (name : String) :
    (l.removeGroup name).Consistent ↔ name ≠ l.rootName := by
  constructor
  · rintro h' rfl
    have hroot := h'.rootName_mem
    rw [names_removeGroup] at hroot
    exact h.names.not_mem_erase hroot
  · intro hne
    obtain ⟨b, hb, heq⟩ := List.mem_map.1 h.root
    have hkept : b.group.name ≠ name := by
      rw [heq]
      exact hne.symm
    refine ⟨List.mem_map.2 ⟨b, (List.mem_eraseP_of_neg (by simpa using hkept)).2 hb, heq⟩, ?_,
      fun m hm => ?_, ?_⟩
    · rw [names_removeGroup]
      exact h.names.erase _
    · obtain ⟨hm, hgroup⟩ := List.mem_filter.1 hm
      rw [names_removeGroup]
      exact (List.mem_erase_of_ne (by simpa using hgroup)).2 (h.placed m hm)
    · exact h.single.sublist (List.filter_sublist.map _)

theorem Consistent.renameGroup_iff (name newName : String) :
    (l.renameGroup name newName).Consistent ↔ l.spoils (.rename name newName) = false := by
  simp only [spoils, decide_eq_false_iff_not, not_and, not_or]
  by_cases hsame : name = newName
  · subst hsame
    simp [renameGroup_self, h]
  by_cases hname : name ∈ l.names
  · have hmem (y : String) := mem_names_renameFirst newName y h.names hname
    constructor
    · refine fun h' _ _ => ⟨(nodup_renameFirst_iff h.names hname hsame).1 h'.names, ?_⟩
      rintro rfl
      -- nobody bears the old name any more, and it was the root's
      have hroot := (hmem l.rootName).1 h'.rootName_mem
      grind
    · intro hfree
      obtain ⟨hnew, hroot⟩ := hfree hsame hname
      obtain ⟨b, hb, heq⟩ := List.mem_map.1 h.root
      have hkept : b.group.name ≠ name := by
        rw [heq]
        exact Ne.symm hroot
      refine ⟨List.mem_map.2 ⟨b, mem_renameFirst hb hkept, heq⟩,
        (nodup_renameFirst_iff h.names hname hsame).2 hnew, fun m' hm' => ?_, ?_⟩
      · obtain ⟨m, hm, rfl⟩ := List.mem_map.1 hm'
        refine (hmem _).2 ?_
        split
        · exact .inl rfl
        · next hgroup => exact .inr ⟨hgroup, h.placed m hm⟩
      · have hsame : (l.renameGroup name newName).identifiers = l.identifiers := by
          simp only [identifiers, renameGroup, List.map_map]
          exact List.map_congr_left fun m _ => by simp only [Function.comp]; split <;> rfl
        exact hsame ▸ h.single
  · have hself : l.renameGroup name newName = l := by
      have hmembers : l.members.map (fun m => if m.group = name then { m with group := newName } else m) =
          l.members := by
        have hout (m : Member) (hm : m ∈ l.members) : m.group ≠ name :=
          fun hgroup => hname (hgroup ▸ h.placed m hm)
        rw [List.map_congr_left fun m hm => if_neg (hout m hm), List.map_id']
      rw [renameGroup, hmembers, renameFirst_of_not_mem hname]
    simp [hself, h, hname]

theorem Consistent.addMember_iff (c : Contact) (g : String) :
    (l.addMember c g).Consistent ↔ c.identifier ∉ l.identifiers ∧ g ∈ l.names := by
  have hidentifiers : (l.addMember c g).identifiers = l.identifiers ++ [c.identifier] := by
    simp [identifiers, addMember]
  constructor
  · intro h'
    have hsingle := h'.single
    rw [hidentifiers, ← List.concat_eq_append, List.nodup_concat] at hsingle
    exact ⟨hsingle.1, h'.placed ⟨c, g⟩ (List.mem_append_right _ List.mem_cons_self)⟩
  · rintro ⟨hnew, hg⟩
    refine ⟨h.root, h.names, fun m hm => ?_, ?_⟩
    · rcases List.mem_append.1 hm with hm | hm
      · exact h.placed m hm
      · rw [List.mem_singleton.1 hm]
        exact hg
    · rw [hidentifiers, ← List.concat_eq_append, List.nodup_concat]
      exact ⟨hnew, h.single⟩

/-- An entry that is amended has to lie in a group. -/
theorem Consistent.modifyMember_iff {x : String} {f : Member → Member}
    (hf : ∀ m, m.contact.identifier = x → (f m).contact.identifier = x) :
    (l.modifyMember x f).Consistent ↔ ∀ m, (l.entries x).head? = some m → (f m).group ∈ l.names := by
  rw [← find?_eq_head?_entries]
  constructor
  · intro h' m hm
    exact h'.placed (f m) (mem_modifyFirst hm f)
  · intro hplaced
    refine ⟨h.root, h.names, fun m hm => ?_, ?_⟩
    · rcases amended_or_mem_of_mem_modifyMember hm with ⟨m₀, hx, rfl⟩ | hm
      · exact hplaced m₀ hx
      · exact h.placed m hm
    · have hidentifiers := map_modifyFirst (·.contact.identifier) x f l.members fun m hm => by
        have hx : m.contact.identifier = x := by simpa using List.find?_some hm
        rw [hf m hx, hx]
      rw [identifiers, modifyMember, hidentifiers]
      exact h.single

theorem Consistent.drops {x : String} (hdrops : l.Drops x l') : l'.Consistent := by
  have hnames : l'.names = l.names := by
    rw [ContactList.names, ContactList.names, hdrops.branches]
  refine ⟨?_, hnames ▸ h.names, fun m hm => ?_, h.single.sublist (hdrops.members.map _)⟩
  · rw [rootGroup, hdrops.rootName, hdrops.branches]
    exact h.root
  · exact hnames ▸ h.placed m (hdrops.members.subset hm)

theorem Consistent.group_of_head? {x : String} {m : Member} (hm : (l.entries x).head? = some m) :
    m.group ∈ l.names :=
  h.placed m (mem_entries.1 (List.mem_of_mem_head? hm)).1

/-- Nobody lies in two groups. -/
theorem Consistent.group_unique {x g g' : String}
    (hg : x ∈ (l.contactsIn g).map Contact.identifier)
    (hg' : x ∈ (l.contactsIn g').map Contact.identifier) : g = g' := by
  simp only [contactsIn, List.map_map, List.mem_map, List.mem_filter, decide_eq_true_eq,
    Function.comp_apply] at hg hg'
  obtain ⟨m, ⟨hm, rfl⟩, rfl⟩ := hg
  obtain ⟨m', ⟨hm', rfl⟩, hid⟩ := hg'
  rw [List.inj_on_of_nodup_map h.single hm' hm hid]

/-- A consistent list stays so exactly if the edit does not spoil it. -/
theorem Consistent.edit_iff (e : Edit) : (l.edit e).Consistent ↔ l.spoils e = false := by
  cases e with
  | found g => simp only [edit, spoils, h.addGroup_iff, decide_eq_false_iff_not]
  | dissolve name => simp only [edit, spoils, h.removeGroup_iff, decide_eq_false_iff_not, ne_eq]
  | rename name newName => exact h.renameGroup_iff name newName
  | enter c g =>
    simp only [edit, spoils, h.addMember_iff, decide_eq_false_iff_not, not_or, not_not]
  | park x origin awaiting =>
    have hawaiting : (l.withAwaiting awaiting).Consistent ∧ awaiting ∈ (l.withAwaiting awaiting).names := by
      unfold withAwaiting
      split
      · next hg => exact ⟨h, isSome_group?_iff_mem_names.1 hg⟩
      · next hg =>
        rw [isSome_group?_iff_mem_names] at hg
        exact ⟨(h.addGroup_iff _).2 hg, by simp [ContactList.names, addGroup, Group.virtual, Group.stored]⟩
    have hidentifiers : (l.withAwaiting awaiting).identifiers = l.identifiers := by
      rw [identifiers, members_withAwaiting, identifiers]
    simp only [edit, spoils, hawaiting.1.addMember_iff, hidentifiers, hawaiting.2, and_true,
      decide_eq_false_iff_not]
    rfl
  | release x back =>
    have hlist := h.modifyMember_iff (x := x) (f := fun m => ⟨m.contact.released, back.getD m.group⟩)
      fun m hm => hm
    rw [edit, hlist, spoils, decide_eq_false_iff_not,
      ← isSome_contact?_iff_mem_identifiers, contact?_eq_entries]
    cases hm : (l.entries x).head? with
    | none => simp
    | some m =>
      cases back with
      | none => simpa using h.group_of_head? hm
      | some g => simp
  | shift x g =>
    simp only [edit, spoils, shift, iff_true]
    split
    · next hg =>
      rw [isSome_group?_iff_mem_names] at hg
      exact (h.modifyMember_iff (f := fun m => { m with group := g }) fun _ hm => hm).2 fun _ _ => hg
    · exact h
  | rewrite c =>
    simp only [edit, spoils, iff_true]
    refine (h.modifyMember_iff (f := fun m => { m with contact := c }) fun _ _ => rfl).2 ?_
    exact fun m hm => (h.group_of_head? hm :)
  | leave x => exact iff_of_true (h.drops .first) rfl
  | detach x => exact iff_of_true (h.drops .all) rfl

end Consistent

theorem Consistent.edited_iff (h : l.Consistent) (e : Option Edit) :
    (l.edited e).Consistent ↔ e.any l.spoils = false := by
  cases e with
  | none => exact iff_of_true h rfl
  | some e => exact h.edit_iff e

end ContactList

/-- Adds somebody or a group, or renames or removes a group, without looking whether there is another of
that name, or whether it is the root. -/
def Step.isUnchecked : Step → Bool
  | .subscribe _ | .subscribeIn .. | .createGroup .. | .removeGroup _ | .renameGroup ..
  | .createUnresolvedContact .. | .createUnresolvedGroup _ | .createVolatileContact _ | .addContact ..
  | .storeGroup _ | .dropGroup _ | .retitleGroup .. | .createUnresolved .. => true
  | _ => false

namespace Session

open ContactList

/-- What a step makes of a consistent list is not consistent. -/
def spoils (s : Session) (step : Step) : Bool := (s.edit? step).any s.list.spoils

variable {s : Session}

theorem perform_consistent_iff (hs : s.Sound) (h : s.list.Consistent) (step : Step) :
    (s.perform step).1.list.Consistent ↔ s.spoils step = false := by
  have hbare := perform_edited hs step
  rw [spoils, ← h.edited_iff]
  exact ⟨fun h' => h'.of_bare_eq hbare.symm, fun h' => h'.of_bare_eq hbare⟩

theorem removal?_spoils (s : Session) (x : String) : (s.removal? x).any s.list.spoils = false := by
  unfold removal?
  split
  · cases s.list.contact? x with
    | none => rfl
    | some c =>
      cases s.list.parentGroup? x with
      | none => rfl
      | some g =>
        simp only [Option.bind_some]
        split
        · rfl
        · split <;> rfl
  · rfl

theorem parking?_spoils (s : Session) (x : String) (parent : Option String) :
    (s.parking? x parent).any s.list.spoils = false := by
  unfold parking?
  split
  · next h =>
    simp only [Option.any_some, ContactList.spoils, decide_eq_false_iff_not]
    exact contact?_eq_none_iff_not_mem.1 h.1
  · rfl

/-- A contact goes back only to a group that is there. -/
theorem mem_names_of_return? {c : Contact} {g : String} (h : s.return? c = some g) :
    g ∈ s.list.names := by
  simp only [return?, Option.ite_none_right_eq_some, Option.some.injEq] at h
  obtain ⟨⟨-, hg⟩, rfl⟩ := h
  exact isSome_group?_iff_mem_names.1 hg

theorem reaction?_spoils (h : s.list.Consistent) (event : ServerEvent) :
    (s.reaction? event).any s.list.spoils = false := by
  cases event with
  | authorizationRequestReceived x _ =>
    simp only [reaction?]
    split
    · next hx =>
      simp only [Option.any_some, ContactList.spoils, decide_eq_false_iff_not, not_or, not_not]
      exact ⟨contact?_eq_none_iff_not_mem.1 hx, h.rootName_mem⟩
    · rfl
  | authorizationAccepted x _ =>
    simp only [reaction?]
    cases s.list.contact? x with
    | none => rfl
    | some c =>
      simp only [Option.map_some, Option.any_some, ContactList.spoils, decide_eq_false_iff_not]
      rintro ⟨-, g, hback, hg⟩
      exact hg (mem_names_of_return? hback)
  | authorizationDenied x _ => exact removal?_spoils s x
  | _ => rfl

theorem spoils_of_checked (h : s.list.Consistent) {step : Step} (hstep : step.isUnchecked = false) :
    s.spoils step = false := by
  unfold spoils
  cases step with
  | emit event =>
    simp only [edit?]
    split
    · exact reaction?_spoils h event
    · rfl
  | handle event => exact reaction?_spoils h event
  | requireAuthorization x parent =>
    simp only [edit?]
    split
    · exact parking?_spoils s x parent
    · rfl
  | authorizationRequired x parent => exact parking?_spoils s x parent
  | unsubscribe x => exact removal?_spoils s x
  | moveContact x group =>
    simp only [edit?]
    split
    · split <;> rfl
    · rfl
  | ensureAwaitingGroup =>
    simp only [edit?, awaitingGroup?, isSome_group?_iff_mem_names]
    by_cases hg : s.settings.awaitingGroup ∈ s.list.names
    · rw [if_pos hg]
      rfl
    · rw [if_neg hg]
      exact decide_eq_false hg
  | deleteContact | shiftContact =>
    simp only [edit?]
    split <;> rfl
  | subscribe | subscribeIn | createGroup | removeGroup | renameGroup | createUnresolvedContact
  | createUnresolvedGroup | createVolatileContact | addContact | storeGroup | dropGroup
  | retitleGroup | createUnresolved => cases hstep
  | _ => rfl

/-- The list stays consistent through a whole run exactly if no step spoils it, and then nobody in the
awaiting group is in another group, too. Only operations that do not look first can spoil it. -/
theorem consistent_iff_never_spoiled {s : Session} (reachable : s.Reachable)
    (consistent : s.list.Consistent) (steps : List Step) :
    (s.Throughout (·.list.Consistent) steps ↔ s.Never spoils steps) ∧
    (s.Never spoils steps → ∀ x g,
      x ∈ ((s.run steps).list.contactsIn (s.run steps).settings.awaitingGroup).map Contact.identifier →
      x ∈ ((s.run steps).list.contactsIn g).map Contact.identifier →
      g = (s.run steps).settings.awaitingGroup) ∧
    ((∀ step ∈ steps, step.isUnchecked = false) → s.Never spoils steps) := by
  let I (s : Session) : Prop := s.Sound ∧ s.list.Consistent
  have holds (s : Session) (h : I s) : s.list.Consistent := h.2
  have kept : ∀ s, ∀ step ∈ steps, I s → s.spoils step = false → I (s.perform step).1 :=
    fun s step _ ⟨hs, h⟩ hstep => ⟨perform_sound hs step, (perform_consistent_iff hs h step).2 hstep⟩
  have lost : ∀ s, ∀ step ∈ steps, I s → s.spoils step = true →
      ¬(s.perform step).1.list.Consistent := by
    rintro s step - ⟨hs, h⟩ hstep hnext
    exact Bool.noConfusion (((perform_consistent_iff hs h step).1 hnext).symm.trans hstep)
  have hrun := throughout_iff_never holds kept lost ⟨reachable.sound, consistent⟩
  refine ⟨hrun.1, fun hnever x g hawaiting hg => ?_, fun hchecked => ?_⟩
  · exact (hrun.2 hnever).2.group_unique hg hawaiting
  · refine never_of_kept (I := I) (fun s step hmem h => ?_) ⟨reachable.sound, consistent⟩
    have hstep := spoils_of_checked h.2 (hchecked step hmem)
    exact ⟨hstep, kept s step hmem h hstep⟩

/-- A contact is parked, the group it belongs to is renamed, another one is added, and the first accepts. -/
theorem consistency_of_parked_contact :
    let s : Session :=
      { settings := {}, localIdentifier := "12345", reRequests := false
        list := ⟨"Contacts", [⟨.root "Contacts", none⟩, ⟨.stored "Friends", some "Contacts"⟩], []⟩ }
    let steps : List Step :=
      [.authorizationRequired "777" (some "Friends"), .renameGroup "Friends" "Pals",
        .subscribeIn "Pals" "888", .handle (.authorizationAccepted "777" none)]
    s.Reachable ∧ s.list.Consistent ∧ s.Throughout (·.list.Consistent) steps := by
  intro s steps
  have reachable : s.Reachable :=
    ⟨{ connection := some ⟨"12345", true⟩, list := some s.list, hasPolicy := true }, s, [], rfl, rfl⟩
  have consistent : s.list.Consistent := ⟨by decide, by decide, by simp [s], by decide⟩
  have never : s.Never spoils steps :=
    never_cons.2 ⟨by decide +kernel, never_cons.2 ⟨by decide +kernel,
      never_cons.2 ⟨by decide +kernel, never_cons.2 ⟨by decide +kernel, never_nil spoils _⟩⟩⟩⟩
  exact ⟨reachable, consistent,
    (consistent_iff_never_spoiled reachable consistent steps).1.2 never⟩

/-- A contact is parked, and added to another group besides. -/
theorem parked_contact_in_two_groups :
    ¬∀ (s : Session) (steps : List Step), s.Reachable → s.list.Consistent →
      (∀ step ∈ steps, step.bypasses = false) → (s.run steps).list.Consistent := by
  intro h
  let s : Session :=
    { settings := {}, localIdentifier := "12345", reRequests := false
      list := ⟨"Contacts", [⟨.root "Contacts", none⟩, ⟨.stored "Friends", some "Contacts"⟩,
        ⟨.stored "Work", some "Contacts"⟩], []⟩ }
  let steps : List Step :=
    [.authorizationRequired "777" (some "Friends"), .subscribeIn "Work" "777"]
  have reachable : s.Reachable :=
    ⟨{ connection := some ⟨"12345", true⟩, list := some s.list, hasPolicy := true }, s, [],
      rfl, rfl⟩
  have consistent : s.list.Consistent := ⟨by decide, by decide, by simp [s], by decide⟩
  have htwice : ¬(s.run steps).list.identifiers.Nodup := by decide +kernel
  exact htwice (h s steps reachable consistent (by decide)).single

end Session

end Roster
