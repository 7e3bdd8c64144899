import Roster.Proofs.Consistency

/-! Who lies in a group. An edit puts some into it, and whoever else lies there once it is made has lain
there before. -/

namespace Roster

namespace ContactList

/-- Who lies in a group. -/
def lodgers (l : ContactList) (group : String) : List String :=
  (l.contactsIn group).map Contact.identifier

/-- Whom an edit puts into a group. -/
def admitted (l : ContactList) (group : String) : Edit → List String
  | .enter contact g => if g = group then [contact.identifier] else []
  | .park x _ awaiting => if awaiting = group then [x] else []
  | .rename name newName => if newName = group then l.lodgers name else []
  | .release x back => if back = some group then l.identifiers.filter (· = x) else []
  | .shift x g => if g = group ∧ (l.group? g).isSome then l.identifiers.filter (· = x) else []
  | .found _ | .dissolve _ | .rewrite _ | .leave _ | .detach _ => []

variable {l l' : ContactList} {x group : String}

theorem mem_lodgers : x ∈ l.lodgers group ↔
    ∃ m ∈ l.members, m.contact.identifier = x ∧ m.group = group := by
  simp only [lodgers, contactsIn, List.map_map, List.mem_map, List.mem_filter, decide_eq_true_eq,
    Function.comp_apply, and_assoc]
  exact exists_congr fun m => and_congr_right fun _ => and_comm

theorem mem_lodgers_of_bare_eq (h : l'.bare = l.bare) (hx : x ∈ l'.lodgers group) :
    x ∈ l.lodgers group := by
  obtain ⟨m, hm, rfl, rfl⟩ := mem_lodgers.1 hx
  obtain ⟨m₀, hm₀, hbare⟩ := mem_of_bare_eq h hm
  have hid : m₀.bare.contact.identifier = m.bare.contact.identifier := by rw [hbare]
  have hgroup : m₀.bare.group = m.bare.group := by rw [hbare]
  exact mem_lodgers.2 ⟨m₀, hm₀, hid, hgroup⟩

theorem mem_lodgers_of_sublist (h : l'.members.Sublist l.members) (hx : x ∈ l'.lodgers group) :
    x ∈ l.lodgers group := by
  obtain ⟨m, hm, hmx⟩ := mem_lodgers.1 hx
  exact mem_lodgers.2 ⟨m, h.subset hm, hmx⟩

theorem mem_lodgers_of_parentGroup? (h : (l.parentGroup? x).map Group.name = some group) :
    x ∈ l.lodgers group := by
  obtain ⟨g, hg, rfl⟩ := Option.map_eq_some_iff.1 h
  obtain ⟨name, hname, hfound⟩ := Option.bind_eq_some_iff.1 hg
  obtain ⟨m, hm, rfl⟩ := Option.map_eq_some_iff.1 hname
  exact mem_lodgers.2 ⟨m, List.mem_of_find?_eq_some hm, by simpa using List.find?_some hm,
    (name_of_group? hfound).symm⟩

theorem exists_find?_of_mem_identifiers (hx : x ∈ l.identifiers) :
    ∃ m, l.members.find? (·.contact.identifier = x) = some m ∧ m.contact.identifier = x := by
  obtain ⟨c, hc⟩ := Option.isSome_iff_exists.1 (isSome_contact?_iff_mem_identifiers.2 hx)
  obtain ⟨m, hm, -⟩ := Option.map_eq_some_iff.1 hc
  exact ⟨m, hm, by simpa using List.find?_some hm⟩

theorem Consistent.find?_of_mem (h : l.Consistent) {m : Member} (hm : m ∈ l.members) :
    l.members.find? (·.contact.identifier = m.contact.identifier) = some m := by
  obtain ⟨m', hfind, hid⟩ := exists_find?_of_mem_identifiers (List.mem_map.2 ⟨m, hm, rfl⟩)
  rwa [List.inj_on_of_nodup_map h.single (List.mem_of_find?_eq_some hfind) hm hid] at hfind

/-- In a consistent list a contact is found where it lies. -/
theorem Consistent.parentGroup?_of_mem_lodgers (h : l.Consistent) (hx : x ∈ l.lodgers group) :
    (l.parentGroup? x).map Group.name = some group := by
  obtain ⟨m, hm, rfl, rfl⟩ := mem_lodgers.1 hx
  obtain ⟨g, hg⟩ := Option.isSome_iff_exists.1 (isSome_group?_iff_mem_names.2 (h.placed m hm))
  simp [parentGroup?, groupNameOf?, h.find?_of_mem hm, hg, name_of_group? hg]

theorem mem_lodgers_addMember {c : Contact} {g : String} :
    x ∈ (l.addMember c g).lodgers group ↔ x ∈ l.lodgers group ∨ (x = c.identifier ∧ g = group) := by
  simp only [mem_lodgers, addMember, List.mem_append, List.mem_singleton]
  constructor
  · rintro ⟨m, hm | rfl, hx, hg⟩
    · exact .inl ⟨m, hm, hx, hg⟩
    · exact .inr ⟨hx.symm, hg⟩
  · rintro (⟨m, hm, hx, hg⟩ | ⟨rfl, rfl⟩)
    · exact ⟨m, .inl hm, hx, hg⟩
    · exact ⟨_, .inr rfl, rfl, rfl⟩

/-- Whoever lies in a group once an entry has been amended has lain there before, or is who the entry is
about. -/
theorem mem_lodgers_modifyMember {y : String} {f : Member → Member}
    (hf : ∀ m, m.contact.identifier = y → (f m).contact.identifier = y)
    (hx : x ∈ (l.modifyMember y f).lodgers group) :
    x ∈ l.lodgers group ∨
      x = y ∧ ∃ m ∈ l.members, m.contact.identifier = y ∧ (f m).group = group := by
  obtain ⟨m, hm, rfl, rfl⟩ := mem_lodgers.1 hx
  rcases amended_or_mem_of_mem_modifyMember hm with ⟨m₀, hy, rfl⟩ | hm
  · have hid : m₀.contact.identifier = y := by simpa using List.find?_some hy
    exact .inr ⟨hf m₀ hid, m₀, List.mem_of_find?_eq_some hy, hid, rfl⟩
  · exact .inl (mem_lodgers.2 ⟨m, hm, rfl, rfl⟩)

/-- The entry that is amended lies where it is put. -/
theorem mem_lodgers_of_modifyMember {y : String} {f : Member → Member}
    (hf : ∀ m, m.contact.identifier = y → (f m).contact.identifier = y ∧ (f m).group = group)
    (hy : y ∈ l.identifiers) : y ∈ (l.modifyMember y f).lodgers group := by
  obtain ⟨m, hm, hid⟩ := exists_find?_of_mem_identifiers hy
  exact mem_lodgers.2 ⟨f m, mem_modifyFirst hm f, hf m hid⟩

/-- Whoever lies in a group after an edit has lain there before, or is put there. -/
theorem lodges_or_admitted {e : Edit} (hx : x ∈ (l.edit e).lodgers group) :
    x ∈ l.lodgers group ∨ x ∈ l.admitted group e := by
  cases e with
  | found g => exact .inl hx
  | dissolve name => exact .inl (mem_lodgers_of_sublist List.filter_sublist hx)
  | rename name newName =>
    obtain ⟨m', hm', rfl, rfl⟩ := mem_lodgers.1 hx
    obtain ⟨m, hm, rfl⟩ := List.mem_map.1 hm'
    by_cases hname : m.group = name
    · refine .inr ?_
      simp only [hname, if_true, admitted]
      exact mem_lodgers.2 ⟨m, hm, rfl, hname⟩
    · refine .inl ?_
      simp only [hname, if_false]
      exact mem_lodgers.2 ⟨m, hm, rfl, rfl⟩
  | enter c g =>
    refine (mem_lodgers_addMember.1 hx).imp_right ?_
    rintro ⟨rfl, rfl⟩
    simp [admitted]
  | park y origin awaiting =>
    rcases mem_lodgers_addMember.1 hx with hx | ⟨rfl, rfl⟩
    · exact .inl (mem_lodgers_of_sublist (by rw [members_withAwaiting]) hx)
    · exact .inr (by simp [admitted])
  | release y back =>
    rcases mem_lodgers_modifyMember (f := fun m => ⟨m.contact.released, back.getD m.group⟩)
      (fun _ hm => hm) hx with hx | ⟨rfl, m, hm, hid, hgroup⟩
    · exact .inl hx
    · cases back with
      | none => exact .inl (mem_lodgers.2 ⟨m, hm, hid, hgroup⟩)
      | some g =>
        refine .inr ?_
        obtain rfl : g = group := hgroup
        simpa [admitted, identifiers] using ⟨m, hm, hid⟩
  | shift y g =>
    rw [edit, shift] at hx
    split at hx
    · next hg =>
      rcases mem_lodgers_modifyMember (f := fun m => { m with group := g }) (fun _ hm => hm) hx
        with hx | ⟨rfl, m, hm, hid, hgroup⟩
      · exact .inl hx
      · refine .inr ?_
        obtain rfl : g = group := hgroup
        simpa [admitted, hg, identifiers] using ⟨m, hm, hid⟩
    · exact .inl hx
  | rewrite c =>
    rcases mem_lodgers_modifyMember (f := fun m => { m with contact := c }) (fun _ _ => rfl) hx
      with hx | ⟨rfl, m, hm, hid, hgroup⟩
    · exact .inl hx
    · exact .inl (mem_lodgers.2 ⟨m, hm, hid, hgroup⟩)
  | leave y => exact .inl (mem_lodgers_of_sublist List.eraseP_sublist hx)
  | detach y => exact .inl (mem_lodgers_of_sublist List.filter_sublist hx)

theorem lodges_of_admitted {e : Edit} (hx : x ∈ l.admitted group e) : x ∈ (l.edit e).lodgers group := by
  cases e with
  | rename name newName =>
    simp only [admitted, List.mem_ite_nil_right] at hx
    obtain ⟨rfl, hx⟩ := hx
    obtain ⟨m, hm, rfl, rfl⟩ := mem_lodgers.1 hx
    exact mem_lodgers.2 ⟨_, List.mem_map.2 ⟨m, hm, rfl⟩, by simp⟩
  | enter c g =>
    simp only [admitted, List.mem_ite_nil_right, List.mem_singleton] at hx
    exact mem_lodgers_addMember.2 (.inr ⟨hx.2, hx.1⟩)
  | park y origin awaiting =>
    simp only [admitted, List.mem_ite_nil_right, List.mem_singleton] at hx
    exact mem_lodgers_addMember.2 (.inr ⟨hx.2, hx.1⟩)
  | release y back =>
    simp only [admitted, List.mem_ite_nil_right, List.mem_filter, decide_eq_true_eq] at hx
    obtain ⟨rfl, hx, rfl⟩ := hx
    exact mem_lodgers_of_modifyMember (fun _ hm => ⟨hm, rfl⟩) hx
  | shift y g =>
    simp only [admitted, List.mem_ite_nil_right, List.mem_filter, decide_eq_true_eq] at hx
    obtain ⟨⟨rfl, hg⟩, hx, rfl⟩ := hx
    rw [edit, shift, if_pos hg]
    exact mem_lodgers_of_modifyMember (fun _ hm => ⟨hm, rfl⟩) hx
  | _ => cases hx

end ContactList

end Roster
