import Roster.ContactList

/-! The entries of a contact in a list, and what the edits of a list do to them. A list without the
statuses and images of its contacts is its bare form: reports change nothing of it. An edit that
only amends entries and adds some `Extends` the list. -/

namespace Roster

/-- All of a contact that reports do not change. -/
def Contact.bare (c : Contact) : Contact := { c with status := .offline, image := none }

/-- Who an entry is about, and with which status. -/
def Member.tag (m : Member) : String × Status := (m.contact.identifier, m.contact.status)

def Member.bare (m : Member) : Member := { m with contact := m.contact.bare }

def ContactList.bare (l : ContactList) : ContactList :=
  { l with members := l.members.map Member.bare }

@[simp] theorem Member.bare_group (m : Member) : m.bare.group = m.group := rfl

namespace ContactList

/-- Every entry of a contact, in order. The first is the one that is found. -/
def entries (l : ContactList) (x : String) : List Member :=
  l.members.filter (·.contact.identifier = x)

theorem find?_eq_head?_entries (l : ContactList) (x : String) :
    l.members.find? (·.contact.identifier = x) = (l.entries x).head? :=
  (List.head?_filter ..).symm

theorem contact?_eq_entries (l : ContactList) (x : String) :
    l.contact? x = (l.entries x).head?.map Member.contact := by
  rw [contact?, find?_eq_head?_entries]

theorem groupNameOf?_eq_entries (l : ContactList) (x : String) :
    l.groupNameOf? x = (l.entries x).head?.map Member.group := by
  rw [groupNameOf?, find?_eq_head?_entries]

theorem contact?_eq_none_iff (l : ContactList) (x : String) :
    l.contact? x = none ↔ l.entries x = [] := by
  rw [contact?_eq_entries, Option.map_eq_none_iff, List.head?_eq_none_iff]

theorem mem_entries {l : ContactList} {x : String} {m : Member} :
    m ∈ l.entries x ↔ m ∈ l.members ∧ m.contact.identifier = x := by
  simp [entries]

theorem identifier_of_contact? {l : ContactList} {x : String} {c : Contact}
    (h : l.contact? x = some c) : c.identifier = x := by
  obtain ⟨m, hm, rfl⟩ := Option.map_eq_some_iff.1 h
  simpa using List.find?_some hm

theorem name_of_group? {l : ContactList} {name : String} {g : Group} (h : l.group? name = some g) :
    g.name = name := by
  obtain ⟨b, hb, rfl⟩ := Option.map_eq_some_iff.1 h
  simpa using List.find?_some hb

theorem isSome_group?_iff (l : ContactList) (name : String) :
    (l.group? name).isSome ↔ ∃ b ∈ l.branches, b.group.name = name := by
  simp [group?, Option.isSome_map]

theorem isSome_group?_addGroup {l : ContactList} {name : String} (h : (l.group? name).isSome)
    (g : Group) : ((l.addGroup g).group? name).isSome := by
  obtain ⟨b, hb, hname⟩ := (isSome_group?_iff ..).1 h
  exact (isSome_group?_iff ..).2 ⟨b, List.mem_append_left _ hb, hname⟩

/-- Only the entry that is found counts. -/
theorem map_modifyFirst {α : Type} (g : Member → α) (x : String) (f : Member → Member)
    (ms : List Member) (h : ∀ m, ms.find? (·.contact.identifier = x) = some m → g (f m) = g m) :
    (modifyFirst x f ms).map g = ms.map g := by
  induction ms with
  | nil => rfl
  | cons m ms ih =>
    by_cases hm : m.contact.identifier = x
    · simp [modifyFirst, hm, h m (by simp [hm])]
    · simp only [modifyFirst, hm, if_false, List.map_cons, List.cons.injEq, true_and]
      exact ih fun m' hm' => h m' (by simpa [hm] using hm')

/-- An edit of the first entry of a contact is one of the first of its entries. -/
theorem filter_modifyFirst (x y : String) (f : Member → Member)
    (h : ∀ m, m.contact.identifier = x → (f m).contact.identifier = x) (ms : List Member) :
    (modifyFirst x f ms).filter (·.contact.identifier = y) =
      if y = x then (ms.filter (·.contact.identifier = x)).modify 0 f
      else ms.filter (·.contact.identifier = y) := by
  induction ms with
  | nil => simp [modifyFirst]
  | cons m ms ih =>
    by_cases hm : m.contact.identifier = x
    · have hf := h m hm
      by_cases hy : y = x
      · simp [modifyFirst, hm, hf, hy]
      · simp [modifyFirst, hm, hf, hy, Ne.symm hy]
    · by_cases hy : y = x
      · subst hy
        simpa [modifyFirst, hm] using ih
      · by_cases hmy : m.contact.identifier = y
        · simpa [modifyFirst, hm, hy, hmy] using ih
        · simpa [modifyFirst, hm, hy, hmy] using ih

theorem entries_modifyMember (l : ContactList) (x y : String) (f : Member → Member)
    (h : ∀ m, m.contact.identifier = x → (f m).contact.identifier = x) :
    (l.modifyMember x f).entries y =
      if y = x then (l.entries x).modify 0 f else l.entries y :=
  filter_modifyFirst x y f h l.members

theorem mem_modifyFirst {x : String} {ms : List Member} {m : Member}
    (h : ms.find? (·.contact.identifier = x) = some m) (f : Member → Member) :
    f m ∈ modifyFirst x f ms := by
  induction ms with
  | nil => cases h
  | cons m' ms ih =>
    by_cases hx : m'.contact.identifier = x
    · obtain rfl : m' = m := by simpa [hx] using h
      simp [modifyFirst, hx]
    · simp only [modifyFirst, hx, if_false]
      exact List.mem_cons_of_mem _ (ih (by simpa [hx] using h))

theorem eq_or_mem_of_mem_modifyFirst {x : String} {f : Member → Member} {ms : List Member}
    {m₀ m : Member} (h : ms.find? (·.contact.identifier = x) = some m₀)
    (hm : m ∈ modifyFirst x f ms) : m = f m₀ ∨ m ∈ ms := by
  induction ms with
  | nil => cases h
  | cons m' ms ih =>
    by_cases hx : m'.contact.identifier = x
    · obtain rfl : m' = m₀ := by simpa [hx] using h
      simp only [modifyFirst, hx, if_true, List.mem_cons] at hm
      exact hm.imp_right (List.mem_cons_of_mem _)
    · simp only [modifyFirst, hx, if_false, List.mem_cons] at hm
      rcases hm with rfl | hm
      · exact .inr List.mem_cons_self
      · exact (ih (by simpa [hx] using h) hm).imp_right (List.mem_cons_of_mem _)

/-- An edit that changes nothing of the entry that is found changes nothing. -/
theorem modifyMember_eq_self {l : ContactList} {x : String} {f : Member → Member}
    (h : ∀ m, (l.entries x).head? = some m → f m = m) : l.modifyMember x f = l := by
  have hmap := map_modifyFirst id x f l.members fun m hm => h m (by rw [← find?_eq_head?_entries, hm])
  rw [List.map_id, List.map_id] at hmap
  rw [modifyMember, hmap]

theorem entries_addMember (l : ContactList) (c : Contact) (g x : String) :
    (l.addMember c g).entries x =
      l.entries x ++ if c.identifier = x then [⟨c, g⟩] else [] := by
  by_cases h : c.identifier = x <;> simp [entries, addMember, h]

theorem contact?_setStatus (l : ContactList) (x y : String) (st : Status) :
    (l.setStatus x st).contact? y =
      if y = x then (l.contact? x).map fun c => { c with status := st } else l.contact? y := by
  have hf (m : Member) (h : m.contact.identifier = x) :
      ({ m with contact := { m.contact with status := st } } : Member).contact.identifier = x := h
  simp only [contact?_eq_entries, setStatus, entries_modifyMember l x y _ hf]
  split
  · cases l.entries x <;> rfl
  · rfl

theorem bare_setStatus (l : ContactList) (x : String) (st : Status) :
    (l.setStatus x st).bare = l.bare := by
  have h := map_modifyFirst Member.bare x
    (fun m => { m with contact := { m.contact with status := st } }) l.members fun _ _ => rfl
  simp only [bare, setStatus, modifyMember, h]

theorem bare_setImage (l : ContactList) (x : String) (image : Option (List UInt8)) :
    (l.setImage x image).bare = l.bare := by
  have h := map_modifyFirst Member.bare x
    (fun m => { m with contact := { m.contact with image := image } }) l.members fun _ _ => rfl
  simp only [bare, setImage, modifyMember, h]

theorem entries_bare (l : ContactList) (x : String) :
    l.bare.entries x = (l.entries x).map Member.bare := by
  simp only [entries, bare, List.filter_map]
  rfl

section SameBare

variable {l l' : ContactList} (h : l'.bare = l.bare)

include h

theorem entries_of_bare_eq (x : String) :
    (l'.entries x).map Member.bare = (l.entries x).map Member.bare := by
  rw [← entries_bare, ← entries_bare, h]

theorem mem_of_bare_eq {m : Member} (hm : m ∈ l'.members) : ∃ m₀ ∈ l.members, m₀.bare = m.bare := by
  have hbare : m.bare ∈ l.bare.members := h ▸ List.mem_map_of_mem hm
  exact List.mem_map.1 hbare

theorem branches_of_bare_eq : l'.branches = l.branches := by
  simpa [bare] using congrArg ContactList.branches h

theorem rootName_of_bare_eq : l'.rootName = l.rootName := by
  simpa [bare] using congrArg ContactList.rootName h

theorem group?_of_bare_eq (name : String) : l'.group? name = l.group? name := by
  rw [group?, group?, branches_of_bare_eq h]

theorem groupNameOf?_of_bare_eq (x : String) : l'.groupNameOf? x = l.groupNameOf? x := by
  have hmap := congrArg (fun ms => ms.head?.map Member.group) (entries_of_bare_eq h x)
  simpa [groupNameOf?_eq_entries, Function.comp_def] using hmap

theorem parentGroup?_of_bare_eq (x : String) : l'.parentGroup? x = l.parentGroup? x := by
  rw [parentGroup?, parentGroup?, groupNameOf?_of_bare_eq h]
  congr 1
  exact funext (group?_of_bare_eq h)

end SameBare

/-- Entries are amended where they stand, contact and status staying, and others come after them. -/
def Extends (l l' : ContactList) : Prop := l.members.map Member.tag <+: l'.members.map Member.tag

theorem Extends.refl (l : ContactList) : l.Extends l := List.prefix_refl _

theorem Extends.trans {l₁ l₂ l₃ : ContactList} (h₁ : l₁.Extends l₂) (h₂ : l₂.Extends l₃) :
    l₁.Extends l₃ := List.IsPrefix.trans h₁ h₂

theorem Extends.of_members_eq {l l' : ContactList} (h : l'.members = l.members) : l.Extends l' := by
  simp only [Extends, h, List.prefix_rfl]

theorem extends_addMember (l : ContactList) (c : Contact) (g : String) :
    l.Extends (l.addMember c g) := by
  simp [Extends, addMember]

/-- An edit that keeps the contact and the status of the entry that is found keeps everybody's. -/
theorem extends_modifyMember (l : ContactList) (x : String) (f : Member → Member)
    (h : ∀ m, (l.entries x).head? = some m → (f m).tag = m.tag) : l.Extends (l.modifyMember x f) := by
  have hmap := map_modifyFirst Member.tag x f l.members fun m hm =>
    h m (by rw [← find?_eq_head?_entries, hm])
  simp only [Extends, modifyMember, hmap, List.prefix_rfl]

theorem extends_renameGroup (l : ContactList) (name newName : String) :
    l.Extends (l.renameGroup name newName) := by
  have h (m : Member) : (if m.group = name then { m with group := newName } else m).tag = m.tag := by
    split <;> rfl
  simp [Extends, renameGroup, Function.comp_def, h]

theorem statuses_entries (l : ContactList) (x : String) :
    (l.entries x).map (·.contact.status) =
      ((l.members.map Member.tag).filter (·.1 = x)).map Prod.snd := by
  simp only [entries, List.filter_map, List.map_map, Function.comp_def, Member.tag]
  rfl

/-- The statuses of the entries of a contact stay when a list only grows. -/
theorem Extends.statuses {l l' : ContactList} (h : l.Extends l') (x : String) :
    (l.entries x).map (·.contact.status) <+: (l'.entries x).map (·.contact.status) := by
  rw [statuses_entries, statuses_entries]
  exact (h.filter _).map _

end ContactList

end Roster
