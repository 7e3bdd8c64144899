import Roster.Proofs.Edits

/-! The group that a parked contact belongs to. The contact remembers the name that the group has when it
is parked; a group is renamed where it stands, and nobody tells the contacts that are parked. So removing
the contact and letting it go back concern its group as long as the group bears that name. -/

namespace Roster

/-- A change that the keeper of the list was asked for. -/
def Occurrence.listed? : Occurrence → Option ListOperation
  | .listed op => some op
  | _ => none

namespace ContactList

/-- Whoever waits under an identifier belongs to one group. -/
def Remembers (l : ContactList) (x origin : String) : Prop :=
  ∀ m ∈ l.members, m.contact.identifier = x → m.contact.awaitingAuthorization = true →
    m.contact.bare = .parked x origin

/-- The place of the first group of a name. -/
def place? (l : ContactList) (name : String) : Option Nat :=
  l.branches.findIdx? (·.group.name = name)

/-- Where a group stands after an edit, if it is still there. -/
def follow (l : ContactList) (i : Nat) : Edit → Option Nat
  | .dissolve name =>
    match l.place? name with
    | some j => if i = j then none else if j < i then some (i - 1) else some i
    | none => some i
  | _ => some i

/-- The name that a group is given by an edit. -/
def title? (l : ContactList) (i : Nat) : Edit → Option String
  | .rename name newName => if l.place? name = some i then some newName else none
  | _ => none

variable {l l' : ContactList} {x origin : String}

theorem getElem?_renameFirst (name newName : String) (bs : List Branch) (i : Nat) :
    ((renameFirst name newName bs)[i]?).map (·.group.name) =
      (bs[i]?).map fun b =>
        if bs.findIdx? (·.group.name = name) = some i then newName else b.group.name := by
  induction bs generalizing i with
  | nil => rfl
  | cons b bs ih =>
    by_cases hb : b.group.name = name
    · cases i <;> simp [renameFirst, List.findIdx?_cons, hb]
    · cases i with
      | zero => simp [renameFirst, List.findIdx?_cons, hb]
      | succ i => simpa [renameFirst, List.findIdx?_cons, hb] using ih i

theorem getElem?_removeGroup {name : String} {i j : Nat} (h : l.follow i (.dissolve name) = some j) :
    (l.removeGroup name).branches[j]? = l.branches[i]? := by
  rw [removeGroup, List.eraseP_eq_eraseIdx]
  simp only [follow, place?] at h
  cases hk : l.branches.findIdx? (·.group.name = name) with
  | none =>
    rw [hk] at h
    cases h
    rfl
  | some k =>
    simp only [hk] at h
    simp only [List.getElem?_eraseIdx]
    split at h
    · cases h
    · split at h
      · cases h
        have hlast : i - 1 + 1 = i := by omega
        rw [if_neg (by omega), hlast]
      · cases h
        rw [if_pos (by omega)]

theorem getElem?_addGroup {i : Nat} {b : Branch} (h : l.branches[i]? = some b) (g : Group) :
    (l.addGroup g).branches[i]? = some b := by
  rw [addGroup, List.getElem?_append_left (List.getElem?_eq_some_iff.1 h).1, h]

/-- A group keeps its name in an edit, or is given another. -/
theorem name_of_follow {e : Edit} {i j : Nat} {b : Branch} (hb : l.branches[i]? = some b)
    (h : l.follow i e = some j) :
    ((l.edit e).branches[j]?).map (·.group.name) =
      some ((l.title? i e).getD b.group.name) := by
  have hsame : (l.branches[i]?).map (·.group.name) = some b.group.name := by rw [hb]; rfl
  cases e with
  | dissolve name => rw [edit, getElem?_removeGroup h, hsame]; rfl
  | rename name newName =>
    cases h
    rw [edit, renameGroup, getElem?_renameFirst, hb, title?, place?]
    split <;> rfl
  | found g =>
    cases h
    rw [edit, getElem?_addGroup hb]
    rfl
  | park y origin awaiting =>
    cases h
    simp only [edit, withAwaiting]
    split
    · exact hsame
    · rw [addMember, getElem?_addGroup hb]
      rfl
  | shift y g =>
    cases h
    simp only [edit, shift]
    split <;> exact hsame
  | enter | release | rewrite | leave | detach => cases h; exact hsame

theorem Remembers.of_bare_eq (h : l.Remembers x origin) (hbare : l'.bare = l.bare) :
    l'.Remembers x origin := by
  intro m hm hid hflag
  obtain ⟨m₀, hm₀, heq⟩ := mem_of_bare_eq hbare hm
  have hcontact : m₀.contact.bare = m.contact.bare := congrArg Member.contact heq
  have hid₀ : m₀.contact.bare.identifier = x := by rw [hcontact]; exact hid
  have hflag₀ : m₀.contact.bare.awaitingAuthorization = true := by rw [hcontact]; exact hflag
  rw [← hcontact]
  exact h m₀ hm₀ hid₀ hflag₀

/-- Only an entry that is new can be remembered otherwise. -/
theorem Remembers.of_old (h : l.Remembers x origin)
    (hold : ∀ m ∈ l'.members, m.contact.identifier = x → m.contact.awaitingAuthorization = true →
      ∃ m₀ ∈ l.members, m₀.contact = m.contact) : l'.Remembers x origin := by
  intro m hm hid hflag
  obtain ⟨m₀, hm₀, heq⟩ := hold m hm hid hflag
  rw [← heq] at hid hflag ⊢
  exact h m₀ hm₀ hid hflag

end ContactList

namespace Session

open ContactList

/-- What the keeper of the list was asked for, in order. -/
def operations (s : Session) : List ListOperation := s.trace.filterMap Occurrence.listed?

/-- A contact waits in the awaiting group, which the server does not know. -/
structure Parked (s : Session) (x : String) : Prop where
  flagged : (s.list.contact? x).any Contact.awaitingAuthorization = true
  virtual : (s.list.parentGroup? x).any
    (fun g => g.name = s.settings.awaitingGroup ∧ g.persistent = false) = true

/-- Removing a contact and letting it go back concern a group of some name: the server is asked to delete
the contact there, and there it goes when it accepts. -/
structure PointsAt (s : Session) (x g : String) : Prop where
  removal : (s.unsubscribe x).1.operations = s.operations ++ [.deleteContact g x]
  denial : ∀ reason,
    (s.authorizationDenied x reason).operations = s.operations ++ [.deleteContact g x]
  acceptance : ∀ reason, (s.authorizationAccepted x reason).list.groupNameOf? x = some g

/-- Where a group stands after some steps, if it is still there. -/
def follow (s : Session) (i : Nat) : List Step → Option Nat
  | [] => some i
  | step :: steps =>
    ((s.edit? step).elim (some i) (s.list.follow i)).bind fun j => (s.perform step).1.follow j steps

/-- The names that a group is given in some steps. -/
def titles (s : Session) (i : Nat) : List Step → List String
  | [] => []
  | step :: steps =>
    ((s.edit? step).bind (s.list.title? i)).toList ++
      ((s.edit? step).elim (some i) (s.list.follow i)).elim [] fun j =>
        (s.perform step).1.titles j steps

/-- Where a parked contact goes that belongs to a group of some name: there, or to the root, or nowhere. -/
def refuge (s : Session) (origin : String) : String :=
  if (s.list.group? origin).isSome then origin
  else if (s.list.group? s.list.rootName).isSome then s.list.rootName
  else s.settings.awaitingGroup

variable {s : Session} {x origin : String}

theorem getLast?_toList_append {α : Type} (a : Option α) (as : List α) (b : α) :
    (a.toList ++ as).getLast?.getD b = as.getLast?.getD (a.getD b) := by
  cases a <;> simp [List.getLast?_cons]

/-- The group that is followed bears the name that it was given last. -/
theorem name_of_follow (hs : s.Sound) {steps : List Step} {i j : Nat} {b : Branch}
    (hb : s.list.branches[i]? = some b) (h : s.follow i steps = some j) :
    ∃ b', (s.run steps).list.branches[j]? = some b' ∧
      b'.group.name = (s.titles i steps).getLast?.getD b.group.name := by
  induction steps generalizing s i b with
  | nil =>
    cases h
    exact ⟨b, hb, rfl⟩
  | cons step steps ih =>
    obtain ⟨k, hk, h⟩ := Option.bind_eq_some_iff.1 h
    have hbranches := branches_of_bare_eq (perform_edited hs step)
    have hname : ((s.list.edited (s.edit? step)).branches[k]?).map (·.group.name) =
        some (((s.edit? step).bind (s.list.title? i)).getD b.group.name) := by
      cases he : s.edit? step with
      | none =>
        rw [he] at hk
        cases hk
        rw [edited_none, hb]
        rfl
      | some e =>
        rw [he] at hk
        exact ContactList.name_of_follow hb hk
    rw [← hbranches] at hname
    obtain ⟨b₁, hb₁, hname₁⟩ := Option.map_eq_some_iff.1 hname
    obtain ⟨b', hb', hname'⟩ := ih (perform_sound hs step) hb₁ h
    refine ⟨b', hb', hname'.trans ?_⟩
    rw [titles, hk, Option.elim_some, getLast?_toList_append, hname₁]

theorem remembers_edit (h : s.list.Remembers x origin) (known : (s.list.contact? x).isSome) {e : Edit}
    (hallows : s.Allows e) : (s.list.edit e).Remembers x origin := by
  refine h.of_old fun m hm hid hflag => ?_
  -- whoever enters is not flagged, and only strangers are parked: the entry is an old one
  cases hallows with
  | found g => exact ⟨m, hm, rfl⟩
  | dissolve => exact ⟨m, (List.mem_filter.1 hm).1, rfl⟩
  | rename =>
    obtain ⟨m₀, hm₀, rfl⟩ := List.mem_map.1 hm
    refine ⟨m₀, hm₀, ?_⟩
    split <;> rfl
  | enter unflagged =>
    rcases List.mem_append.1 hm with hm | hm
    · exact ⟨m, hm, rfl⟩
    · rw [List.mem_singleton.1 hm, unflagged] at hflag
      cases hflag
  | @park y _ stranger =>
    rcases List.mem_append.1 hm with hm | hm
    · exact ⟨m, members_withAwaiting s.list s.settings.awaitingGroup ▸ hm, rfl⟩
    · obtain rfl : y = x := by
        rw [List.mem_singleton.1 hm] at hid
        exact hid
      rw [stranger] at known
      cases known
  | release =>
    rcases amended_or_mem_of_mem_modifyMember hm with ⟨m₀, -, rfl⟩ | hm
    · cases hflag
    · exact ⟨m, hm, rfl⟩
  | @shift y =>
    simp only [edit, ContactList.shift] at hm
    split at hm
    · rcases amended_or_mem_of_mem_modifyMember hm with ⟨m₀, hm₀, rfl⟩ | hm
      · exact ⟨m₀, List.mem_of_find?_eq_some hm₀, rfl⟩
      · exact ⟨m, hm, rfl⟩
    · exact ⟨m, hm, rfl⟩
  | leave y => exact ⟨m, List.mem_of_mem_eraseP hm, rfl⟩
  | detach y => exact ⟨m, (List.mem_filter.1 hm).1, rfl⟩

/-- The contact and its group are remembered as long as the contact is parked. -/
theorem run_remembers (hs : s.Sound) (h : s.list.Remembers x origin) {steps : List Step}
    (bypasses : ∀ step ∈ steps, step.bypasses = false) (parked : s.Throughout (Parked · x) steps) :
    (s.run steps).list.Remembers x origin := by
  induction steps generalizing s with
  | nil => exact h
  | cons step steps ih =>
    obtain ⟨hnow, hlater⟩ := throughout_cons.1 parked
    obtain ⟨c, hc, -⟩ := (Option.any_eq_true ..).1 hnow.flagged
    have hbypass := List.forall_mem_cons.1 bypasses
    refine ih (perform_sound hs step) ?_ hbypass.2 hlater
    refine Remembers.of_bare_eq ?_ (perform_edited hs step)
    cases he : s.edit? step with
    | none => exact h
    | some e => exact remembers_edit h (by rw [hc]; rfl) (.of_edit? hbypass.1 he)

/-- A stranger that is parked is remembered with the group it belongs to. -/
theorem remembers_of_parking (hs : s.Sound) (stranger : s.list.contact? x = none)
    {parent : Option String} (there : (s.list.group? (s.home parent).name).isSome) :
    (s.perform (.authorizationRequired x parent)).1.list.Remembers x (s.home parent).name := by
  refine Remembers.of_bare_eq ?_ (perform_edited hs _)
  rw [edit?, parking?, if_pos ⟨stranger, there⟩]
  intro m hm hid _
  rcases List.mem_append.1 hm with hm | hm
  · rw [members_withAwaiting] at hm
    have hnone := (contact?_eq_none_iff ..).1 stranger
    exact absurd (hnone ▸ mem_entries.2 ⟨hm, hid⟩) List.not_mem_nil
  · rw [List.mem_singleton.1 hm]
    rfl

@[simp] theorem operations_announceListed (s : Session) (n : Notice) :
    (s.announceListed n).operations = s.operations := by
  unfold announceListed
  split
  · simp [operations, announce, Function.comp_def, Occurrence.listed?]
  · rfl

theorem operations_inform (s : Session) (c : Contact) (outcome : Decision) :
    (s.inform c outcome).operations = s.operations := by
  simp only [operations, inform_trace, verdicts]
  split <;> simp [Occurrence.listed?]

theorem operations_deleteContact (hk : s.keeper.refuses = false) (g x : String) :
    (s.deleteContact g x).1.operations = s.operations ++ [.deleteContact g x] := by
  have hrecord : (s.record (.listed (.deleteContact g x))).operations =
      s.operations ++ [.deleteContact g x] := by
    simp [operations, record, Occurrence.listed?]
  simp only [deleteContact, commit_of_not_refuses hk]
  split
  · exact hrecord
  · rw [operations_announceListed]
    exact hrecord

section Parked

variable (hparked : s.Parked x) (h : s.list.Remembers x origin)

include hparked

theorem Parked.of_eq {t : Session} (list : t.list = s.list) (settings : t.settings = s.settings) :
    t.Parked x := by
  refine ⟨?_, ?_⟩
  · rw [list]
    exact hparked.flagged
  · rw [list, settings]
    exact hparked.virtual

theorem Parked.group : ∃ g, s.list.parentGroup? x = some g ∧
    g.name = s.settings.awaitingGroup ∧ g.persistent = false := by
  simpa [Option.any_eq_true] using hparked.virtual

include h

/-- A parked contact is as it was when it was parked. -/
theorem Parked.contact : ∃ c, s.list.contact? x = some c ∧ c.bare = .parked x origin := by
  obtain ⟨c, hc, hflag⟩ := (Option.any_eq_true ..).1 hparked.flagged
  obtain ⟨m, hm, rfl⟩ := Option.map_eq_some_iff.1 hc
  exact ⟨m.contact, hc, h m (List.mem_of_find?_eq_some hm) (identifier_of_contact? hc) hflag⟩

theorem Parked.operations_unsubscribe (hable : s.able = true) :
    (s.unsubscribe x).1.operations = s.operations ++ [.deleteContact origin x] := by
  obtain ⟨c, hc, hbare⟩ := hparked.contact h
  obtain ⟨g, hg, -, hvirtual⟩ := hparked.group
  have hpersistent : c.persistent = true := congrArg Contact.persistent hbare
  have hflag : c.awaitingAuthorization = true := congrArg Contact.awaitingAuthorization hbare
  have horigin : c.structuralParent = some origin := congrArg Contact.structuralParent hbare
  simp only [able, Bool.and_eq_true, Bool.not_eq_true'] at hable
  obtain ⟨hr, hk⟩ := hable
  have hdeletes : s.unsubscribe x = s.deleteContact origin x := by
    simp [unsubscribe, guarded, requireConnection, requireMember, hr, hc, hg, hpersistent, hvirtual,
      hflag, horigin, bind, Except.bind]
  rw [hdeletes, operations_deleteContact hk]

theorem Parked.operations_authorizationDenied (hable : s.able = true) (reason : Option String) :
    (s.authorizationDenied x reason).operations = s.operations ++ [.deleteContact origin x] := by
  obtain ⟨c, hc, -⟩ := hparked.contact h
  have hsame : (s.inform c ⟨.reject, reason⟩).settings = s.settings ∧
      (s.inform c ⟨.reject, reason⟩).able = s.able := by
    unfold inform
    split <;> exact ⟨rfl, rfl⟩
  have hlist := inform_list s c ⟨.reject, reason⟩
  simp only [authorizationDenied, hc]
  rw [(hparked.of_eq hlist hsame.1).operations_unsubscribe (hlist ▸ h) (hsame.2.trans hable),
    operations_inform]

/-- A parked contact that accepts goes to the group whose name it remembers, or to the root. -/
theorem Parked.groupNameOf?_authorizationAccepted (reason : Option String) :
    (s.authorizationAccepted x reason).list.groupNameOf? x = some (s.refuge origin) := by
  obtain ⟨c, hc, hbare⟩ := hparked.contact h
  obtain ⟨g, hg, hname, -⟩ := hparked.group
  have horigin : c.structuralParent = some origin := congrArg Contact.structuralParent hbare
  have hid : c.identifier = x := identifier_of_contact? hc
  obtain ⟨m, hm, rfl⟩ := Option.map_eq_some_iff.1 hc
  rw [find?_eq_head?_entries] at hm
  have hgroup : m.group = s.settings.awaitingGroup := by
    rw [parentGroup?, groupNameOf?_eq_entries, hm] at hg
    rw [← name_of_group? hg, hname]
  have hback : (s.return? m.contact).getD m.group = s.refuge origin := by
    rw [return?, refuge, hid, hg, horigin, home, Option.bind_some, hgroup]
    cases ho : s.list.group? origin with
    | some o => simp [hname, ho, name_of_group? ho]
    | none =>
      cases hroot : s.list.group? s.list.rootName <;>
        simp [hname, rootGroup, Group.root, Group.stored, hroot]
  have hentries := entries_modifyMember s.list x x
    (fun m' => ⟨m.contact.released, (s.return? m.contact).getD m'.group⟩) fun _ _ => hid
  obtain ⟨rest, hrest⟩ := List.head?_eq_some_iff.1 hm
  rw [authorizationAccepted_list, hc, groupNameOf?_eq_entries, Option.elim_some, hentries, if_pos rfl,
    hrest]
  simp [hback]

end Parked

/-- Whatever else is done to groups and contacts while a contact is parked, it remembers the name that its
group had then. It is removed from the group of that name, and goes back there, or to the root if there is
none. As long as its own group is there, it points at it exactly if the group bears that name still; the
name is the last that the group was given. -/
theorem parked_contact_points_at_remembered_name {s : Session} (reachable : s.Reachable) {x : String}
    (stranger : s.list.contact? x = none) {parent : Option String} {i : Nat}
    (place : s.list.place? (s.home parent).name = some i) (steps : List Step)
    (bypasses : ∀ step ∈ steps, step.bypasses = false)
    (parked : (s.perform (.authorizationRequired x parent)).1.Throughout (Parked · x) steps) :
    let all := .authorizationRequired x parent :: steps
    let t := s.run all
    (∃ c, t.list.contact? x = some c ∧ c.structuralParent = some (s.home parent).name) ∧
    (t.able = true → (t.unsubscribe x).1.operations =
        t.operations ++ [.deleteContact (s.home parent).name x] ∧
      ∀ reason, (t.authorizationDenied x reason).operations =
        t.operations ++ [.deleteContact (s.home parent).name x]) ∧
    (∀ reason, (t.authorizationAccepted x reason).list.groupNameOf? x =
      some (t.refuge (s.home parent).name)) ∧
    ∀ j, s.follow i all = some j → ∃ b, t.list.branches[j]? = some b ∧
      b.group.name = (s.titles i all).getLast?.getD (s.home parent).name ∧
      (t.able = true → (t.PointsAt x b.group.name ↔ b.group.name = (s.home parent).name)) := by
  intro all t
  obtain ⟨hi, hname, -⟩ := List.findIdx?_eq_some_iff_getElem.1 place
  have hplace : s.list.branches[i]? = some s.list.branches[i] := List.getElem?_eq_getElem hi
  have hname : s.list.branches[i].group.name = (s.home parent).name := by simpa using hname
  have there : (s.list.group? (s.home parent).name).isSome :=
    (isSome_group?_iff ..).2 ⟨_, List.getElem_mem hi, hname⟩
  have hremembers := remembers_of_parking reachable.sound stranger there
  have h : t.list.Remembers x (s.home parent).name :=
    run_remembers (perform_sound reachable.sound _) hremembers bypasses parked
  have hparked : t.Parked x := parked steps (List.prefix_refl _)
  refine ⟨?_, fun hable => ?_, hparked.groupNameOf?_authorizationAccepted h, fun j hj => ?_⟩
  · obtain ⟨c, hc, hbare⟩ := hparked.contact h
    exact ⟨c, hc, congrArg Contact.structuralParent hbare⟩
  · exact ⟨hparked.operations_unsubscribe h hable, hparked.operations_authorizationDenied h hable⟩
  · obtain ⟨b, hb, htitle⟩ := name_of_follow reachable.sound hplace hj
    rw [hname] at htitle
    refine ⟨b, hb, htitle, fun hable => ⟨fun hpoints => ?_, fun hsame => ?_⟩⟩
    · have hdeleted := hpoints.removal
      rw [hparked.operations_unsubscribe h hable] at hdeleted
      simpa using (List.append_cancel_left hdeleted).symm
    · have hthere : (t.list.group? (s.home parent).name).isSome :=
        (isSome_group?_iff ..).2 ⟨b, List.mem_of_getElem? hb, hsame⟩
      rw [hsame]
      refine ⟨hparked.operations_unsubscribe h hable, hparked.operations_authorizationDenied h hable,
        fun reason => ?_⟩
      rw [hparked.groupNameOf?_authorizationAccepted h, refuge, if_pos hthere]

/-- Another group is renamed and removed while a contact is parked. -/
theorem origin_of_parked_contact :
    let s : Session :=
      { settings := {}, localIdentifier := "12345", reRequests := false
        list := ⟨"Contacts", [⟨.root "Contacts", none⟩, ⟨.stored "Work", some "Contacts"⟩,
          ⟨.stored "Friends", some "Contacts"⟩], []⟩ }
    let steps : List Step := [.renameGroup "Work" "Office", .removeGroup "Office"]
    let t := s.run (.authorizationRequired "777" (some "Friends") :: steps)
    s.Reachable ∧ s.list.contact? "777" = none ∧ s.list.place? "Friends" = some 2 ∧
      (∀ step ∈ steps, step.bypasses = false) ∧
      (s.perform (.authorizationRequired "777" (some "Friends"))).1.Throughout (Parked · "777") steps ∧
      t.PointsAt "777" "Friends" := by
  intro s steps t
  have reachable : s.Reachable :=
    ⟨{ connection := some ⟨"12345", true⟩, list := some s.list, hasPolicy := true }, s, [], rfl, rfl⟩
  have stranger : s.list.contact? "777" = none := rfl
  have place : s.list.place? (s.home (some "Friends")).name = some 2 := by decide
  have bypasses : ∀ step ∈ steps, step.bypasses = false := by decide
  have parked : (s.perform (.authorizationRequired "777" (some "Friends"))).1.Throughout
      (Parked · "777") steps :=
    throughout_cons.2 ⟨⟨by decide +kernel, by decide +kernel⟩,
      throughout_cons.2 ⟨⟨by decide +kernel, by decide +kernel⟩,
        throughout_nil.2 ⟨by decide +kernel, by decide +kernel⟩⟩⟩
  have hgroup := (parked_contact_points_at_remembered_name reachable stranger place steps bypasses
    parked).2.2.2 1 (by decide +kernel)
  obtain ⟨b, hb, hname, hpoints⟩ := hgroup
  have hfriends : b.group.name = "Friends" := by
    rw [hname]
    decide +kernel
  refine ⟨reachable, stranger, place, bypasses, parked, ?_⟩
  exact hfriends ▸ (hpoints (by decide +kernel)).2 hfriends

/-- The group of a parked contact is renamed. -/
theorem renamed_group_of_parked_contact :
    ¬∀ (s : Session) (x parent : String) (i j : Nat) (b : Branch) (steps : List Step), s.Reachable →
      s.list.contact? x = none → s.list.place? parent = some i → parent ≠ s.settings.awaitingGroup →
      (∀ step ∈ steps, step.bypasses = false) →
      (s.perform (.authorizationRequired x (some parent))).1.Throughout (Parked · x) steps →
      s.follow i (.authorizationRequired x (some parent) :: steps) = some j →
      (s.run (.authorizationRequired x (some parent) :: steps)).list.branches[j]? = some b →
      (s.run (.authorizationRequired x (some parent) :: steps)).able = true →
      (s.run (.authorizationRequired x (some parent) :: steps)).PointsAt x b.group.name := by
  intro h
  let s : Session :=
    { settings := {}, localIdentifier := "12345", reRequests := false
      list := ⟨"Contacts", [⟨.root "Contacts", none⟩, ⟨.stored "Friends", some "Contacts"⟩], []⟩ }
  have reachable : s.Reachable :=
    ⟨{ connection := some ⟨"12345", true⟩, list := some s.list, hasPolicy := true }, s, [],
      rfl, rfl⟩
  have parked : (s.perform (.authorizationRequired "777" (some "Friends"))).1.Throughout
      (Parked · "777") [.renameGroup "Friends" "Pals"] :=
    throughout_cons.2 ⟨⟨by decide +kernel, by decide +kernel⟩,
      throughout_nil.2 ⟨by decide +kernel, by decide +kernel⟩⟩
  have hpoints := h s "777" "Friends" 1 1 ⟨.stored "Pals", some "Contacts"⟩
    [.renameGroup "Friends" "Pals"] reachable rfl (by decide) (by decide) (by decide) parked
    (by decide +kernel) (by decide +kernel) (by decide +kernel)
  have hremoval := hpoints.removal
  revert hremoval
  decide +kernel

end Session

end Roster
