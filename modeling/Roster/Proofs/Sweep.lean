import Roster.Proofs.News
import Roster.Proofs.Outline
import Mathlib.Logic.Function.Iterate

/-! Everybody goes offline at a disconnect. The sweep is a loop: it takes up the group that was put down
last, puts down the groups in it, and sends its contacts offline one by one. It ends exactly if the walk
through the groups does. In a tree it reaches every contact, tells of each that was online once, and
leaves nothing for a second one to do. -/

namespace Roster

/-- An entry whose contact has gone offline. -/
def Member.silenced (m : Member) : Member :=
  { m with contact := { m.contact with status := .offline } }

@[simp] theorem Member.silenced_group (m : Member) : m.silenced.group = m.group := rfl

@[simp] theorem Member.silenced_identifier (m : Member) :
    m.silenced.contact.identifier = m.contact.identifier := rfl

@[simp] theorem Member.silenced_silenced (m : Member) : m.silenced.silenced = m.silenced := rfl

@[simp] theorem Member.isOnline_silenced (m : Member) : m.silenced.contact.isOnline = false := rfl

theorem Member.silenced_of_offline {m : Member} (h : m.contact.isOnline = false) :
    m.silenced = m := by
  have hstatus : m.contact.status = .offline := (Status.isOnline_eq_false_iff _).1 h
  rw [silenced, ← hstatus]

namespace ContactList

/-- Every contact has one entry. -/
def Distinct (l : ContactList) : Prop := (l.members.map (·.contact.identifier)).Nodup

instance (l : ContactList) : Decidable l.Distinct := inferInstanceAs (Decidable (List.Nodup _))

/-- The entries in a group whose contacts are online. -/
def present (l : ContactList) (name : String) : List Member :=
  l.members.filter fun m => m.group = name && m.contact.isOnline

/-- The list with some entries silenced. -/
def silence (l : ContactList) (p : Member → Bool) : ContactList :=
  { l with members := l.members.map fun m => if p m then m.silenced else m }

/-- The list with everybody offline. -/
def silenced (l : ContactList) : ContactList := { l with members := l.members.map Member.silenced }

/-- What is told when the contact of an entry goes offline. -/
def farewell (l : ContactList) (m : Member) : Notice :=
  .contactPresence ⟨m.silenced.contact, l.group? m.group, m.contact.status, .offline⟩

theorem Distinct.eq {l : ContactList} (h : l.Distinct) {m m' : Member} (hm : m ∈ l.members)
    (hm' : m' ∈ l.members) (hid : m.contact.identifier = m'.contact.identifier) : m = m' :=
  List.inj_on_of_nodup_map h hm hm' hid

theorem Distinct.silence {l : ContactList} (h : l.Distinct) (p : Member → Bool) :
    (l.silence p).Distinct := by
  have hid (m : Member) :
      (if p m then m.silenced else m).contact.identifier = m.contact.identifier := by
    split <;> rfl
  simpa [Distinct, ContactList.silence, Function.comp_def, hid] using h

theorem silence_silence (l : ContactList) (p q : Member → Bool) :
    (l.silence p).silence q = l.silence fun m => p m || q m := by
  simp only [silence, List.map_map]
  congr 1
  refine List.map_congr_left fun m _ => ?_
  by_cases hp : p m = true <;> simp [hp]

theorem silence_congr {l : ContactList} {p q : Member → Bool}
    (h : ∀ m ∈ l.members, m.contact.isOnline = true → p m = q m) : l.silence p = l.silence q := by
  simp only [silence]
  congr 1
  refine List.map_congr_left fun m hm => ?_
  cases hon : m.contact.isOnline with
  | true => rw [h m hm hon]
  | false => simp [Member.silenced_of_offline hon]

/-- Where contacts have one entry each, going offline silences just that. -/
theorem setStatus_offline {l : ContactList} (h : l.Distinct) {m : Member} (hm : m ∈ l.members) :
    l.setStatus m.contact.identifier .offline = l.silence (· = m) := by
  have hfirst (ms : List Member) (hms : ms ⊆ l.members)
      (hnodup : (ms.map (·.contact.identifier)).Nodup) :
      modifyFirst m.contact.identifier Member.silenced ms =
        ms.map fun m' => if m' = m then m'.silenced else m' := by
    induction ms with
    | nil => rfl
    | cons m' ms ih =>
      obtain ⟨hm', hms⟩ := List.cons_subset.1 hms
      obtain ⟨hnew, hnodup⟩ := List.nodup_cons.1 hnodup
      by_cases hid : m'.contact.identifier = m.contact.identifier
      · obtain rfl := h.eq hm' hm hid
        have hrest : ∀ m ∈ ms, (if m = m' then m.silenced else m) = m := by
          rintro m hmem
          rw [if_neg]
          rintro rfl
          exact hnew (List.mem_map_of_mem hmem)
        rw [modifyFirst, if_pos rfl, List.map_cons, if_pos rfl, List.map_congr_left hrest,
          List.map_id']
      · have hne : m' ≠ m := fun heq => hid (heq ▸ rfl)
        rw [modifyFirst, if_neg hid, List.map_cons, if_neg hne, ih hms hnodup]
  have hmembers := hfirst l.members (List.Subset.refl _) h
  simp only [silence, decide_eq_true_eq, ← hmembers]
  rfl

theorem mem_present {l : ContactList} {name : String} {m : Member} :
    m ∈ l.present name ↔ m ∈ l.members ∧ m.group = name ∧ m.contact.isOnline = true := by
  simp [present]

theorem contactsIn_filter_isOnline (l : ContactList) (name : String) :
    (l.contactsIn name).filter Contact.isOnline = (l.present name).map Member.contact := by
  simp only [contactsIn, present, List.filter_map, List.filter_filter]
  congr 1
  refine List.filter_congr fun m _ => ?_
  by_cases hg : m.group = name <;> simp [hg]

theorem present_silence {l : ContactList} {name : String} {p : Member → Bool}
    (h : ∀ m, m.group = name → p m = false) : (l.silence p).present name = l.present name := by
  simp only [present, silence]
  induction l.members with
  | nil => rfl
  | cons m ms ih =>
    by_cases hg : m.group = name
    · simp [h m hg, ih, List.filter_cons]
    · cases hp : p m <;> simp [hg, hp, ih]

theorem silence_eq_silenced {l : ContactList} {p : Member → Bool} (h : ∀ m ∈ l.members, p m = true) :
    l.silence p = l.silenced := by
  simp only [silence, silenced]
  congr 1
  exact List.map_congr_left fun m hm => by rw [h m hm, if_pos rfl]

/-- Entries fall into the groups they lie in. -/
theorem perm_flatMap_group (gs : List Group) : ∀ {ms : List Member}, (gs.map Group.name).Nodup →
    (∀ m ∈ ms, m.group ∈ gs.map Group.name) →
    (gs.flatMap fun g => ms.filter (·.group = g.name)).Perm ms := by
  induction gs with
  | nil =>
    intro ms _ h
    rw [List.eq_nil_iff_forall_not_mem.2 fun m hm => List.not_mem_nil (h m hm)]
    exact .refl _
  | cons g gs ih =>
    intro ms hnames h
    obtain ⟨hnew, hnames⟩ := List.nodup_cons.1 hnames
    let others := ms.filter fun m => !decide (m.group = g.name)
    have hothers : ∀ m ∈ others, m.group ∈ gs.map Group.name := by
      intro m hm
      obtain ⟨hm, hne⟩ := List.mem_filter.1 hm
      exact (List.mem_cons.1 (h m hm)).resolve_left (by simpa using hne)
    have hrest : (gs.flatMap fun g' => ms.filter (·.group = g'.name)) =
        gs.flatMap fun g' => others.filter (·.group = g'.name) := by
      refine List.flatMap_congr fun g' hg' => ?_
      have hne : g'.name ≠ g.name := fun heq => hnew (heq ▸ List.mem_map_of_mem hg')
      rw [List.filter_filter]
      refine List.filter_congr fun m _ => ?_
      by_cases hm : m.group = g'.name <;> simp [hm, hne]
    rw [List.flatMap_cons, hrest]
    exact ((ih hnames hothers).append_left _).trans (List.filter_append_perm _ ms)

end ContactList

namespace Session

open ContactList

/-- Contacts of a group go offline one after the other, as long as they are there and online. -/
theorem foldl_applyStatus_offline (group : Option Group) (ms : List Member) : ∀ {s : Session},
    s.list.Distinct → (ms.map (·.contact.identifier)).Nodup → ms ⊆ s.list.members →
    (∀ m ∈ ms, m.contact.isOnline = true) →
    ms.foldl (fun s m => (s.applyStatus m.contact.identifier .offline group).1) s =
      { s with
        list := s.list.silence (· ∈ ms)
        trace := s.trace ++ ms.flatMap fun m => s.deliveries
          (.contactPresence ⟨m.silenced.contact, group, m.contact.status, .offline⟩) } := by
  induction ms with
  | nil =>
    intro s _ _ _ _
    simp [silence]
  | cons m ms ih =>
    intro s hdistinct hnodup hsub honline
    obtain ⟨hm, hsub⟩ := List.cons_subset.1 hsub
    obtain ⟨hnew, hnodup⟩ := List.nodup_cons.1 hnodup
    have hne : ∀ m' ∈ ms, m' ≠ m := by
      rintro m' hm' rfl
      exact hnew (List.mem_map_of_mem hm')
    have hfound : s.list.contact? m.contact.identifier = some m.contact := by
      have hknown : (s.list.contact? m.contact.identifier).isSome := by
        simp only [contact?, Option.isSome_map, List.find?_isSome]
        exact ⟨m, hm, by simp⟩
      obtain ⟨c, hc⟩ := Option.isSome_iff_exists.1 hknown
      obtain ⟨m', hfind, rfl⟩ := Option.map_eq_some_iff.1 hc
      have hid : m'.contact.identifier = m.contact.identifier := identifier_of_contact? hc
      rw [hc, hdistinct.eq (List.mem_of_find?_eq_some hfind) hm hid]
    have hstatus : m.contact.status ≠ .offline := by
      intro hoff
      have hon := honline m List.mem_cons_self
      rw [Contact.isOnline, hoff] at hon
      cases hon
    have hstep : (s.applyStatus m.contact.identifier .offline group).1 =
        { s with
          list := s.list.silence (· = m)
          trace := s.trace ++ s.deliveries
            (.contactPresence ⟨m.silenced.contact, group, m.contact.status, .offline⟩) } := by
      rw [applyStatus_of_known hfound, setStatus_offline hdistinct hm, if_neg hstatus]
      rfl
    have hsub' : ms ⊆ (s.list.silence (· = m)).members := fun m' hm' =>
      List.mem_map.2 ⟨m', hsub hm', by simp [hne m' hm']⟩
    rw [List.foldl_cons, hstep, ih (hdistinct.silence _) hnodup hsub' fun m' hm' =>
      honline m' (List.mem_cons_of_mem _ hm'), List.flatMap_cons, silence_silence]
    simp [deliveries]

/-- What is told when the contacts of a group go offline. -/
def farewells (s : Session) (g : Group) : List Notice :=
  (s.list.present g.name).map fun m =>
    .contactPresence ⟨m.silenced.contact, some g, m.contact.status, .offline⟩

theorem silenceGroup_eq {s : Session} (h : s.list.Distinct) (g : Group) :
    s.silenceGroup g =
      { s with
        list := s.list.silence (·.group = g.name)
        trace := s.trace ++ (s.farewells g).flatMap s.deliveries } := by
  have hpresent : ∀ m ∈ s.list.present g.name, m.contact.isOnline = true :=
    fun m hm => (mem_present.1 hm).2.2
  have hnodup : ((s.list.present g.name).map (·.contact.identifier)).Nodup :=
    h.sublist (List.filter_sublist.map _)
  have hsilence : s.list.silence (· ∈ s.list.present g.name) = s.list.silence (·.group = g.name) :=
    silence_congr fun m hm hon => by simp [mem_present, hm, hon]
  rw [silenceGroup, contactsIn_filter_isOnline, List.foldl_map,
    foldl_applyStatus_offline (some g) _ h hnodup (List.filter_subset_self _) hpresent, hsilence]
  simp [farewells, List.flatMap_map]

theorem farewells_silenceGroup {s : Session} (h : s.list.Distinct) {g g' : Group}
    (hname : g'.name ≠ g.name) : (s.silenceGroup g).farewells g' = s.farewells g' := by
  rw [farewells, farewells, silenceGroup_eq h, present_silence]
  intro m hm
  simpa [hm] using hname

/-- Groups of different names are silenced one after the other as if at once. -/
theorem foldl_silenceGroup (gs : List Group) : ∀ {s : Session}, s.list.Distinct →
    (gs.map Group.name).Nodup →
    gs.foldl silenceGroup s =
      { s with
        list := s.list.silence (·.group ∈ gs.map Group.name)
        trace := s.trace ++ (gs.flatMap s.farewells).flatMap s.deliveries } := by
  induction gs with
  | nil =>
    intro s _ _
    simp [silence]
  | cons g gs ih =>
    intro s hdistinct hnames
    obtain ⟨hnew, hnames⟩ := List.nodup_cons.1 hnames
    have heq := silenceGroup_eq hdistinct g
    have hdistinct' : (s.silenceGroup g).list.Distinct := by
      rw [heq]
      exact hdistinct.silence _
    have hfarewells : gs.flatMap (s.silenceGroup g).farewells = gs.flatMap s.farewells := by
      refine List.flatMap_congr fun g' hg' => farewells_silenceGroup hdistinct ?_
      exact fun hname => hnew (hname ▸ List.mem_map_of_mem hg')
    have hdeliveries : (s.silenceGroup g).deliveries = s.deliveries := by
      rw [heq]
      rfl
    rw [List.foldl_cons, ih hdistinct' hnames, hfarewells, hdeliveries, heq, silence_silence]
    simp

/-- One round of the sweep, with the groups that are pending, the one put down last first. -/
def round : Session × List Group → Session × List Group
  | (s, []) => (s, [])
  | (s, g :: pending) => (s.silenceGroup g, (s.list.subgroups g.name).reverse ++ pending)

/-- A disconnect comes to the end of its sweep. -/
def DisconnectEnds (s : Session) : Prop :=
  ∃ n t, round^[n] (s.stopPolling.resetStatus, [s.list.rootGroup]) = (t, [])

theorem silenceGroup_still (s : Session) (g : Group) : s.Still (s.silenceGroup g) := by
  rw [silenceGroup]
  induction (s.list.contactsIn g.name).filter Contact.isOnline generalizing s with
  | nil => exact .refl s
  | cons c cs ih => exact (applyStatus_still s c.identifier .offline (some g)).trans (ih _)

theorem branches_silenceGroup (s : Session) (g : Group) :
    (s.silenceGroup g).list.branches = s.list.branches :=
  branches_of_bare_eq (silenceGroup_still s g).list

/-- The sweep silences the groups on its walk, in that order. -/
theorem iterate_round_of_walk {l : ContactList} {pending visited : List Group}
    (h : l.Walk pending visited) : ∀ {s : Session}, s.list.branches = l.branches →
    round^[visited.length] (s, pending) = (visited.foldl silenceGroup s, []) := by
  induction h with
  | nil => exact fun _ => rfl
  | @visit g pending visited _ ih =>
    intro s hs
    have hsubgroups : s.list.subgroups g.name = l.subgroups g.name := by
      rw [ContactList.subgroups, hs, ContactList.subgroups]
    rw [List.length_cons, Function.iterate_succ_apply, round, hsubgroups, List.foldl_cons]
    exact ih ((branches_silenceGroup s g).trans hs)

theorem walk_of_iterate_round {l : ContactList} {n : Nat} : ∀ {s t : Session} {pending : List Group},
    s.list.branches = l.branches → round^[n] (s, pending) = (t, []) →
    ∃ visited, l.Walk pending visited := by
  induction n with
  | zero =>
    intro s t pending _ h
    obtain rfl : pending = [] := congrArg Prod.snd h
    exact ⟨[], .nil⟩
  | succ n ih =>
    intro s t pending hs h
    cases pending with
    | nil => exact ⟨[], .nil⟩
    | cons g pending =>
      rw [Function.iterate_succ_apply, round] at h
      obtain ⟨visited, hwalk⟩ := ih ((branches_silenceGroup s g).trans hs) h
      rw [ContactList.subgroups, hs, ← ContactList.subgroups] at hwalk
      exact ⟨g :: visited, .visit hwalk⟩

@[simp] theorem list_resetStatus (s : Session) : s.resetStatus.list = s.list := by
  simp only [resetStatus]
  split <;> rfl

/-- A disconnect ends exactly if there is no loop below the root. -/
theorem disconnectEnds_iff (s : Session) : s.DisconnectEnds ↔ ¬s.list.Loops := by
  have hlist : s.stopPolling.resetStatus.list = s.list := list_resetStatus _
  rw [← ContactList.exists_walk_iff]
  constructor
  · rintro ⟨n, t, h⟩
    exact walk_of_iterate_round (congrArg ContactList.branches hlist) h
  · rintro ⟨visited, hwalk⟩
    exact ⟨_, _, iterate_round_of_walk hwalk (congrArg ContactList.branches hlist)⟩

/-- A sweep that ends has done what the outline says. -/
theorem iterate_round_eq {s : Session} (h : ¬s.list.Loops) :
    ∃ n, round^[n] (s, [s.list.rootGroup]) = (s.silenceContacts, []) := by
  obtain ⟨visited, houtline⟩ := ContactList.exists_outline_of_not_loops h
  rw [silenceContacts, houtline]
  exact ⟨_, iterate_round_of_walk (ContactList.outline?_eq_some_iff.1 houtline) rfl⟩

/-- What is told of our own status, first of all. -/
def ownFarewell (s : Session) : List Notice :=
  if s.own.mask.isUnknown then [] else [.ownStatus ⟨s.status, .offline⟩]

theorem resetStatus_eq (s : Session) : s.resetStatus =
    { s with
      own := { s.own with mask := .unknown }
      trace := s.trace ++ s.ownFarewell.flatMap s.deliveries } := by
  simp only [resetStatus, ownFarewell]
  split
  · simp
  · simp [announce, deliveries, status]

/-- The walk through a tree tells of each contact that is online once, and of the group it is in. -/
theorem perm_farewells {s : Session} (tree : s.list.IsTree)
    (placed : ∀ m ∈ s.list.members, (s.list.group? m.group).isSome) {visited : List Group}
    (hwalk : s.list.Walk [s.list.rootGroup] visited) :
    (visited.flatMap s.farewells).Perm
      ((s.list.members.filter (·.contact.isOnline)).map s.list.farewell) := by
  have hfarewell : ∀ g ∈ visited, s.farewells g = (s.list.present g.name).map s.list.farewell := by
    intro g hg
    obtain ⟨b, hb, rfl⟩ := tree.exists_branch_of_mem hwalk hg
    refine List.map_congr_left fun m hm => ?_
    rw [farewell, (mem_present.1 hm).2.1, tree.group?_eq hb]
  have hnames : ∀ m ∈ s.list.members.filter (·.contact.isOnline),
      m.group ∈ visited.map Group.name := by
    intro m hm
    obtain ⟨b, hb, hname⟩ := (isSome_group?_iff ..).1 (placed m (List.mem_filter.1 hm).1)
    exact hname ▸ tree.mem_names hwalk hb
  have hpresent : (visited.flatMap fun g => s.list.present g.name).Perm
      (s.list.members.filter (·.contact.isOnline)) := by
    simpa only [present, List.filter_filter] using
      perm_flatMap_group visited (tree.nodup_names hwalk) hnames
  rw [List.flatMap_congr hfarewell, ← List.map_flatMap]
  exact hpresent.map _

/-- All that a disconnect does: it stops the polling, and everybody goes offline, we first. -/
theorem disconnect_eq {s : Session} (tree : s.list.IsTree) (distinct : s.list.Distinct)
    (placed : ∀ m ∈ s.list.members, (s.list.group? m.group).isSome) :
    ∃ farewells : List Notice,
      farewells.Perm ((s.list.members.filter (·.contact.isOnline)).map s.list.farewell) ∧
      s.disconnect =
        { s with
          poller := none
          own := { s.own with mask := .unknown }
          list := s.list.silenced
          trace := s.trace ++ (s.ownFarewell ++ farewells).flatMap s.deliveries } := by
  obtain ⟨visited, houtline⟩ := exists_outline_of_not_loops tree.not_loops
  have hwalk := outline?_eq_some_iff.1 houtline
  have hsilenced : s.list.silence (·.group ∈ visited.map Group.name) = s.list.silenced := by
    refine silence_eq_silenced fun m hm => decide_eq_true ?_
    obtain ⟨b, hb, hname⟩ := (isSome_group?_iff ..).1 (placed m hm)
    exact hname ▸ tree.mem_names hwalk hb
  refine ⟨visited.flatMap s.farewells, perm_farewells tree placed hwalk, ?_⟩
  have hdistinct : s.stopPolling.resetStatus.list.Distinct := by
    rw [list_resetStatus]
    exact distinct
  have houtline' : s.stopPolling.resetStatus.list.outline? = some visited := by
    rw [list_resetStatus]
    exact houtline
  rw [disconnect, silenceContacts, houtline', Option.getD_some,
    foldl_silenceGroup visited hdistinct (tree.nodup_names hwalk), resetStatus_eq,
    List.flatMap_append, ← List.append_assoc, ← hsilenced]
  rfl

theorem registrationChanged_of_isDisconnect {new : Registration} (h : new.isDisconnect = true)
    (s : Session) : s.registrationChanged new = s.disconnect := by
  have hne : new ≠ .registered := by
    rintro rfl
    cases h
  rw [registrationChanged, if_neg hne, if_pos h]

/-- Where everybody is offline already, there is nothing left to do. -/
theorem disconnect_eq_self {s : Session} (tree : s.list.IsTree) (distinct : s.list.Distinct)
    (placed : ∀ m ∈ s.list.members, (s.list.group? m.group).isSome) (poller : s.poller = none)
    (own : s.own.mask = .unknown) (offline : ∀ m ∈ s.list.members, m.contact.isOnline = false) :
    s.disconnect = s := by
  obtain ⟨farewells, hperm, heq⟩ := disconnect_eq tree distinct placed
  have hfarewells : farewells = [] := by
    rw [List.filter_eq_nil_iff.2 fun m hm => by simp [offline m hm]] at hperm
    exact hperm.eq_nil
  have hsilenced : s.list.silenced = s.list := by
    rw [silenced, List.map_congr_left fun m hm => Member.silenced_of_offline (offline m hm),
      List.map_id']
  have hown : s.ownFarewell = [] := by
    rw [ownFarewell, own]
    rfl
  rw [heq, hfarewells, hsilenced, hown, ← poller, ← own]
  simp

/-- A disconnect comes to an end and leaves everybody offline. It tells of our own status first, if
that was known, then of each contact that was online, once and as one of its own group, and of no other.
A second disconnect changes nothing, and nothing is told. -/
theorem disconnect_silences_everybody_once {s : Session} (tree : s.list.IsTree)
    (distinct : s.list.Distinct) (placed : ∀ m ∈ s.list.members, (s.list.group? m.group).isSome)
    {new : Registration} (disconnects : new.isDisconnect = true) :
    let t := s.registrationChanged new
    (∃ n, round^[n] (s.stopPolling.resetStatus, [s.list.rootGroup]) = (t, [])) ∧
      (∃ farewells : List Notice,
        farewells.Perm ((s.list.members.filter (·.contact.isOnline)).map s.list.farewell) ∧
        t = { s with
          poller := none
          own := { s.own with mask := .unknown }
          list := s.list.silenced
          trace := s.trace ++ (s.ownFarewell ++ farewells).flatMap s.deliveries }) ∧
      (∀ m ∈ t.list.members, m.contact.status = .offline) ∧
      ∀ again : Registration, again.isDisconnect = true → t.registrationChanged again = t := by
  intro t
  have ht : t = s.disconnect := registrationChanged_of_isDisconnect disconnects s
  obtain ⟨farewells, hperm, heq⟩ := disconnect_eq tree distinct placed
  have hlist : t.list = s.list.silenced := by rw [ht, heq]
  have hoffline : ∀ m ∈ t.list.members, m.contact.isOnline = false := by
    rw [hlist]
    intro m hm
    obtain ⟨m, -, rfl⟩ := List.mem_map.1 hm
    exact m.isOnline_silenced
  refine ⟨?_, ⟨farewells, hperm, ht.trans heq⟩, ?_, fun again hagain => ?_⟩
  · have hloops : ¬s.stopPolling.resetStatus.list.Loops := by
      rw [list_resetStatus]
      exact tree.not_loops
    obtain ⟨n, hn⟩ := iterate_round_eq hloops
    rw [list_resetStatus] at hn
    exact ⟨n, ht ▸ hn⟩
  · exact fun m hm => (Status.isOnline_eq_false_iff _).1 (hoffline m hm)
  · rw [registrationChanged_of_isDisconnect hagain]
    refine disconnect_eq_self ?_ ?_ ?_ (by rw [ht, heq]) (by rw [ht, heq]) hoffline
    · rw [hlist]
      exact ⟨tree.names, tree.root, tree.reached⟩
    · rw [hlist, ← silence_eq_silenced fun _ _ => rfl]
      exact distinct.silence fun _ => true
    · rw [hlist]
      intro _ hm
      obtain ⟨m, hmember, rfl⟩ := List.mem_map.1 hm
      exact placed m hmember

/-- A group in a group, and contacts in all of them. -/
theorem disconnect_silences_nested_groups :
    let l : ContactList :=
      { rootName := "root"
        branches := [⟨.stored "Close", some "Friends"⟩, ⟨.root "root", none⟩,
          ⟨.stored "Friends", some "root"⟩]
        members := [⟨{ Contact.resolve "555" with status := .away }, "Close"⟩,
          ⟨Contact.resolve "556", "Friends"⟩,
          ⟨{ Contact.resolve "557" with status := .online }, "root"⟩] }
    let s : Session :=
      { settings := {}, localIdentifier := "12345", list := l, own := ⟨.online, ""⟩ }
    l.IsTree ∧ l.Distinct ∧ (∀ m ∈ l.members, (l.group? m.group).isSome) ∧
      ∀ m ∈ (s.registrationChanged .connectionFailed).list.members, m.contact.status = .offline := by
  intro l s
  have hfriends : l.Holds "root" "Friends" := ⟨.stored "Friends", by decide, rfl⟩
  have hclose : l.Holds "Friends" "Close" := ⟨.stored "Close", by decide, rfl⟩
  have tree : l.IsTree := by
    refine ⟨by decide, by decide, fun b hb => ?_⟩
    simp only [l, List.mem_cons, List.not_mem_nil, or_false] at hb
    rcases hb with rfl | rfl | rfl
    · exact .tail (.single hfriends) hclose
    · exact .refl
    · exact .single hfriends
  have distinct : l.Distinct := by decide
  have placed : ∀ m ∈ l.members, (l.group? m.group).isSome := by decide
  exact ⟨tree, distinct, placed,
    (disconnect_silences_everybody_once (s := s) tree distinct placed rfl).2.2.1⟩

end Session

end Roster
