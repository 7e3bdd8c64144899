import Roster.Proofs.Consistency
import Roster.Proofs.Line.Deeds

/-! Asking a contact, from one end to the other. A stranger is put where it belongs and moved on to the
awaiting group, which is made if there is none, and all of that comes about or nothing; then the
application is asked, and what it drafts goes out as two commands on whatever line. The awaiting group goes
away by being dissolved or renamed alone, so between two of its makings lies one of these. -/

namespace Roster

namespace ContactList

/-- A name is lost by an edit that takes just this name away. -/
theorem mem_names_edit {l : ContactList} {name : String} {e : Edit} (h : name ∈ l.names)
    (hdissolve : e ≠ .dissolve name) (hrename : ∀ newName, e ≠ .rename name newName) :
    name ∈ (l.edit e).names := by
  cases e with
  | found group => exact List.mem_map.2 <| (List.mem_map.1 h).imp fun b hb =>
      ⟨List.mem_append_left _ hb.1, hb.2⟩
  | park x origin awaiting =>
    have hnames : name ∈ (l.withAwaiting awaiting).names := by
      rw [← isSome_group?_iff_mem_names] at h ⊢
      unfold withAwaiting
      split
      · exact h
      · exact isSome_group?_addGroup h _
    exact hnames
  | dissolve other =>
    rw [edit, names_removeGroup]
    exact (List.mem_erase_of_ne fun heq => hdissolve (by rw [heq])).2 h
  | rename other newName =>
    obtain ⟨b, hb, hname⟩ := List.mem_map.1 h
    have hne : b.group.name ≠ other := fun heq => hrename newName (by rw [← hname, heq])
    exact List.mem_map.2 ⟨b, mem_renameFirst hb hne, hname⟩
  | shift x group =>
    rw [edit, shift]
    split <;> exact h
  | enter | release | rewrite | leave | detach => exact h

end ContactList

/-- The steps that need the awaiting group. -/
def Step.parks : Step → Bool
  | .requireAuthorization .. | .authorizationRequired .. | .ensureAwaitingGroup => true
  | _ => false

namespace Session

open ContactList

/-- What the application wants to ask with, if it wants to ask. -/
def petition? (s : Session) : Option Petition := s.desk.policy?.bind Policy.outgoing

/-- Whether a line takes both commands that ask a contact. -/
def takesPetition (line : Line) (s : Session) (x : String) (p : Petition) : Bool :=
  let drafted := s.record (.drafted s.desk.earlier x (some p))
  let granted := drafted.record (.commanded (.grantFutureAuthorization x p.reason))
  line drafted (.grantFutureAuthorization x p.reason) &&
    line granted (.requestAuthorization x p.reason)

theorem sendAllVia_snd (line : Line) (s : Session) (c c' : Command) :
    (s.sendAllVia line [c, c']).2.isOk = (line s c && line (s.record (.commanded c)) c') := by
  simp only [sendAllVia, sendVia]
  cases line s c with
  | false => rfl
  | true => cases h : line (s.record (.commanded c)) c' <;> simp [h, Except.isOk, Except.toBool]

/-- A contact has been asked: nothing happened but that, and the answer tells whether it came about. -/
structure Petitions (line : Line) (s : Session) (x : String) (r : Session × Bool) : Prop where
  tells : s.Tells r.1
  sent : r.2 = s.petition?.any (s.takesPetition line x)

theorem petitionVia_petitions (line : Line) (s : Session) (c : Contact) :
    s.Petitions line c.identifier (s.petitionVia line c) := by
  refine ⟨petitionVia_tells line s c, ?_⟩
  unfold petitionVia petition?
  cases s.desk.policy? with
  | none => rfl
  | some policy =>
    dsimp only [Option.bind_some]
    cases policy.outgoing with
    | none => rfl
    | some p =>
      have hsent := sendAllVia_snd line (s.record (.drafted s.desk.earlier c.identifier (some p)))
        (.grantFutureAuthorization c.identifier p.reason) (.requestAuthorization c.identifier p.reason)
      rw [Option.any_some, takesPetition, ← hsent]
      dsimp only
      split <;> next h => rw [h]; rfl

/-- The session with a stranger in the awaiting group that belongs to another group. -/
def lodged (s : Session) (x : String) (origin : Group) : Session :=
  { s with
    list := s.awaitingList.addMember (.parked x origin.name) s.awaitingGroup.name
    trace := s.trace ++ s.awaitingNews ++
      s.deliveries (.moved ⟨.parked x origin.name, origin, s.awaitingGroup⟩) }

/-- A stranger has been parked: it has one entry, and that is new, as the awaiting group may be. The
listeners have been told of the group if it is new, and then of the contact. -/
structure Lodges (s : Session) (x : String) (origin : Group) (t : Session) : Prop where
  single : t.list.entries x = [⟨.parked x origin.name, s.settings.awaitingGroup⟩]
  members : t.list.members =
    s.list.members ++ [⟨.parked x origin.name, s.settings.awaitingGroup⟩]
  branches : t.list.branches = s.list.branches ++
    if s.awaitingGroup?.isSome then []
    else [⟨.virtual s.settings.awaitingGroup, some s.list.rootName⟩]
  group : t.list.parentGroup? x = t.awaitingGroup? ∧ t.awaitingGroup? = some s.awaitingGroup
  told : t.trace = s.trace ++
    (if s.awaitingGroup?.isSome then []
      else s.deliveries
        (.group ⟨.created, .virtual s.settings.awaitingGroup, some s.list.rootGroup⟩)) ++
    s.deliveries (.moved ⟨.parked x origin.name, origin, s.awaitingGroup⟩)
  rootName : t.list.rootName = s.list.rootName
  rest : t = { s with list := t.list, trace := t.trace }

variable {s : Session} {x : String}

theorem rootName_awaitingList (s : Session) : s.awaitingList.rootName = s.list.rootName := by
  unfold awaitingList
  split <;> rfl

theorem members_awaitingList (s : Session) : s.awaitingList.members = s.list.members := by
  unfold awaitingList
  split <;> rfl

theorem branches_awaitingList (s : Session) : s.awaitingList.branches = s.list.branches ++
    if s.awaitingGroup?.isSome then []
    else [⟨.virtual s.settings.awaitingGroup, some s.list.rootName⟩] := by
  unfold awaitingList
  split
  · rw [List.append_nil]
  · rfl

theorem lodges_lodged (hx : s.list.contact? x = none) (origin : Group) :
    s.Lodges x origin (s.lodged x origin) := by
  have hsingle : (s.lodged x origin).list.entries x =
      [⟨.parked x origin.name, s.settings.awaitingGroup⟩] := by
    have hnone := (contact?_eq_none_iff s.list x).1 hx
    rw [lodged, entries_addMember, entries_awaitingList, hnone, awaitingGroup_name]
    exact if_pos rfl
  have hgroup : (s.lodged x origin).list.group? s.settings.awaitingGroup = some s.awaitingGroup :=
    group?_awaitingList s
  have hname := awaitingGroup_name s
  refine ⟨hsingle, ?_, branches_awaitingList s, ⟨?_, hgroup⟩, rfl, rootName_awaitingList s, rfl⟩
  · rw [lodged, addMember, members_awaitingList, hname]
  · rw [parentGroup?, groupNameOf?_eq_entries, hsingle]
    rfl

/-- A contact that is known is asked; a stranger is asked once it is parked, if there is a group that it
belongs to. -/
theorem authorizationRequiredVia_eq (line : Line) (s : Session) (x : String) (parent : Option String) :
    s.authorizationRequiredVia line x parent =
      match s.list.contact? x with
      | some c => s.petitionVia line c
      | none =>
        if (s.list.group? (s.home parent).name).isSome then
          (s.lodged x (s.home parent)).petitionVia line (.parked x (s.home parent).name)
        else (s, false) := by
  unfold authorizationRequiredVia
  cases hx : s.list.contact? x with
  | some c => rfl
  | none =>
    rw [park_of_unknown hx]
    by_cases hg : (s.list.group? (s.home parent).name).isSome
    · simp only [hg, if_true]
      rfl
    · simp only [hg, Bool.false_eq_true, if_false]

/-- The session makes the awaiting group, in a step that needs it. -/
def founds (s : Session) (line : Line) (step : Step) : Bool :=
  step.parks && s.awaitingGroup?.isNone && (s.performVia line step).1.awaitingGroup?.isSome

/-- A step takes the awaiting group away, or gives it another name. -/
def Unmakes (s : Session) (step : Step) : Prop :=
  s.edit? step = some (.dissolve s.settings.awaitingGroup) ∨
    ∃ newName, s.edit? step = some (.rename s.settings.awaitingGroup newName)

theorem parks_performVia (hs : s.Calm) (line : Line) {step : Step} (h : s.Parks)
    (hstep : ¬s.Unmakes step) : (s.performVia line step).1.Parks := by
  have hbranches := branches_of_bare_eq (performVia_edited line hs.sound step)
  rw [Parks, performVia_settings line hs.sound, isSome_group?_iff_mem_names, names, hbranches]
  have hname := isSome_group?_iff_mem_names.1 h
  cases hedit : s.edit? step with
  | none => exact hname
  | some e =>
    refine mem_names_edit hname (fun he => hstep (.inl ?_)) fun newName he => hstep (.inr ⟨newName, ?_⟩)
    · rw [hedit, he]
    · rw [hedit, he]

/-- Where the awaiting group is gone, a step has unmade it. -/
theorem exists_unmakes (hs : s.Calm) (h : s.Parks) {moves : List (Line × Step)}
    (hgone : ¬(s.runVia moves).Parks) : ∃ before line step after,
      moves = before ++ (line, step) :: after ∧ (s.runVia before).Unmakes step := by
  induction moves generalizing s with
  | nil => exact absurd h hgone
  | cons move moves ih =>
    obtain ⟨line, step⟩ := move
    by_cases hstep : s.Unmakes step
    · exact ⟨[], line, step, moves, rfl, hstep⟩
    · obtain ⟨before, line', step', after, rfl, hunmakes⟩ :=
        ih (hs.performVia line step) (parks_performVia hs line h hstep) hgone
      exact ⟨(line, step) :: before, line', step', after, rfl, hunmakes⟩

theorem runVia_append_cons (s : Session) (before after : List (Line × Step)) (line : Line)
    (step : Step) : s.runVia (before ++ (line, step) :: after) =
      ((s.runVia before).performVia line step).1.runVia after := by
  rw [runVia, List.foldl_append]
  rfl

/-- Asking a contact leaves everything else alone: one that is known is asked as it is, a stranger is
parked in full and then asked, or there is no group that it belongs to and nothing happens. In a run the
awaiting group is made again only after it was dissolved or renamed. -/
theorem asking_parks_strangers_once :
    (∀ (line : Line) (s : Session) (x : String) (parent : Option String),
      (∀ c, s.list.contact? x = some c →
        s.Petitions line x (s.authorizationRequiredVia line x parent)) ∧
      (s.list.contact? x = none → s.list.group? (s.home parent).name = none →
        s.authorizationRequiredVia line x parent = (s, false)) ∧
      (s.list.contact? x = none → (s.list.group? (s.home parent).name).isSome →
        ∃ t, s.Lodges x (s.home parent) t ∧
          t.Petitions line x (s.authorizationRequiredVia line x parent))) ∧
    ∀ (a : Assembly) (s : Session), a.build = .ok s →
      ∀ (before between : List (Line × Step)) (line line' : Line) (step step' : Step),
        (s.runVia before).founds line step = true →
        (s.runVia (before ++ (line, step) :: between)).founds line' step' = true →
        ∃ before' line'' step'' after, between = before' ++ (line'', step'') :: after ∧
          (s.runVia (before ++ (line, step) :: before')).Unmakes step'' := by
  refine ⟨fun line s x parent => ?_, fun a s hbuild before between line line' step step' h h' => ?_⟩
  · rw [authorizationRequiredVia_eq]
    refine ⟨fun c hc => ?known, fun hx hg => ?homeless, fun hx hg => ?parked⟩
    case known =>
      obtain rfl := identifier_of_contact? hc
      rw [hc]
      exact petitionVia_petitions line s c
    case homeless =>
      rw [hx, hg]
      rfl
    case parked =>
      rw [hx]
      simp only [hg, if_true]
      exact ⟨_, lodges_lodged hx _, petitionVia_petitions line _ (.parked x (s.home parent).name)⟩
  · have hcalm := (Assembly.calm_of_build hbuild).runVia before
    simp only [founds, Bool.and_eq_true] at h h'
    -- the first making leaves the group there, and the second finds it gone
    have hgone : ¬(((s.runVia before).performVia line step).1.runVia between).Parks := by
      rw [← runVia_append_cons, Parks, Option.not_isSome_iff_eq_none]
      exact Option.isNone_iff_eq_none.1 h'.1.2
    obtain ⟨before', line'', step'', after, rfl, hunmakes⟩ :=
      exists_unmakes (hcalm.performVia line step) h.2 hgone
    exact ⟨before', line'', step'', after, rfl, by rwa [runVia_append_cons]⟩

/-- A contact, a stranger and one without a group to belong to are asked; and a stranger is parked, the
awaiting group is removed, and another stranger is parked. -/
theorem asking_after_removal_of_awaiting_group :
    let s : Session :=
      { settings := {}, localIdentifier := "12345", reRequests := true
        list := ⟨"root", [⟨.root "root", none⟩, ⟨.stored "Friends", some "root"⟩],
          [⟨.resolve "200", "Friends"⟩]⟩ }
    let rootless : Session := { s with list := ⟨"root", [], []⟩ }
    let drop : Line × Step := (.plain, .dropGroup s.settings.awaitingGroup)
    let step : Step := .authorizationRequired "777" (some "Friends")
    let step' : Step := .authorizationRequired "888" none
    (s.list.contact? "200" = some (.resolve "200") ∧
      s.Petitions .plain "200" (s.authorizationRequiredVia .plain "200" none)) ∧
    (rootless.list.contact? "777" = none ∧ rootless.list.group? (rootless.home none).name = none ∧
      rootless.authorizationRequiredVia .plain "777" none = (rootless, false)) ∧
    (s.list.contact? "777" = none ∧ (s.list.group? (s.home (some "Friends")).name).isSome ∧
      ∃ t, s.Lodges "777" (s.home (some "Friends")) t ∧
        t.Petitions .plain "777" (s.authorizationRequiredVia .plain "777" (some "Friends"))) ∧
    ((s.runVia []).founds .plain step = true ∧
      (s.runVia [(.plain, step), drop]).founds .plain step' = true ∧
      ∃ before' line'' step'' after, [drop] = before' ++ (line'', step'') :: after ∧
        (s.runVia ((.plain, step) :: before')).Unmakes step'') := by
  intro s rootless drop step step'
  obtain ⟨hasking, hrun⟩ := asking_parks_strangers_once
  have hknown : s.list.contact? "200" = some (.resolve "200") := by decide +kernel
  have hstranger : rootless.list.contact? "777" = none := by decide +kernel
  have hhomeless : rootless.list.group? (rootless.home none).name = none := by decide +kernel
  have hnew : s.list.contact? "777" = none := by decide +kernel
  have hhome : (s.list.group? (s.home (some "Friends")).name).isSome := by decide +kernel
  let a : Assembly :=
    { connection := some ⟨"12345", true⟩, list := some s.list, hasPolicy := true, reRequests := true }
  have hbuild : a.build = .ok s := rfl
  have hfounds : (s.runVia []).founds .plain step = true := by decide +kernel
  have hfounds' : (s.runVia [(.plain, step), drop]).founds .plain step' = true := by decide +kernel
  exact ⟨⟨hknown, (hasking .plain s "200" none).1 _ hknown⟩,
    ⟨hstranger, hhomeless, (hasking .plain rootless "777" none).2.1 hstranger hhomeless⟩,
    ⟨hnew, hhome, (hasking .plain s "777" (some "Friends")).2.2 hnew hhome⟩,
    hfounds, hfounds', hrun a s hbuild [] [drop] .plain .plain step step' hfounds hfounds'⟩

end Session

end Roster
