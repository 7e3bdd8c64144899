import Roster.Proofs.Runs
import Roster.Proofs.Sweep

/-! The loop that a run can make. Groups are made in the root and stay there, so a list remains flat, and
a group can lie in itself only if it bears the name of the root. No operation that makes or renames a
group asks for that name. A disconnect comes to an end as long as none has given it away. -/

namespace Roster

namespace ContactList

open Relation

/-- Every group lies in the root, if in any. -/
def Flat (l : ContactList) : Prop := ∀ b ∈ l.branches, b.parent = none ∨ b.parent = some l.rootName

/-- A group in the root bears the name of the root. -/
def Twinned (l : ContactList) : Prop :=
  ∃ b ∈ l.branches, b.parent = some l.rootName ∧ b.group.name = l.rootName

instance (l : ContactList) : Decidable l.Flat :=
  inferInstanceAs (Decidable (∀ b ∈ l.branches, _))

instance (l : ContactList) : Decidable l.Twinned :=
  inferInstanceAs (Decidable (∃ b ∈ l.branches, _))

/-- A flat list has no loop but a twin of the root. -/
theorem Flat.loops_iff {l : ContactList} (h : l.Flat) : l.Loops ↔ l.Twinned := by
  have hroot {x y : String} (hxy : l.Holds x y) : x = l.rootName := by
    obtain ⟨b, hb, hparent, -⟩ := holds_iff.1 hxy
    rcases h b hb with hnone | hsome
    · rw [hnone] at hparent
      cases hparent
    · exact Option.some.inj (hparent.symm.trans hsome)
  constructor
  · rintro ⟨x, -, hloop⟩
    obtain ⟨y, hfirst, -⟩ := TransGen.head'_iff.1 hloop
    obtain ⟨z, -, hlast⟩ := TransGen.tail'_iff.1 hloop
    rw [hroot hfirst, hroot hlast] at hlast
    exact holds_iff.1 hlast
  · intro htwin
    exact ⟨l.rootName, .refl, .single (holds_iff.2 htwin)⟩

/-- A renaming gives the name of the root to a group in it. -/
def retwins (l : ContactList) (name newName : String) : Bool :=
  newName = l.rootName ∧ (l.branches.find? (·.group.name = name)).any (·.parent.isSome)

/-- A list is edited and stays flat; if it had no twin, the flag tells whether it has one now. -/
structure Reshapes (l : ContactList) (twins : Bool) (l' : ContactList) : Prop where
  flat : l.Flat → l'.Flat
  twinned : l.Flat → ¬l.Twinned → (l'.Twinned ↔ twins = true)

section Reshapes

variable {l l' l'' : ContactList}

theorem Reshapes.refl (l : ContactList) : l.Reshapes false l :=
  ⟨id, fun _ h => iff_of_false h Bool.false_ne_true⟩

/-- Only the groups matter. -/
theorem Reshapes.congr {b : Bool} (h : l.Reshapes b l') (branches : l''.branches = l'.branches)
    (rootName : l''.rootName = l'.rootName) : l.Reshapes b l'' := by
  refine ⟨fun hl => ?_, fun hl htwin => ?_⟩
  · rw [Flat, branches, rootName]
    exact h.flat hl
  · rw [Twinned, branches, rootName]
    exact h.twinned hl htwin

theorem Reshapes.withMembers {b : Bool} (h : l.Reshapes b l') (ms : List Member) :
    l.Reshapes b { l' with members := ms } := h.congr rfl rfl

theorem Reshapes.of_bare_eq (h : l'.bare = l.bare) : l.Reshapes false l' :=
  (Reshapes.refl l).congr (branches_of_bare_eq h) (rootName_of_bare_eq h)

/-- An edit that may not come about makes a twin only if it does. -/
theorem Reshapes.guard {p : Prop} [Decidable p] {b : Bool} (h : l.Reshapes b l') :
    l.Reshapes (p && b) (if p then l' else l) := by
  by_cases hp : p
  · simpa [hp] using h
  · simpa [hp] using Reshapes.refl l

theorem Reshapes.maybe {p : Prop} [Decidable p] (h : l.Reshapes false l') :
    l.Reshapes false (if p then l' else l) := by
  simpa using h.guard (p := p)

theorem Reshapes.drops {x : String} (h : l.Drops x l') : l.Reshapes false l' :=
  (Reshapes.refl l).congr h.branches h.rootName

theorem reshapes_shift (l : ContactList) (x group : String) : l.Reshapes false (l.shift x group) :=
  ((Reshapes.refl l).withMembers _).maybe

theorem reshapes_addGroup (l : ContactList) (g : Group) :
    l.Reshapes (g.name = l.rootName : Bool) (l.addGroup g) := by
  refine ⟨fun h b hb => ?_, fun _ h => ?_⟩
  · rcases List.mem_append.1 hb with hb | hb
    · exact h b hb
    · rw [List.mem_singleton.1 hb]
      exact .inr rfl
  · have hone : (l.addGroup g).Twinned ↔ l.Twinned ∨ g.name = l.rootName := by
      simp [Twinned, addGroup, or_and_right, exists_or]
    simp [hone, h]

theorem reshapes_removeGroup (l : ContactList) (name : String) :
    l.Reshapes false (l.removeGroup name) := by
  refine ⟨fun h b hb => h b (List.mem_of_mem_eraseP hb), fun _ h => ?_⟩
  refine iff_of_false ?_ Bool.false_ne_true
  rintro ⟨b, hb, htwin⟩
  exact h ⟨b, List.mem_of_mem_eraseP hb, htwin⟩

theorem map_parent_renameFirst (name newName : String) (bs : List Branch) :
    (renameFirst name newName bs).map Branch.parent = bs.map Branch.parent := by
  induction bs with
  | nil => rfl
  | cons b bs ih =>
    unfold renameFirst
    split
    · rfl
    · rw [List.map_cons, ih, List.map_cons]

theorem reshapes_renameGroup (l : ContactList) (name newName : String) :
    l.Reshapes (l.retwins name newName) (l.renameGroup name newName) := by
  refine ⟨fun h b hb => ?_, fun hflat h => ?_⟩
  · have hparent : b.parent ∈ l.branches.map Branch.parent := by
      rw [← map_parent_renameFirst name newName]
      exact List.mem_map_of_mem hb
    obtain ⟨b', hb', heq⟩ := List.mem_map.1 hparent
    rw [← heq]
    exact h b' hb'
  · have hfirst (bs : List Branch) (hbs : bs ⊆ l.branches) :
        (∃ b ∈ renameFirst name newName bs, b.parent = some l.rootName ∧ b.group.name = l.rootName) ↔
          newName = l.rootName ∧ (bs.find? (·.group.name = name)).any (·.parent.isSome) := by
      induction bs with
      | nil => simp [renameFirst]
      | cons b bs ih =>
        obtain ⟨hb, hbs⟩ := List.cons_subset.1 hbs
        have hnone (b : Branch) (hb : b ∈ l.branches) :
            ¬(b.parent = some l.rootName ∧ b.group.name = l.rootName) := fun htwin => h ⟨b, hb, htwin⟩
        by_cases hname : b.group.name = name
        · have hparent : b.parent = some l.rootName ↔ b.parent.isSome := by
            rcases hflat b hb with hp | hp <;> simp [hp]
          have hrest : ¬∃ b ∈ bs, b.parent = some l.rootName ∧ b.group.name = l.rootName := by
            rintro ⟨b, hb, htwin⟩
            exact hnone b (hbs hb) htwin
          simp only [renameFirst, hname, if_true, List.mem_cons, exists_eq_or_imp, hrest, or_false,
            hparent]
          simp [hname, and_comm]
        · have hhead := hnone b hb
          simp only [renameFirst, hname, if_false, List.mem_cons, exists_eq_or_imp, hhead, false_or,
            ih hbs]
          simp [hname]
    rw [retwins, decide_eq_true_eq]
    exact hfirst l.branches (List.Subset.refl _)

end Reshapes

end ContactList

namespace Session

open ContactList

/-- The group of parked contacts is yet to be made, and is called like the root. -/
def awaitsTwin (s : Session) : Bool :=
  ¬s.awaitingGroup?.isSome ∧ s.settings.awaitingGroup = s.list.rootName

/-- A stranger is parked, and the group for that is made as a twin of the root. -/
def parksInTwin (s : Session) (x : String) (parent : Option String) : Bool :=
  (s.list.contact? x = none ∧ (s.list.group? (s.home parent).name).isSome) && s.awaitsTwin

/-- What gives the name of the root to a group in it. -/
def twins (s : Session) : Step → Bool
  | .createGroup parent name =>
    (s.able ∧ (s.list.group? parent).any Group.canContainSubgroups) && name = s.list.rootName
  | .storeGroup name => (s.keeper.refuses = false) && name = s.list.rootName
  | .renameGroup name newName =>
    (s.able ∧ (s.list.group? name).isSome) && s.list.retwins name newName
  | .retitleGroup name newName => (s.keeper.refuses = false) && s.list.retwins name newName
  | .createUnresolvedGroup name => name = s.list.rootName
  | .ensureAwaitingGroup => s.awaitsTwin
  | .requireAuthorization x parent => s.server.attached && s.parksInTwin x parent
  | .authorizationRequired x parent => s.parksInTwin x parent
  | _ => false

variable {s : Session}

theorem awaitingList_reshapes (s : Session) : s.list.Reshapes s.awaitsTwin s.awaitingList := by
  have h := (reshapes_addGroup s.list (.virtual s.settings.awaitingGroup)).guard
    (p := ¬s.awaitingGroup?.isSome)
  rw [awaitsTwin, Bool.decide_and, awaitingList, ← ite_not]
  exact h

theorem authorizationRequired_reshapes (s : Session) (x : String) (parent : Option String) :
    s.list.Reshapes (s.parksInTwin x parent) (s.authorizationRequired x parent).1.list := by
  rw [authorizationRequired_list, parksInTwin]
  exact ((awaitingList_reshapes s).withMembers _).guard

theorem handle_reshapes (s : Session) (e : ServerEvent) :
    s.list.Reshapes false (s.handle e).list := by
  have hmembers (ms : List Member) : s.list.Reshapes false { s.list with members := ms } :=
    (Reshapes.refl _).withMembers ms
  cases e with
  | authorizationRequestReceived x _ =>
    rw [handle, authorizationRequested_list]
    exact (hmembers _).maybe
  | authorizationAccepted x reason =>
    simp only [handle, authorizationAccepted_list]
    cases s.list.contact? x with
    | none => exact .refl _
    | some c => exact hmembers _
  | authorizationDenied x reason => exact .drops (authorizationDenied_list s x reason)
  | _ => exact .of_bare_eq (handle_course s rfl).frame.list

/-- What becomes of the groups in a step. -/
theorem act_reshapes (hs : s.Sound) (step : Step) :
    s.list.Reshapes (s.twins step) (s.act step).1.list := by
  have hmembers (ms : List Member) : s.list.Reshapes false { s.list with members := ms } :=
    (Reshapes.refl _).withMembers ms
  cases step with
  | emit e =>
    simp only [act, twins]
    split
    · exact handle_reshapes s e
    · exact .refl _
  | handle e => exact handle_reshapes s e
  | requireAuthorization x parent =>
    simp only [act, twins]
    cases s.server.attached with
    | true => exact authorizationRequired_reshapes s x parent
    | false => exact .refl _
  | authorizationRequired x parent => exact authorizationRequired_reshapes s x parent
  | subscribe x =>
    rw [act, done_fst, subscribe_list]
    exact (hmembers _).maybe
  | subscribeIn group x =>
    rw [act, done_fst, subscribeIn_list]
    exact (hmembers _).maybe
  | unsubscribe x =>
    simp only [act, twins, done_fst]
    exact .drops (unsubscribe_list s x)
  | moveContact x group =>
    simp only [act, twins, done_fst]
    rcases moveContact_list s x group with hl | ⟨hl, -⟩ <;> rw [hl]
    · exact .refl _
    · exact reshapes_shift _ x group
  | createGroup parent name =>
    rw [act, twins, done_fst, createGroup_list]
    exact (reshapes_addGroup s.list (.stored name)).guard
  | removeGroup name =>
    rw [act, done_fst, removeGroup_list]
    exact (reshapes_removeGroup _ name).maybe
  | renameGroup name newName =>
    rw [act, twins, done_fst, renameGroup_list]
    exact (reshapes_renameGroup _ name newName).guard
  | createUnresolvedContact x data parent =>
    rw [act, outcomeOf_fst, createUnresolvedContact_list]
    exact (hmembers _).maybe
  | createUnresolvedGroup name => exact reshapes_addGroup s.list (.unresolved name)
  | createVolatileContact x => exact hmembers _
  | ensureAwaitingGroup =>
    simp only [act, twins, ensureAwaitingGroup_eq]
    exact awaitingList_reshapes s
  | relocate x group =>
    simp only [act, twins, editList]
    split
    · next h =>
      rw [relocate_ok h]
      exact reshapes_shift _ x group
    · exact .refl _
  | update c =>
    simp only [act, twins, editList, update]
    split
    · next h =>
      split at h
      · cases h
      · cases h
        exact hmembers _
    · exact .refl _
  | detach x =>
    simp only [act, twins, editList]
    split
    · next h =>
      rw [detach_ok h]
      exact hmembers _
    · exact .refl _
  | addContact group x =>
    rw [act, done_fst, addContact_list]
    exact (hmembers _).maybe
  | deleteContact group x =>
    rw [act, done_fst, deleteContact_list]
    exact (hmembers _).maybe
  | shiftContact x group =>
    rw [act, done_fst, shiftContact_list]
    exact (reshapes_shift _ x group).maybe
  | storeGroup name =>
    rw [act, twins, done_fst, storeGroup_list]
    exact (reshapes_addGroup s.list (.stored name)).guard
  | dropGroup name =>
    rw [act, done_fst, dropGroup_list]
    exact (reshapes_removeGroup _ name).maybe
  | retitleGroup name newName =>
    rw [act, twins, done_fst, retitleGroup_list]
    exact (reshapes_renameGroup _ name newName).guard
  | setStatus x status => exact hmembers _
  | setImage x image => exact hmembers _
  | createUnresolved group x data =>
    simp only [act, twins, createUnresolved]
    by_cases h : (s.list.group? group).isSome
    · simp only [h, if_true]
      exact hmembers _
    · simp only [h, Bool.false_eq_true, if_false]
      exact .refl _
  | addListener | removeListener | setIncoming | setOutgoing | replacePolicy => exact .refl _
  | _ => exact .of_bare_eq (act_course hs rfl).frame.list

theorem perform_reshapes (hs : s.Sound) (step : Step) :
    s.list.Reshapes (s.twins step) (s.perform step).1.list := by
  have hbare := (settle_course (act_sound hs step)).frame.list
  exact (act_reshapes hs step).congr (branches_of_bare_eq hbare) (rootName_of_bare_eq hbare)

theorem run_flat (steps : List Step) : ∀ {s : Session}, s.Sound → s.list.Flat →
    (s.run steps).list.Flat := by
  induction steps with
  | nil => exact fun _ h => h
  | cons step steps ih =>
    intro s hs h
    exact ih (perform_sound hs step) ((perform_reshapes hs step).flat h)

theorem disconnectEnds_iff_of_flat (h : s.list.Flat) : s.DisconnectEnds ↔ ¬s.list.Twinned := by
  rw [disconnectEnds_iff, h.loops_iff]

/-- Where the groups lie in the root, and none bears its name, a disconnect comes to an end all through a
run exactly if no step of it makes a twin of the root. At any time it does exactly if there is none. -/
theorem disconnect_ends_iff_never_twins {s : Session} (reachable : s.Reachable) (flat : s.list.Flat)
    (untwinned : ¬s.list.Twinned) (steps : List Step) :
    (s.Throughout DisconnectEnds steps ↔ s.Never twins steps) ∧
      ((s.run steps).DisconnectEnds ↔ ¬(s.run steps).list.Twinned) := by
  let I (s : Session) : Prop := s.Sound ∧ s.list.Flat ∧ ¬s.list.Twinned
  have holds (s : Session) (h : I s) : s.DisconnectEnds := (disconnectEnds_iff_of_flat h.2.1).2 h.2.2
  have kept : ∀ s, ∀ step ∈ steps, I s → s.twins step = false → I (s.perform step).1 := by
    rintro s step - ⟨hs, hflat, huntwinned⟩ hstep
    have hshape := perform_reshapes hs step
    rw [hstep] at hshape
    exact ⟨perform_sound hs step, hshape.flat hflat,
      fun htwin => Bool.false_ne_true ((hshape.twinned hflat huntwinned).1 htwin)⟩
  have lost : ∀ s, ∀ step ∈ steps, I s → s.twins step = true →
      ¬(s.perform step).1.DisconnectEnds := by
    rintro s step - ⟨hs, hflat, huntwinned⟩ hstep hends
    have hshape := perform_reshapes hs step
    exact (disconnectEnds_iff_of_flat (hshape.flat hflat)).1 hends
      ((hshape.twinned hflat huntwinned).2 hstep)
  exact ⟨(throughout_iff_never holds kept lost ⟨reachable.sound, flat, untwinned⟩).1,
    disconnectEnds_iff_of_flat (run_flat steps reachable.sound flat)⟩

/-- A group is made, renamed, and another removed, before the connection is lost. -/
theorem disconnect_ends_after_renaming :
    let s : Session :=
      { settings := {}, localIdentifier := "12345", reRequests := false
        list := ⟨"Contacts", [⟨.root "Contacts", none⟩, ⟨.stored "Friends", some "Contacts"⟩], []⟩ }
    let steps : List Step :=
      [.createGroup "Contacts" "Work", .renameGroup "Work" "Family", .removeGroup "Friends"]
    s.Reachable ∧ s.list.Flat ∧ ¬s.list.Twinned ∧ s.Throughout DisconnectEnds steps := by
  intro s steps
  have reachable : s.Reachable :=
    ⟨{ connection := some ⟨"12345", true⟩, list := some s.list, hasPolicy := true }, s, [], rfl, rfl⟩
  have flat : s.list.Flat := by decide
  have untwinned : ¬s.list.Twinned := by decide
  have never : s.Never twins steps :=
    never_cons.2 ⟨by decide +kernel, never_cons.2 ⟨by decide +kernel,
      never_cons.2 ⟨by decide +kernel, never_nil twins _⟩⟩⟩
  exact ⟨reachable, flat, untwinned,
    (disconnect_ends_iff_never_twins reachable flat untwinned steps).1.2 never⟩

/-- A group of the root's name is made in the root. -/
theorem endless_disconnect_after_createGroup :
    ¬∀ (s : Session) (steps : List Step), s.Reachable → s.list.Flat →
      (s.list.branches.map (·.group.name)).Nodup → (∀ step ∈ steps, step.bypasses = false) →
      (s.run steps).DisconnectEnds := by
  intro h
  let s : Session :=
    { settings := {}, localIdentifier := "12345", reRequests := false
      list := ⟨"Contacts", [⟨.root "Contacts", none⟩, ⟨.stored "Friends", some "Contacts"⟩], []⟩ }
  let steps : List Step := [.createGroup "Contacts" "Contacts"]
  have reachable : s.Reachable :=
    ⟨{ connection := some ⟨"12345", true⟩, list := some s.list, hasPolicy := true }, s, [],
      rfl, rfl⟩
  have flat : s.list.Flat := by decide
  have hends := h s steps reachable flat (by decide) (by decide)
  have htwin : (s.run steps).list.Twinned := by decide +kernel
  exact (disconnectEnds_iff_of_flat (run_flat steps reachable.sound flat)).1 hends htwin

end Session

end Roster
