import Roster.Proofs.Layers

/-! Settings from a document under variables. What a document says of a setting may stand in several places;
they are laid over one another, and a variable over them all. -/

namespace Roster

/-- The members of a document's root. -/
abbrev Document := List (String × Tree)

/-- What a document or a variable can set. -/
inductive Setting
  | mode
  | queryTimeoutMs
  | awaitingGroup
  | pollIntervalSecs
  | pollInitialDelaySecs
  | reRequestReason
  deriving DecidableEq, Repr

/-- The tables that settings are in. -/
def sectionNames : List String := ["account", "status_query", "authorization"]

namespace Setting

/-- Every setting. -/
def all : List Setting :=
  [mode, queryTimeoutMs, awaitingGroup, pollIntervalSecs, pollInitialDelaySecs, reRequestReason]

theorem mem_all (s : Setting) : s ∈ all := by cases s <;> decide

def sectionName : Setting → String
  | mode => "account"
  | queryTimeoutMs => "status_query"
  | _ => "authorization"

def itemName : Setting → String
  | mode => "mode"
  | queryTimeoutMs => "timeout_ms"
  | awaitingGroup => "awaiting_group_name"
  | pollIntervalSecs => "poll_interval_secs"
  | pollInitialDelaySecs => "poll_initial_delay_secs"
  | reRequestReason => "re_request_reason"

def key (s : Setting) : String := s.sectionName ++ "." ++ s.itemName

/-- The name of its variable, letter case aside. -/
def variableName (s : Setting) : String := "presence__" ++ s.sectionName ++ "__" ++ s.itemName

/-- Two settings agree in this. -/
def Same (s : Setting) (a b : Settings) : Prop :=
  match s with
  | mode => a.mode = b.mode
  | queryTimeoutMs => a.queryTimeoutMs = b.queryTimeoutMs
  | awaitingGroup => a.awaitingGroup = b.awaitingGroup
  | pollIntervalSecs => a.pollIntervalSecs = b.pollIntervalSecs
  | pollInitialDelaySecs => a.pollInitialDelaySecs = b.pollInitialDelaySecs
  | reRequestReason => a.reRequestReason = b.reRequestReason

/-- What an entry of a document says of a setting, member by member. A key may lead below the setting: then
the rest of its path stands before the value. -/
def saidBy (s : Setting) (entry : String × Tree) : List (List String × Tree) :=
  match Tree.path entry.1 with
  | [] => []
  | [a] =>
    if Tree.fold a = s.sectionName then
      (entry.2.members.filter fun m => Tree.fold m.1 = s.itemName).map fun m => ([], m.2)
    else []
  | a :: b :: rest =>
    if Tree.fold a = s.sectionName ∧ Tree.fold b = s.itemName then [(rest, entry.2)] else []

/-- All that a document says of a setting. -/
def said (s : Setting) (file : Document) : List (List String × Tree) := file.flatMap s.saidBy

/-- The value of a setting in a tree. -/
def given (s : Setting) (t : Tree) : Option Tree := (t.get? s.sectionName).bind (·.get? s.itemName)

/-- What is said, the later over the earlier. -/
def heap (said : List (List String × Tree)) (t : Option Tree) : Option Tree :=
  said.foldl (fun t p => some (Tree.setAt p.2 p.1 (t.getD .nothing))) t

theorem sectionName_mem (s : Setting) : s.sectionName ∈ sectionNames := by cases s <;> decide

/-- The setting is what a value spells. -/
def Reads (s : Setting) (value : Tree) (settings : Settings) : Prop :=
  match s with
  | mode => value.mode? = some settings.mode
  | queryTimeoutMs => value.word? = some settings.queryTimeoutMs
  | awaitingGroup => value.text? = some settings.awaitingGroup
  | pollIntervalSecs => value.word? = some settings.pollIntervalSecs
  | pollInitialDelaySecs => value.word? = some settings.pollInitialDelaySecs
  | reRequestReason => value.text? = some settings.reRequestReason

/-- The setting is what its value spells, or the default if it has none. -/
def Holds (s : Setting) (value : Option Tree) (settings : Settings) : Prop :=
  value.elim (s.Same settings {}) fun t => s.Reads t settings

/-- A value spells something for the setting. -/
def isLegible (s : Setting) (value : Tree) : Bool :=
  match s with
  | mode => value.mode?.isSome
  | awaitingGroup | reRequestReason => value.text?.isSome
  | queryTimeoutMs | pollIntervalSecs | pollInitialDelaySecs => value.word?.isSome

def complaint : Setting → Tree → String
  | mode => Tree.modeComplaint
  | awaitingGroup | reRequestReason => Tree.textComplaint
  | queryTimeoutMs | pollIntervalSecs | pollInitialDelaySecs => Tree.wordComplaint

def misfit? (s : Setting) (value : Option Tree) : Option (List String × String) :=
  value.bind fun t => if s.isLegible t then none else some ([s.sectionName, s.itemName], s.complaint t)

theorem Reads.isLegible {s : Setting} {value : Tree} {settings : Settings} (h : s.Reads value settings) :
    s.isLegible value = true := by
  cases s <;> exact Option.isSome_of_eq_some h

end Setting

/-- The entries for the tables of the settings are tables. -/
def Tabular (file : Document) : Prop :=
  ∀ e ∈ file, Tree.fold e.1 ∈ sectionNames → ∃ ms, e.2 = .table ms

namespace Tree

/-- The tables of the settings are tables, as far as they are there. -/
def Sectioned (t : Tree) : Prop :=
  ∀ name ∈ sectionNames, ∀ x, t.get? name = some x → ∃ ms, x = table ms

theorem get?_getD_nothing (t : Option Tree) (name : String) :
    (t.getD nothing).get? name = t.bind (·.get? name) := by
  cases t <;> rfl

/-- An entry changes a setting by what it says of it. -/
theorem given_setAt {e : String × Tree} (tabular : fold e.1 ∈ sectionNames → ∃ ms, e.2 = table ms)
    (s : Setting) (t : Tree) :
    s.given (setAt e.2 (path e.1) t) = Setting.heap (s.saidBy e) (s.given t) := by
  rw [Setting.saidBy]
  -- the path ends at a table, where the members count one by one, or leads to a setting or below it
  rcases hpath : path e.1 with _ | ⟨a, _ | ⟨b, rest⟩⟩
  · exact absurd hpath (path_ne_nil e.1)
  · rw [Setting.given, get?_setAt_cons]
    by_cases ha : fold a = s.sectionName
    · have hkey : a = e.1 := eq_of_path_eq_singleton hpath
      obtain ⟨ms, hms⟩ := tabular (by rw [← hkey, ha]; exact s.sectionName_mem)
      have hold : ((t.get? s.sectionName).getD nothing).members.lookup s.itemName = s.given t :=
        get?_getD_nothing ..
      rw [if_pos ha, Option.bind_some, setAt_nil, hms, overlay_table, get?_table, lookup_membersOver, hold]
      simp only [ha, if_true, Setting.heap, List.foldl_map]
      rfl
    · simp only [ha, if_false]
      rfl
  · rw [Setting.given, get?_setAt_cons]
    by_cases ha : fold a = s.sectionName
    · rw [if_pos ha, Option.bind_some, get?_setAt_cons, get?_getD_nothing]
      by_cases hb : fold b = s.itemName
      · simp only [ha, hb, and_self, if_true]
        rfl
      · simp only [hb, and_false, if_false]
        rfl
    · simp only [ha, false_and, if_false]
      rfl

theorem Sectioned.setAt {e : String × Tree} (tabular : fold e.1 ∈ sectionNames → ∃ ms, e.2 = table ms)
    {t : Tree} (h : t.Sectioned) : (setAt e.2 (path e.1) t).Sectioned := by
  intro name hname x hx
  rcases hpath : path e.1 with _ | ⟨a, rest⟩
  · exact absurd hpath (path_ne_nil e.1)
  · rw [hpath, get?_setAt_cons] at hx
    by_cases ha : fold a = name
    · rw [if_pos ha, Option.some.injEq] at hx
      subst hx
      cases rest with
      | nil =>
        have hkey : a = e.1 := eq_of_path_eq_singleton hpath
        obtain ⟨ms, hms⟩ := tabular (by rw [← hkey, ha]; exact hname)
        rw [hms]
        exact ⟨_, overlay_table ..⟩
      | cons b rest => exact ⟨_, rfl⟩
    · rw [if_neg ha] at hx
      exact h name hname x hx

theorem given_layer {file : Document} (tabular : Tabular file) (s : Setting) (t : Tree) :
    s.given (layer t file) = Setting.heap (s.said file) (s.given t) := by
  induction file generalizing t with
  | nil => rfl
  | cons e file ih =>
    rcases List.forall_mem_cons.1 tabular with ⟨he, hfile⟩
    rw [layer, List.foldl_cons, ← layer, ih hfile, given_setAt he]
    simp only [Setting.said, Setting.heap, List.flatMap_cons, List.foldl_append]

theorem Sectioned.layer {file : Document} (tabular : Tabular file) {t : Tree} (h : t.Sectioned) :
    (layer t file).Sectioned := by
  induction file generalizing t with
  | nil => exact h
  | cons e file ih =>
    rcases List.forall_mem_cons.1 tabular with ⟨he, hfile⟩
    exact ih hfile (h.setAt he)

theorem Sectioned.part? {t : Tree} (h : t.Sectioned) (s : Setting) (place : Nat) :
    t.part? s.sectionName place s.itemName = some (s.given t) := by
  rw [Tree.part?, Setting.given]
  cases hget : t.get? s.sectionName with
  | none => rfl
  | some x =>
    obtain ⟨ms, rfl⟩ := h s.sectionName s.sectionName_mem x hget
    rfl

/-- A setting is read from its value, wherever that comes from. -/
theorem Sectioned.setting? {α : Type} {t : Tree} (h : t.Sectioned) (s : Setting) (read : Tree → Option α)
    (fallback : α) (place : Nat) : t.setting? read fallback s.sectionName place s.itemName =
      (s.given t).elim (some fallback) read := by
  rw [Tree.setting?, h.part?]
  cases s.given t <;> rfl

theorem Sectioned.misfit? {α : Type} {t : Tree} (h : t.Sectioned) (s : Setting) (read : Tree → Option α)
    (complaint : Tree → String) (place : Nat) : t.misfit? read complaint s.sectionName place s.itemName =
      (s.given t).bind fun value =>
        if (read value).isSome then none else some ([s.sectionName, s.itemName], complaint value) := by
  rw [Tree.misfit?, h.part?]
  cases s.given t <;> rfl

end Tree

/-- What is wrong with the values of settings. -/
def Settings.misfitsOf (value : Setting → Option Tree) : List (List String × String) :=
  (Setting.all.map fun s => s.misfit? (value s)).filterMap id

/-- The settings from a value for each, or its default. -/
def Settings.ofValues? (value : Setting → Option Tree) : Option Settings := do
  let base : Settings := {}
  let mode ← (value .mode).elim (some base.mode) Tree.mode?
  let timeout ← (value .queryTimeoutMs).elim (some base.queryTimeoutMs) Tree.word?
  let group ← (value .awaitingGroup).elim (some base.awaitingGroup) Tree.text?
  let interval ← (value .pollIntervalSecs).elim (some base.pollIntervalSecs) Tree.word?
  let delay ← (value .pollInitialDelaySecs).elim (some base.pollInitialDelaySecs) Tree.word?
  let reason ← (value .reRequestReason).elim (some base.reRequestReason) Tree.text?
  return {
    mode := mode
    queryTimeoutMs := timeout
    awaitingGroup := group
    pollIntervalSecs := interval
    pollInitialDelaySecs := delay
    reRequestReason := reason }

namespace Tree

theorem Sectioned.ofTree? {t : Tree} (h : t.Sectioned) :
    Settings.ofTree? t = Settings.ofValues? fun s => s.given t := by
  rw [Settings.ofTree?, Settings.ofValues?]
  rw [← h.setting? .mode _ _ 0, ← h.setting? .queryTimeoutMs _ _ 0, ← h.setting? .awaitingGroup _ _ 0,
    ← h.setting? .pollIntervalSecs _ _ 1, ← h.setting? .pollInitialDelaySecs _ _ 2,
    ← h.setting? .reRequestReason _ _ 3]
  rfl

theorem Sectioned.misfits {t : Tree} (h : t.Sectioned) :
    Settings.misfits t = Settings.misfitsOf fun s => s.given t := by
  apply congrArg (List.filterMap id)
  simp only [Setting.all, List.map_cons, List.map_nil, List.cons.injEq, and_true]
  exact ⟨h.misfit? .mode _ _ 0, h.misfit? .queryTimeoutMs _ _ 0, h.misfit? .awaitingGroup _ _ 0,
    h.misfit? .pollIntervalSecs _ _ 1, h.misfit? .pollInitialDelaySecs _ _ 2, h.misfit? .reRequestReason _ _ 3⟩

/-- A setting comes of a tree or there is something wrong with it. -/
theorem misfit?_eq_none_iff {α : Type} {t : Tree} {read : Tree → Option α} (fallback : α)
    {complaint : Tree → String} {name : String} {place : Nat} {item : String} :
    t.misfit? read complaint name place item = none ↔
      ∃ a, t.setting? read fallback name place item = some a := by
  rw [misfit?, setting?]
  rcases t.part? name place item with _ | _ | value
  · simp
  · simp
  · cases hread : read value <;> simp [hread]

/-- What is wrong is wrong with a section or with something in it. -/
theorem key_of_misfit? {α : Type} {t : Tree} {read : Tree → Option α} {complaint : Tree → String}
    {name : String} {place : Nat} {item : String} {m : List String × String}
    (h : t.misfit? read complaint name place item = some m) : ∃ rest, m.1 = name :: rest := by
  rw [misfit?] at h
  split at h
  · exact ⟨[], by rw [← Option.some.inj h]⟩
  · exact absurd h nofun
  · split at h
    · exact absurd h nofun
    · exact ⟨[item], by rw [← Option.some.inj h]⟩

end Tree

namespace Settings

variable {value : Setting → Option Tree} {settings : Settings}

theorem elim_eq_some_iff {α : Type} {value : Option Tree} {read : Tree → Option α} {fallback a : α} :
    value.elim (some fallback) read = some a ↔ value.elim (a = fallback) fun t => read t = some a := by
  cases value with
  | none => rw [Option.elim_none, Option.elim_none, Option.some.injEq, eq_comm]
  | some t => rfl

/-- Settings come of values if each of them is what its value spells. -/
theorem ofValues?_eq_some_iff : ofValues? value = some settings ↔ ∀ s : Setting, s.Holds (value s) settings := by
  constructor
  · intro h
    simp only [ofValues?, Option.bind_eq_bind, Option.bind_eq_some_iff, Option.pure_def, Option.some.injEq] at h
    obtain ⟨_, hmode, _, htimeout, _, hgroup, _, hinterval, _, hdelay, _, hreason, rfl⟩ := h
    intro s
    cases s
    · exact elim_eq_some_iff.1 hmode
    · exact elim_eq_some_iff.1 htimeout
    · exact elim_eq_some_iff.1 hgroup
    · exact elim_eq_some_iff.1 hinterval
    · exact elim_eq_some_iff.1 hdelay
    · exact elim_eq_some_iff.1 hreason
  · intro h
    have hmode := elim_eq_some_iff.2 (h .mode)
    have htimeout := elim_eq_some_iff.2 (h .queryTimeoutMs)
    have hgroup := elim_eq_some_iff.2 (h .awaitingGroup)
    have hinterval := elim_eq_some_iff.2 (h .pollIntervalSecs)
    have hdelay := elim_eq_some_iff.2 (h .pollInitialDelaySecs)
    have hreason := elim_eq_some_iff.2 (h .reRequestReason)
    simp only [ofValues?, hmode, htimeout, hgroup, hinterval, hdelay, hreason]
    rfl

/-- A tree of which settings come has nothing wrong with it, and any other has. -/
theorem misfits_eq_nil_iff {t : Tree} : misfits t = [] ↔ ∃ settings, ofTree? t = some settings := by
  let base : Settings := {}
  simp only [misfits, List.filterMap_eq_nil_iff, List.forall_mem_cons, List.not_mem_nil, false_implies,
    implies_true, and_true, id_eq]
  constructor
  · rintro ⟨hmode, htimeout, hgroup, hinterval, hdelay, hreason⟩
    obtain ⟨_, hmode⟩ := (Tree.misfit?_eq_none_iff base.mode).1 hmode
    obtain ⟨_, htimeout⟩ := (Tree.misfit?_eq_none_iff base.queryTimeoutMs).1 htimeout
    obtain ⟨_, hgroup⟩ := (Tree.misfit?_eq_none_iff base.awaitingGroup).1 hgroup
    obtain ⟨_, hinterval⟩ := (Tree.misfit?_eq_none_iff base.pollIntervalSecs).1 hinterval
    obtain ⟨_, hdelay⟩ := (Tree.misfit?_eq_none_iff base.pollInitialDelaySecs).1 hdelay
    obtain ⟨_, hreason⟩ := (Tree.misfit?_eq_none_iff base.reRequestReason).1 hreason
    rw [ofTree?, hmode, htimeout, hgroup, hinterval, hdelay, hreason]
    exact ⟨_, rfl⟩
  · rintro ⟨settings, h⟩
    simp only [ofTree?, Option.bind_eq_bind, Option.bind_eq_some_iff] at h
    obtain ⟨_, hmode, _, htimeout, _, hgroup, _, hinterval, _, hdelay, _, hreason, -⟩ := h
    exact ⟨(Tree.misfit?_eq_none_iff _).2 ⟨_, hmode⟩, (Tree.misfit?_eq_none_iff _).2 ⟨_, htimeout⟩,
      (Tree.misfit?_eq_none_iff _).2 ⟨_, hgroup⟩, (Tree.misfit?_eq_none_iff _).2 ⟨_, hinterval⟩,
      (Tree.misfit?_eq_none_iff _).2 ⟨_, hdelay⟩, (Tree.misfit?_eq_none_iff _).2 ⟨_, hreason⟩⟩

theorem ofTree?_eq_none {t : Tree} (h : misfits t ≠ []) : ofTree? t = none := by
  rw [Option.eq_none_iff_forall_ne_some]
  intro settings hread
  exact h (misfits_eq_nil_iff.2 ⟨settings, hread⟩)

end Settings

namespace Tree

/-- The name that a key begins with. -/
def leadingName (key : String) : String := String.ofList (key.toList.takeWhile fun c => c != '.' && c != '[')

/-- The entry is for one of the tables of the settings, or for something in it. -/
def concerns (e : String × Tree) : Bool := decide (fold (leadingName e.1) ∈ sectionNames)

/-- Two documents differ in nothing that concerns the settings. -/
def Alike (file file' : Document) : Prop := file.filter concerns = file'.filter concerns

/-- Two trees have the same tables of the settings. -/
def SameSections (t t' : Tree) : Prop := ∀ name ∈ sectionNames, t.get? name = t'.get? name

theorem SameSections.setAt {t t' : Tree} (h : t.SameSections t') (e : String × Tree) :
    (setAt e.2 (path e.1) t).SameSections (setAt e.2 (path e.1) t') := by
  intro name hname
  obtain ⟨k, ks, hpath⟩ := List.exists_cons_of_ne_nil (path_ne_nil e.1)
  rw [hpath, get?_setAt_cons, get?_setAt_cons, h name hname]

theorem plain_of_fold_mem {name : String} (h : fold name ∈ sectionNames) :
    ∀ c ∈ name.toList, (c != '.' && c != '[') = true := by
  have plain : ∀ word ∈ sectionNames, '.' ∉ word.toList ∧ '[' ∉ word.toList := by decide
  rcases plain _ h with ⟨hpoint, hbracket⟩
  intro c hc
  have hlower : c.toLower ∈ (fold name).toList := by
    rw [fold, String.toList_map]
    exact List.mem_map_of_mem hc
  simp only [Bool.and_eq_true, bne_iff_ne]
  constructor
  · rintro rfl
    exact hpoint hlower
  · rintro rfl
    exact hbracket hlower

theorem leadingName_of_path {key k : String} {ks : List String} (h : path key = k :: ks)
    (hk : fold k ∈ sectionNames) : leadingName key = k := by
  obtain ⟨r, hr, hpoint⟩ := exists_behind_name h
  rw [leadingName, hr, List.takeWhile_append_of_pos (plain_of_fold_mem hk)]
  rcases r with _ | ⟨c, r⟩
  · rw [List.takeWhile_nil, List.append_nil, String.ofList_toList]
  · rw [hpoint c rfl, List.takeWhile_cons_of_neg (by decide), List.append_nil, String.ofList_toList]

theorem concerns_of_path {e : String × Tree} {name : String} (hname : name ∈ sectionNames)
    {rest : List String} (h : (path e.1).map fold = name :: rest) : concerns e = true := by
  obtain ⟨k, ks, hpath, hk, -⟩ := List.map_eq_cons_iff.1 h
  rw [concerns, leadingName_of_path hpath (hk ▸ hname), hk]
  exact decide_eq_true hname

theorem sameSections_setAt_of_not_concerns {e : String × Tree} (h : concerns e = false) (t : Tree) :
    (setAt e.2 (path e.1) t).SameSections t := by
  intro name hname
  obtain ⟨k, ks, hpath⟩ := List.exists_cons_of_ne_nil (path_ne_nil e.1)
  rw [hpath, get?_setAt_cons, if_neg]
  intro hk
  have hmem : fold k ∈ sectionNames := hk ▸ hname
  exact of_decide_eq_false h (leadingName_of_path hpath hmem ▸ hmem)

theorem sameSections_layer (file : Document) {t t' : Tree} (h : t.SameSections t') :
    (layer t file).SameSections (layer t' (file.filter concerns)) := by
  induction file generalizing t t' with
  | nil => exact h
  | cons e file ih =>
    rw [List.filter_cons]
    split
    · exact ih (h.setAt e)
    · next hconcerns =>
      apply ih
      intro name hname
      rw [sameSections_setAt_of_not_concerns (by simpa using hconcerns) t name hname, h name hname]

theorem SameSections.ofTree? {t t' : Tree} (h : t.SameSections t') :
    Settings.ofTree? t = Settings.ofTree? t' := by
  have haccount := h "account" (by decide)
  have hquery := h "status_query" (by decide)
  have hauthorization := h "authorization" (by decide)
  simp only [Settings.ofTree?, Tree.setting?, Tree.part?, haccount, hquery, hauthorization]

theorem SameSections.misfits {t t' : Tree} (h : t.SameSections t') :
    Settings.misfits t = Settings.misfits t' := by
  have haccount := h "account" (by decide)
  have hquery := h "status_query" (by decide)
  have hauthorization := h "authorization" (by decide)
  simp only [Settings.misfits, Tree.misfit?, Tree.part?, haccount, hquery, hauthorization]

end Tree

end Roster
