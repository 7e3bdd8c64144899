import Mathlib
import Roster.Proofs.Documents

/-! Variables over a document. A variable of a setting counts as an entry behind all that the document says,
so it can as well be written into the document in place of what it overrides. What differs is where an
unreadable value is said to come from. -/

namespace Roster

theorem Tree.fold_eq_self {name : String} (h : (name.toList.all fun c => c.toLower == c) = true) :
    fold name = name := by
  rw [fold, ← String.toList_inj, String.toList_map]
  calc name.toList.map Char.toLower
      = name.toList.map id := List.map_congr_left fun c hc => beq_iff_eq.1 (List.all_eq_true.1 h c hc)
    _ = name.toList := List.map_id _

namespace Setting

theorem isName_sectionName (s : Setting) : Tree.isName s.sectionName = true := by cases s <;> decide

theorem isName_itemName (s : Setting) : Tree.isName s.itemName = true := by cases s <;> decide

theorem path_key (s : Setting) : Tree.path s.key = [s.sectionName, s.itemName] :=
  Tree.path_point s.isName_sectionName s.isName_itemName

theorem fold_sectionName (s : Setting) : Tree.fold s.sectionName = s.sectionName := by
  cases s <;> exact Tree.fold_eq_self (by decide)

theorem fold_itemName (s : Setting) : Tree.fold s.itemName = s.itemName := by
  cases s <;> exact Tree.fold_eq_self (by decide)

/-- A table of settings has no point in its name. -/
theorem fold_key_not_mem (s : Setting) : Tree.fold s.key ∉ sectionNames := by
  intro h
  have hpoint : '.' ∈ s.key.toList := by simp [key]
  exact absurd (Tree.plain_of_fold_mem h '.' hpoint) (by decide)

theorem names_inj {s s' : Setting} :
    s.sectionName = s'.sectionName ∧ s.itemName = s'.itemName ↔ s = s' := by
  cases s <;> cases s' <;> decide

theorem variableName_inj {s s' : Setting} : s.variableName = s'.variableName ↔ s = s' := by
  cases s <;> cases s' <;> decide

theorem saidBy_key (s s' : Setting) (t : Tree) : s'.saidBy (s.key, t) = if s = s' then [([], t)] else [] := by
  rw [saidBy, path_key]
  simp only [fold_sectionName, fold_itemName, names_inj]

/-- A setting may as well stand in its table. -/
theorem saidBy_table (s s' : Setting) (t : Tree) :
    s'.saidBy (s.sectionName, .table [(s.itemName, t)]) = if s = s' then [([], t)] else [] := by
  rw [saidBy, Tree.path_of_isName s.isName_sectionName]
  simp only [fold_sectionName, fold_itemName, ← names_inj, Tree.members, List.filter_singleton]
  by_cases hsection : s.sectionName = s'.sectionName
  · by_cases hitem : s.itemName = s'.itemName <;> simp [hsection, hitem]
  · simp [hsection]

theorem said_singleton (s : Setting) (e : String × Tree) : s.said [e] = s.saidBy e :=
  List.flatMap_singleton ..

/-- A text said last is the value. -/
theorem heap_append_text (said : List (List String × Tree)) (text : String) (t : Option Tree) :
    heap (said ++ [([], .text text)]) t = some (.text text) := by
  rw [heap, List.foldl_append, List.foldl_cons, List.foldl_nil, Tree.setAt_nil, Tree.overlay_text]

theorem heap_of_all_text {said : List (List String × Tree)} {text : String} (hne : said ≠ [])
    (hall : ∀ p ∈ said, p = ([], .text text)) (t : Option Tree) : heap said t = some (.text text) := by
  rw [← List.dropLast_concat_getLast hne, hall _ (List.getLast_mem hne)]
  exact heap_append_text ..

end Setting

/-- A misreading that no longer tells where the value comes from. -/
def Misreading.unsourced (m : Misreading) : Misreading := { m with origin := none }

def SettingsFault.unsourced : SettingsFault → SettingsFault
  | invalid item problem => invalid item problem
  | @unreadable causes => @unreadable (causes.map Misreading.unsourced)

namespace Settings

variable {vars vars' : Variables} {v : String × String} {file file' : Document} {s : Setting}

/-- A variable has this text for the setting. -/
def Overrides (vars : Variables) (s : Setting) (text : String) : Prop :=
  ∃ name, (name, text) ∈ vars ∧ Tree.fold name = s.variableName

/-- Each variable is that of a setting, and each setting has at most one. -/
structure Overriding (vars : Variables) : Prop where
  known : ∀ v ∈ vars, ∃ s : Setting, Tree.fold v.1 = s.variableName
  distinct : (vars.map fun v => Tree.fold v.1).Nodup

/-- The variables as entries of a document. -/
def entries (vars : Variables) : Document := vars.filterMap override?

theorem override?_of_fold (h : Tree.fold v.1 = s.variableName) :
    override? v = some (s.key, .text v.2) := by
  have hstem : variableStem.isPrefixOf s.variableName.toList = true := by cases s <;> decide +kernel
  have hkey : String.ofList (pointed (s.variableName.toList.drop variableStem.length)) = s.key := by
    cases s <;> decide +kernel
  simp only [override?, h, hstem, if_true, hkey]

theorem said_entries_cons (h : Tree.fold v.1 = s.variableName) (vars : Variables) (s' : Setting) :
    s'.said (entries (v :: vars)) = (if s = s' then [([], .text v.2)] else []) ++ s'.said (entries vars) := by
  rw [entries, List.filterMap_cons, override?_of_fold h]
  simp only [Setting.said, List.flatMap_cons, Setting.saidBy_key]
  rfl

theorem Overriding.tail (h : Overriding (v :: vars)) : Overriding vars where
  known := fun w hw => h.known w (List.mem_cons_of_mem v hw)
  distinct := (List.nodup_cons.1 h.distinct).2

theorem Overriding.head_ne {w : String × String} (h : Overriding (v :: vars)) (hw : w ∈ vars) :
    Tree.fold w.1 ≠ Tree.fold v.1 := by
  intro heq
  have hmem : Tree.fold w.1 ∈ vars.map fun v => Tree.fold v.1 := List.mem_map_of_mem hw
  rw [heq] at hmem
  exact (List.nodup_cons.1 h.distinct).1 hmem

theorem Overrides.cons {text : String} (h : Overrides vars s text) : Overrides (v :: vars) s text := by
  obtain ⟨name, hmem, hname⟩ := h
  exact ⟨name, List.mem_cons_of_mem v hmem, hname⟩

theorem said_entries_of_not (h : ∀ v ∈ vars, ∃ s : Setting, Tree.fold v.1 = s.variableName)
    (hs : ∀ text, ¬ Overrides vars s text) : s.said (entries vars) = [] := by
  induction vars with
  | nil => rfl
  | cons v vars ih =>
    rcases List.forall_mem_cons.1 h with ⟨⟨s', hs'⟩, hvars⟩
    have hne : s' ≠ s := fun heq => hs v.2 ⟨v.1, List.mem_cons_self, heq ▸ hs'⟩
    rw [said_entries_cons hs', if_neg hne, List.nil_append]
    exact ih hvars fun text htext => hs text htext.cons

/-- The variable of a setting says its text once, and nothing else does. -/
theorem said_entries (h : Overriding vars) {text : String} (hs : Overrides vars s text) :
    s.said (entries vars) = [([], .text text)] := by
  induction vars with
  | nil =>
    obtain ⟨name, hmem, -⟩ := hs
    exact absurd hmem List.not_mem_nil
  | cons v vars ih =>
    obtain ⟨s', hs'⟩ := h.known v List.mem_cons_self
    rw [said_entries_cons hs']
    obtain ⟨name, hmem, hname⟩ := hs
    rcases List.mem_cons.1 hmem with rfl | hmem
    -- the first variable is that of the setting, so none of the rest is, or the other way round
    · have hno : ∀ text, ¬ Overrides vars s text := by
        rintro text' ⟨name', hmem', hname'⟩
        exact h.head_ne hmem' (hname'.trans hname.symm)
      rw [if_pos (Setting.variableName_inj.1 (hs'.symm.trans hname)), said_entries_of_not h.tail.known hno,
        List.append_nil]
    · have hne : s' ≠ s := by
        rintro rfl
        exact h.head_ne hmem (hname.trans hs'.symm)
      rw [if_neg hne, List.nil_append, ih h.tail ⟨name, hmem, hname⟩]

theorem tabular_entries (h : ∀ v ∈ vars, ∃ s : Setting, Tree.fold v.1 = s.variableName) :
    Tabular (entries vars) := by
  intro e he hfold
  obtain ⟨v, hv, hover⟩ := List.mem_filterMap.1 he
  obtain ⟨s, hs⟩ := h v hv
  rw [override?_of_fold hs, Option.some.injEq] at hover
  rw [← hover] at hfold
  exact absurd hfold s.fold_key_not_mem

theorem origin?_of_overrides {text : String} (h : Overrides vars s text) (source : Source) :
    origin? source vars [s.sectionName, s.itemName] = some .environment := by
  obtain ⟨name, hmem, hname⟩ := h
  apply if_pos
  rw [List.any_eq_true]
  refine ⟨_, List.mem_filterMap.2 ⟨_, hmem, override?_of_fold hname⟩, ?_⟩
  rw [Setting.path_key, List.map_cons, List.map_singleton, Setting.fold_sectionName, Setting.fold_itemName,
    beq_self_eq_true]

theorem tree_eq_layer (file : Document) (vars : Variables) :
    tree file vars = Tree.layer (.table []) (file ++ entries vars) := by
  rw [tree, entries, Tree.layer, Tree.layer, Tree.layer, List.foldl_append]

/-- What becomes of a setting: the document's word for it under that of the variables. -/
def valueOf (file : Document) (vars : Variables) (s : Setting) : Option Tree :=
  Setting.heap (s.said file ++ s.said (entries vars)) none

theorem valueOf_of_overrides (h : Overriding vars) {text : String} (hs : Overrides vars s text) :
    valueOf file vars s = some (.text text) := by
  rw [valueOf, said_entries h hs, Setting.heap_append_text]

theorem valueOf_of_not (h : Overriding vars) (hs : ∀ text, ¬ Overrides vars s text) :
    valueOf file vars s = Setting.heap (s.said file) none := by
  rw [valueOf, said_entries_of_not h.known hs, List.append_nil]

theorem tabular_append_entries (tabular : Tabular file) (h : Overriding vars) :
    Tabular (file ++ entries vars) := by
  intro e he
  exact (List.mem_append.1 he).elim (tabular e) (tabular_entries h.known e)

theorem sectioned_tree (tabular : Tabular file) (h : Overriding vars) : (tree file vars).Sectioned := by
  have hbase : (Tree.table []).Sectioned := fun name _ x hx => absurd hx nofun
  rw [tree_eq_layer]
  exact hbase.layer (tabular_append_entries tabular h)

theorem given_tree (tabular : Tabular file) (h : Overriding vars) :
    (fun s : Setting => s.given (tree file vars)) = valueOf file vars := by
  funext s
  rw [tree_eq_layer, Tree.given_layer (tabular_append_entries tabular h), Setting.said, List.flatMap_append]
  rfl

theorem ofTree?_tree (tabular : Tabular file) (h : Overriding vars) :
    ofTree? (tree file vars) = ofValues? (valueOf file vars) := by
  rw [(sectioned_tree tabular h).ofTree?, given_tree tabular h]

theorem misfits_tree (tabular : Tabular file) (h : Overriding vars) :
    misfits (tree file vars) = misfitsOf (valueOf file vars) := by
  rw [(sectioned_tree tabular h).misfits, given_tree tabular h]

/-- The settings of a document under variables, where it is not known of any value where it comes from. -/
def ofDocument (file : Document) (vars : Variables) : Except SettingsFault Settings :=
  match ofTree? (tree file vars) with
  | none => .error (@SettingsFault.unreadable (misreadings (tree file vars) fun _ => none))
  | some settings => settings.validate

/-- An outcome that no longer tells where an unreadable value comes from. -/
def unsourced (outcome : Except SettingsFault Settings) : Except SettingsFault Settings :=
  outcome.mapError SettingsFault.unsourced

theorem unsourced_validate (settings : Settings) : unsourced settings.validate = settings.validate := by
  rw [validate]
  split
  · rfl
  · split <;> rfl

theorem unsourced_eq_ok_iff {outcome : Except SettingsFault Settings} {settings : Settings} :
    unsourced outcome = .ok settings ↔ outcome = .ok settings := by
  cases outcome with
  | error fault => exact ⟨nofun, nofun⟩
  | ok other => rfl

theorem unsourced_ofSource {source : Source} (h : source.members? = some file) (vars : Variables) :
    unsourced (ofSource source vars) = ofDocument file vars := by
  rw [ofSource, h, ofDocument]
  dsimp only
  cases ofTree? (tree file vars) with
  | none =>
    simp only [unsourced, Except.mapError, SettingsFault.unsourced, misreadings, List.map_map]
    rfl
  | some settings => exact unsourced_validate settings

theorem ofSource_of_misfits {source : Source} (h : source.members? = some file)
    (hmisfits : misfits (tree file vars) ≠ []) : ofSource source vars =
      .error (@SettingsFault.unreadable (misreadings (tree file vars) (origin? source vars))) := by
  rw [ofSource, h]
  dsimp only
  rw [ofTree?_eq_none hmisfits]

/-- A text that is given as such has no origin, and no variable is there to be one. -/
theorem ofSource_toml_nil {text : String} (h : Toml.parse? text = some file) :
    ofSource (.toml text) [] = ofDocument file [] := by
  rw [ofSource, Source.members?, h]
  rfl

theorem ofDocument_ok_iff (tabular : Tabular file) (h : Overriding vars) {settings : Settings} :
    ofDocument file vars = .ok settings ↔
      settings.validate = .ok settings ∧ ∀ s : Setting, s.Holds (valueOf file vars s) settings := by
  rw [← ofValues?_eq_some_iff, ← ofTree?_tree tabular h, ofDocument]
  constructor
  · intro hok
    split at hok
    · exact absurd hok nofun
    · next read hread =>
      obtain rfl := validate_ok hok
      exact ⟨hok, hread⟩
  · rintro ⟨hok, hread⟩
    rw [hread]
    exact hok

/-- The variables have the word for their settings, and the document for all others. -/
theorem forall_holds_iff (h : Overriding vars) {settings : Settings} :
    (∀ s : Setting, s.Holds (valueOf file vars s) settings) ↔
      (∀ (s : Setting) text, Overrides vars s text → s.Reads (.text text) settings) ∧
      ∀ s : Setting, (∀ text, ¬ Overrides vars s text) →
        s.Holds (Setting.heap (s.said file) none) settings := by
  constructor
  · intro hall
    constructor
    · intro s text hs
      have hholds := hall s
      rwa [valueOf_of_overrides h hs] at hholds
    · intro s hs
      rw [← valueOf_of_not h hs]
      exact hall s
  · rintro ⟨hover, hother⟩ s
    by_cases hs : ∃ text, Overrides vars s text
    · obtain ⟨text, htext⟩ := hs
      rw [valueOf_of_overrides h htext]
      exact hover s text htext
    · rw [valueOf_of_not h (not_exists.1 hs)]
      exact hother s (not_exists.1 hs)

/-- A text that spells nothing for its setting is among the causes. -/
theorem ofDocument_of_illegible (tabular : Tabular file) (h : Overriding vars) {text : String}
    (hs : Overrides vars s text) (illegible : s.isLegible (.text text) = false) :
    ∃ causes, ofDocument file vars = .error (@SettingsFault.unreadable causes) ∧
      ⟨[s.sectionName, s.itemName], s.complaint (.text text), none⟩ ∈ causes := by
  have hvalue : valueOf file vars s = some (.text text) := valueOf_of_overrides h hs
  have hmisfit : s.misfit? (valueOf file vars s) =
      some ([s.sectionName, s.itemName], s.complaint (.text text)) := by
    rw [hvalue, Setting.misfit?, Option.bind_some, illegible]
    rfl
  have hmem : ([s.sectionName, s.itemName], s.complaint (.text text)) ∈ misfits (tree file vars) := by
    rw [misfits_tree tabular h, misfitsOf, List.mem_filterMap]
    exact ⟨_, List.mem_map_of_mem s.mem_all, hmisfit⟩
  refine ⟨misreadings (tree file vars) fun _ => none, ?_, List.mem_map.2 ⟨_, hmem, rfl⟩⟩
  rw [ofDocument, ofTree?_eq_none (List.ne_nil_of_mem hmem)]

def isOverridden (vars : Variables) (s : Setting) : Bool :=
  vars.any fun v => Tree.fold v.1 == s.variableName

theorem isOverridden_iff : isOverridden vars s = true ↔ ∃ text, Overrides vars s text := by
  simp only [isOverridden, List.any_eq_true, beq_iff_eq, Overrides]
  constructor
  · rintro ⟨v, hv, hname⟩
    exact ⟨v.2, v.1, hv, hname⟩
  · rintro ⟨text, name, hmem, hname⟩
    exact ⟨(name, text), hmem, hname⟩

/-- The two names lead to a setting that goes. -/
def isGone (gone : Setting → Bool) (a b : String) : Bool :=
  Setting.all.any fun s => gone s && Tree.fold a == s.sectionName && Tree.fold b == s.itemName

/-- What is left of an entry when some settings go. -/
def stripped (gone : Setting → Bool) (e : String × Tree) : Option (String × Tree) :=
  match Tree.path e.1, e.2 with
  | [a], .table ms => some (e.1, .table (ms.filter fun m => !isGone gone a m.1))
  | a :: b :: _, _ => if isGone gone a b then none else some e
  | _, _ => some e

theorem isGone_eq {a b : String} (ha : Tree.fold a = s.sectionName) (hb : Tree.fold b = s.itemName)
    (gone : Setting → Bool) : isGone gone a b = gone s := by
  rw [isGone, ha, hb, Bool.eq_iff_iff, List.any_eq_true]
  simp only [Bool.and_eq_true, beq_iff_eq, and_assoc, Setting.names_inj]
  constructor
  · rintro ⟨s', -, hgone, rfl⟩
    exact hgone
  · intro hgone
    exact ⟨s, s.mem_all, hgone, rfl⟩

/-- A filter by name takes out all members of the name, or none. -/
theorem filter_isGone {a : String} (ha : Tree.fold a = s.sectionName) (gone : Setting → Bool)
    (ms : List (String × Tree)) :
    ((ms.filter fun m => !isGone gone a m.1).filter fun m => Tree.fold m.1 = s.itemName) =
      if gone s then [] else ms.filter fun m => Tree.fold m.1 = s.itemName := by
  rw [List.filter_filter]
  split
  · next hgone =>
    apply List.filter_eq_nil_iff.2
    intro m _ hm
    simp only [Bool.and_eq_true, decide_eq_true_eq, Bool.not_eq_true'] at hm
    exact absurd hgone (by rw [← isGone_eq ha hm.1 gone, hm.2]; decide)
  · next hgone =>
    apply List.filter_congr
    intro m _
    by_cases hm : Tree.fold m.1 = s.itemName
    · rw [isGone_eq ha hm, Bool.eq_false_iff.2 hgone, Bool.not_false, Bool.and_true]
    · rw [decide_eq_false hm, Bool.false_and]

theorem said_stripped (gone : Setting → Bool) (s : Setting) (e : String × Tree) :
    s.said (stripped gone e).toList = if gone s then [] else s.saidBy e := by
  obtain ⟨key, t⟩ := e
  rcases hpath : Tree.path key with _ | ⟨a, _ | ⟨b, rest⟩⟩
  · exact absurd hpath (Tree.path_ne_nil key)
  · cases t with
    | table ms =>
      simp only [stripped, hpath, Option.toList_some, Setting.said_singleton, Setting.saidBy, Tree.members]
      by_cases ha : Tree.fold a = s.sectionName
      · rw [if_pos ha, if_pos ha, filter_isGone ha]
        split <;> rfl
      · rw [if_neg ha, if_neg ha, ite_self]
    | _ => simp [stripped, hpath, Setting.said_singleton, Setting.saidBy, Tree.members]
  · simp only [stripped, hpath, Setting.saidBy]
    by_cases hnames : Tree.fold a = s.sectionName ∧ Tree.fold b = s.itemName
    · rw [isGone_eq hnames.1 hnames.2, if_pos hnames]
      split
      · rfl
      · rw [Option.toList_some, Setting.said_singleton, Setting.saidBy, hpath]
        exact if_pos hnames
    · rw [if_neg hnames, ite_self]
      split
      · rfl
      · rw [Option.toList_some, Setting.said_singleton, Setting.saidBy, hpath]
        exact if_neg hnames

theorem said_filterMap_stripped (gone : Setting → Bool) (s : Setting) (file : Document) :
    s.said (file.filterMap (stripped gone)) = if gone s then [] else s.said file := by
  rw [List.filterMap_eq_flatMap_toList, Setting.said, List.flatMap_assoc]
  calc file.flatMap (fun e => s.said (stripped gone e).toList)
      = file.flatMap (fun e => if gone s then [] else s.saidBy e) := by simp only [said_stripped]
    _ = if gone s then [] else s.said file := by
      split
      · exact List.flatMap_eq_nil_iff.2 fun _ _ => rfl
      · rfl

theorem tabular_filterMap_stripped (tabular : Tabular file) (gone : Setting → Bool) :
    Tabular (file.filterMap (stripped gone)) := by
  intro e he hfold
  obtain ⟨e', he', hleft⟩ := List.mem_filterMap.1 he
  rw [stripped] at hleft
  split at hleft
  · exact ⟨_, (congrArg Prod.snd (Option.some.inj hleft)).symm⟩
  · split at hleft
    · exact absurd hleft nofun
    · rw [← Option.some.inj hleft] at hfold ⊢
      exact tabular e' he' hfold
  · rw [← Option.some.inj hleft] at hfold ⊢
    exact tabular e' he' hfold

/-- A document says of each setting that a variable overrides the text of the variable and nothing else, and
of every other setting what another document says of it. -/
structure Rewrites (vars : Variables) (file file' : Document) : Prop where
  tabular : Tabular file'
  overridden : ∀ s text, Overrides vars s text →
    s.said file' ≠ [] ∧ ∀ p ∈ s.said file', p = ([], .text text)
  kept : ∀ s, (∀ text, ¬ Overrides vars s text) → s.said file' = s.said file

theorem overriding_nil : Overriding [] := ⟨nofun, List.nodup_nil⟩

/-- A text said last hides all that is below it, so it is the value in both documents. -/
theorem Rewrites.valueOf_eq (h : Rewrites vars file file') (hvars : Overriding vars) :
    valueOf file vars = valueOf file' [] := by
  funext s
  rw [valueOf_of_not overriding_nil fun text ⟨_, hmem, _⟩ => absurd hmem List.not_mem_nil]
  by_cases hs : ∃ text, Overrides vars s text
  · obtain ⟨text, htext⟩ := hs
    obtain ⟨hne, hall⟩ := h.overridden s text htext
    rw [valueOf_of_overrides hvars htext, Setting.heap_of_all_text hne hall]
  · rw [valueOf_of_not hvars (not_exists.1 hs), h.kept s (not_exists.1 hs)]

theorem Rewrites.misfits_eq (h : Rewrites vars file file') (tabular : Tabular file) (hvars : Overriding vars) :
    misfits (tree file vars) = misfits (tree file' []) := by
  rw [misfits_tree tabular hvars, misfits_tree h.tabular overriding_nil, h.valueOf_eq hvars]

theorem Rewrites.ofDocument_eq (h : Rewrites vars file file') (tabular : Tabular file)
    (hvars : Overriding vars) : ofDocument file vars = ofDocument file' [] := by
  rw [ofDocument, ofDocument, misreadings, misreadings, h.misfits_eq tabular hvars, ofTree?_tree tabular hvars,
    ofTree?_tree h.tabular overriding_nil, h.valueOf_eq hvars]

/-- A document into which variables are written, behind what is left of it. -/
def written (vars : Variables) (file : Document) : Document :=
  file.filterMap (stripped (isOverridden vars)) ++ entries vars

theorem said_written (vars : Variables) (file : Document) (s : Setting) :
    s.said (written vars file) =
      (if isOverridden vars s then [] else s.said file) ++ s.said (entries vars) := by
  rw [← said_filterMap_stripped, Setting.said, written, List.flatMap_append]
  rfl

theorem rewrites_written (hvars : Overriding vars) (tabular : Tabular file) :
    Rewrites vars file (written vars file) where
  tabular := by
    intro e he
    rcases List.mem_append.1 he with he | he
    · exact tabular_filterMap_stripped tabular _ e he
    · exact tabular_entries hvars.known e he
  overridden := by
    intro s text htext
    have hgoes : isOverridden vars s = true := isOverridden_iff.2 ⟨text, htext⟩
    rw [said_written, if_pos hgoes, said_entries hvars htext, List.nil_append]
    exact ⟨List.cons_ne_nil _ _, fun p hp => List.mem_singleton.1 hp⟩
  kept := by
    intro s hs
    have hstays : ¬ isOverridden vars s = true := fun h => not_exists.2 hs (isOverridden_iff.1 h)
    rw [said_written, if_neg hstays, said_entries_of_not hvars.known hs, List.append_nil]

theorem overriding_singleton {name : String} (hname : Tree.fold name = s.variableName) (text : String) :
    Overriding [(name, text)] :=
  ⟨fun v hv => ⟨s, by rw [List.mem_singleton.1 hv, hname]⟩, List.nodup_singleton _⟩

theorem rewrites_singleton {name text : String} (hname : Tree.fold name = s.variableName)
    (tabular : Tabular file') (hsaid : s.said file' = [([], .text text)])
    (hkept : ∀ s', s ≠ s' → s'.said file' = s'.said file) : Rewrites [(name, text)] file file' := by
  refine ⟨tabular, ?_, ?_⟩
  · rintro s' text' ⟨name', hmem, hname'⟩
    obtain ⟨rfl, rfl⟩ := Prod.mk.inj (List.mem_singleton.1 hmem)
    obtain rfl := Setting.variableName_inj.1 (hname.symm.trans hname')
    rw [hsaid]
    exact ⟨List.cons_ne_nil _ _, fun p hp => List.mem_singleton.1 hp⟩
  · intro s' hs'
    apply hkept
    rintro rfl
    exact hs' text ⟨name, List.mem_singleton.2 rfl, hname⟩

theorem sameSections_of_alike (hfile : Tree.Alike file file')
    (hvars : Tree.Alike (entries vars) (entries vars')) : (tree file vars).SameSections (tree file' vars') := by
  have halike : Tree.Alike (file ++ entries vars) (file' ++ entries vars') := by
    rw [Tree.Alike]
    rw [List.filter_append, List.filter_append, hfile, hvars]
  intro name hname
  have hbase : (Tree.table []).SameSections (.table []) := fun _ _ => rfl
  have hleft := Tree.sameSections_layer (file ++ entries vars) hbase name hname
  have hright := Tree.sameSections_layer (file' ++ entries vars') hbase name hname
  rw [tree_eq_layer, tree_eq_layer, hleft, hright, halike]

/-- What is wrong is wrong with a table of settings or with something in it. -/
theorem exists_of_mem_misfits {t : Tree} {m : List String × String} (h : m ∈ misfits t) :
    ∃ name ∈ sectionNames, ∃ rest, m.1 = name :: rest := by
  simp only [misfits, List.mem_filterMap, List.mem_cons, List.not_mem_nil, or_false, id_eq,
    exists_eq_right] at h
  rcases h with h | h | h | h | h | h <;>
    obtain ⟨rest, hrest⟩ := Tree.key_of_misfit? h.symm <;> exact ⟨_, by decide, rest, hrest⟩

theorem any_concerns {name : String} (hname : name ∈ sectionNames) (rest : List String) (file : Document) :
    ((file.filter Tree.concerns).any fun e => (Tree.path e.1).map Tree.fold == name :: rest) =
      file.any fun e => (Tree.path e.1).map Tree.fold == name :: rest := by
  rw [List.any_filter]
  congr 1
  funext e
  rw [Bool.and_eq_right_iff_imp, beq_iff_eq]
  exact Tree.concerns_of_path hname

/-- Only a variable that concerns the settings can be where a value of one comes from. -/
theorem origin?_of_alike {source source' : Source} (hsource : source.origin? = source'.origin?)
    (hvars : Tree.Alike (entries vars) (entries vars')) {name : String} (hname : name ∈ sectionNames)
    (rest : List String) : origin? source vars (name :: rest) = origin? source' vars' (name :: rest) := by
  rw [origin?, origin?, ← entries, ← entries, ← any_concerns hname, hvars, any_concerns hname, hsource]

theorem ofSource_of_alike {text text' : String} (parsed : Toml.parse? text = some file)
    (parsed' : Toml.parse? text' = some file') (hfile : Tree.Alike file file')
    (hvars : Tree.Alike (entries vars) (entries vars')) :
    ofSource (.toml text) vars = ofSource (.toml text') vars' := by
  have hsame := sameSections_of_alike hfile hvars
  have hcauses : misreadings (tree file vars) (origin? (.toml text) vars) =
      misreadings (tree file' vars') (origin? (.toml text') vars') := by
    rw [misreadings, misreadings, ← hsame.misfits]
    apply List.map_congr_left
    intro m hm
    obtain ⟨name, hname, rest, hkey⟩ := exists_of_mem_misfits hm
    have horigin : origin? (.toml text) vars (name :: rest) = origin? (.toml text') vars' (name :: rest) :=
      origin?_of_alike rfl hvars hname rest
    rw [hkey, horigin]
  rw [ofSource, ofSource, Source.members?, Source.members?, parsed, parsed']
  dsimp only
  rw [hsame.ofTree?, hcauses]

end Settings

/-- No line begins with a byte order mark. -/
theorem Toml.Draft.lines_mark (fuel : Nat) (d : Draft) (r : List Char) :
    lines fuel d ('\uFEFF' :: r) = none := by
  have hskip : skipSpaces ('\uFEFF' :: r) = '\uFEFF' :: r := rfl
  have hkey : key? ('\uFEFF' :: r) = none := rfl
  cases fuel with
  | zero => rfl
  | succ fuel =>
    rw [lines, hskip]
    simp [hkey]

theorem Toml.parse?_of_mark {text : String} {r : List Char} (h : text.toList = '\uFEFF' :: r) :
    parse? text = (Draft.lines (r.length + 1) {} r).map fun d => Outline.toMembers d.tables := by
  rw [parse?, h]
  rfl

namespace Settings

/-- A text that parses has at most one byte order mark, which makes no difference. -/
theorem parse?_unmarked {text : String} {file : Document} (h : Toml.parse? text = some file) :
    Toml.parse? (Source.unmarked text) = some file := by
  rw [Source.unmarked]
  split
  · next r hr =>
    rw [Toml.parse?_of_mark hr] at h
    rw [Toml.parse?, String.toList_ofList]
    split
    -- a second mark is left in front of the first line
    · rw [Toml.Draft.lines_mark, Option.map_none] at h
      cases h
    · exact h
  · exact h

/-- A file of a text differs from the text in nothing but where its values come from. -/
theorem unsourced_ofFile {text : String} {file : Document} (parsed : Toml.parse? text = some file)
    (vars : Variables) :
    unsourced (ofSource (.ofFile "toml" text) vars) = unsourced (ofSource (.toml text) vars) := by
  have hfile : (Source.ofFile "toml" text).members? = some file := parse?_unmarked parsed
  have htext : (Source.toml text).members? = some file := parsed
  rw [unsourced_ofSource hfile, unsourced_ofSource htext]

/-- A document with a mode and a timeout. -/
def sample (mode : String) (timeout : Tree) : Document :=
  [(Setting.mode.sectionName, .table [(Setting.mode.itemName, .text mode)]),
    (Setting.queryTimeoutMs.sectionName, .table [(Setting.queryTimeoutMs.itemName, timeout)])]

theorem said_sample (s : Setting) (mode : String) (timeout : Tree) : s.said (sample mode timeout) =
    (if .mode = s then [([], .text mode)] else []) ++
      if .queryTimeoutMs = s then [([], timeout)] else [] := by
  simp only [sample, Setting.said, List.flatMap_cons, List.flatMap_nil, List.append_nil, Setting.saidBy_table]

theorem tabular_sample (mode : String) (timeout : Tree) : Tabular (sample mode timeout) := by
  intro e he _
  rcases List.mem_cons.1 he with rfl | he
  · exact ⟨_, rfl⟩
  · rw [List.mem_singleton.1 he]
    exact ⟨_, rfl⟩

theorem parse?_sample :
    Toml.parse? "[account]\nmode = \"basic\"\n\n[status_query]\ntimeout_ms = 2500\n" =
      some (sample "basic" (.int 2500)) := by
  cbv

end Settings

end Roster
