import Mathlib
import Roster.Proofs.Words
import Roster.Settings.Variables

/-! What can be objected to variables. If nothing can, they are accepted, and each setting is what its variable
spells or the default. If anything can, the first objection is reported, in a fixed order: texts that spell
nothing come before values that are of no use. -/

namespace Roster

namespace AccountMode

/-- The names of a mode, in small letters. -/
def names : AccountMode → List String
  | extended => ["extended", "icq"]
  | basic => ["basic", "aim"]

/-- A text is a name of the mode, each letter small or capital. None of these letters has a capital outside
ASCII. -/
def Spells (text : String) (m : AccountMode) : Prop :=
  ∃ name ∈ m.names, List.Forall₂ (fun c d => c = d ∨ c = d.toUpper) text.toList name.toList

theorem toLower_eq_iff {c d : Char} (small : d.toLower = d) : c.toLower = d ↔ c = d ∨ c = d.toUpper := by
  constructor
  · rintro rfl
    by_cases hc : c.isUpper = true
    · right
      rw [Char.toUpper_toLower_eq_toUpper, Char.toUpper_eq_of_not_isLower (Char.not_isLower_of_isUpper hc)]
    · left
      exact (Char.toLower_eq_of_not_isUpper hc).symm
  · rintro (rfl | rfl)
    · exact small
    · rw [Char.toLower_toUpper_eq_toLower, small]

theorem map_toLower_eq_iff {cs name : List Char} (small : ∀ d ∈ name, d.toLower = d) :
    cs.map Char.toLower = name ↔ List.Forall₂ (fun c d => c = d ∨ c = d.toUpper) cs name := by
  induction name generalizing cs with
  | nil => rw [List.map_eq_nil_iff, List.forall₂_nil_right_iff]
  | cons d name ih =>
    rcases List.forall_mem_cons.1 small with ⟨hd, hname⟩
    cases cs with
    | nil => simp
    | cons c cs => rw [List.map_cons, List.cons.injEq, List.forall₂_cons, toLower_eq_iff hd, ih hname]

theorem small_of_mem_names {m : AccountMode} {name : String} (h : name ∈ m.names) :
    ∀ d ∈ name.toList, d.toLower = d := by
  have hall : ∀ m : AccountMode, (m.names.all fun name => name.toList.all fun d => d.toLower == d) = true := by
    intro m
    cases m <;> decide
  intro d hd
  exact beq_iff_eq.1 (List.all_eq_true.1 (List.all_eq_true.1 (hall m) name h) d hd)

theorem parse?_eq_some_iff_mem {text : String} {m : AccountMode} :
    parse? text = some m ↔ text.map Char.toLower ∈ m.names := by
  rw [parse?]
  generalize text.map Char.toLower = word
  simp only [List.lookup_cons, List.lookup_nil]
  cases m <;> simp only [names, List.mem_cons, List.not_mem_nil, or_false] <;> grind

theorem parse?_eq_some_iff {text : String} {m : AccountMode} : parse? text = some m ↔ Spells text m := by
  rw [parse?_eq_some_iff_mem, Spells]
  have hname : ∀ name ∈ m.names, text.map Char.toLower = name ↔
      List.Forall₂ (fun c d => c = d ∨ c = d.toUpper) text.toList name.toList := by
    intro name hmem
    rw [← String.toList_inj, String.toList_map, map_toLower_eq_iff (small_of_mem_names hmem)]
  constructor
  · intro h
    exact ⟨_, h, (hname _ h).1 rfl⟩
  · rintro ⟨name, hmem, hletters⟩
    rw [(hname name hmem).2 hletters]
    exact hmem

end AccountMode

namespace Settings

variable {α β : Type} {vars : Variables} {s : Settings} {fault : SettingsFault}

/-- A number of 64 bits, blanks around it not counting. -/
def SpellsNumber (text : String) (n : Nat) : Prop :=
  ∃ core, Text.Padded core text.toList ∧ Decimal.SpellsWord core n

theorem spellsNumber_iff {text : String} {n : Nat} :
    Decimal.word? (Text.trim text.toList) = some n ↔ SpellsNumber text n := Decimal.word?_trim_eq_some_iff

theorem SpellsNumber.unique {text : String} {m n : Nat} (hm : SpellsNumber text m) (hn : SpellsNumber text n) :
    m = n :=
  Option.some.inj ((spellsNumber_iff.2 hm).symm.trans (spellsNumber_iff.2 hn))

/-- The variable is absent and the value is the default, or its text spells the value. -/
def Tells (vars : Variables) (name : String) (spells : String → α → Prop) (fallback a : α) : Prop :=
  match vars.lookup name with
  | none => a = fallback
  | some text => spells text a

/-- The settings that variables tell, item by item. -/
structure Told (vars : Variables) (s : Settings) : Prop where
  mode : Tells vars "PRESENCE_ACCOUNT_MODE" AccountMode.Spells ({} : Settings).mode s.mode
  queryTimeoutMs :
    Tells vars "PRESENCE_QUERY_TIMEOUT_MS" SpellsNumber ({} : Settings).queryTimeoutMs s.queryTimeoutMs
  awaitingGroup :
    Tells vars "PRESENCE_AWAITING_GROUP_NAME" Eq ({} : Settings).awaitingGroup s.awaitingGroup
  pollIntervalSecs :
    Tells vars "PRESENCE_POLL_INTERVAL_SECS" SpellsNumber ({} : Settings).pollIntervalSecs s.pollIntervalSecs
  pollInitialDelaySecs : Tells vars "PRESENCE_POLL_INITIAL_DELAY_SECS" SpellsNumber
    ({} : Settings).pollInitialDelaySecs s.pollInitialDelaySecs
  reRequestReason :
    Tells vars "PRESENCE_RE_REQUEST_REASON" Eq ({} : Settings).reRequestReason s.reRequestReason

/-- An account can run with the variables. -/
structure Runnable (vars : Variables) : Prop where
  mode : ∀ text, vars.lookup "PRESENCE_ACCOUNT_MODE" = some text → ∃ m, AccountMode.Spells text m
  queryTimeout : ∀ text, vars.lookup "PRESENCE_QUERY_TIMEOUT_MS" = some text → ∃ n, SpellsNumber text n
  pollInterval : ∀ text, vars.lookup "PRESENCE_POLL_INTERVAL_SECS" = some text →
    ∃ n, SpellsNumber text n ∧ n ≠ 0
  pollInitialDelay : ∀ text, vars.lookup "PRESENCE_POLL_INITIAL_DELAY_SECS" = some text →
    ∃ n, SpellsNumber text n
  awaitingGroup : ∀ text, vars.lookup "PRESENCE_AWAITING_GROUP_NAME" = some text →
    ∃ c ∈ text.toList, Text.isBlank c = false

/-- What can be objected to variables. -/
inductive Objection
  | mode
  | queryTimeout
  | pollInterval
  | pollInitialDelay
  | zeroInterval
  | blankGroup
  deriving DecidableEq, Repr

namespace Objection

/-- The objections in the order in which they are raised. -/
def all : List Objection :=
  [mode, queryTimeout, pollInterval, pollInitialDelay, zeroInterval, blankGroup]

theorem mem_all (o : Objection) : o ∈ all := by cases o <;> decide

def variableName : Objection → String
  | mode => "PRESENCE_ACCOUNT_MODE"
  | queryTimeout => "PRESENCE_QUERY_TIMEOUT_MS"
  | pollInterval | zeroInterval => "PRESENCE_POLL_INTERVAL_SECS"
  | pollInitialDelay => "PRESENCE_POLL_INITIAL_DELAY_SECS"
  | blankGroup => "PRESENCE_AWAITING_GROUP_NAME"

/-- The text is objectionable. -/
def Condemns (text : String) : Objection → Prop
  | mode => ∀ m, ¬ AccountMode.Spells text m
  | queryTimeout | pollInterval | pollInitialDelay => ∀ n, ¬ SpellsNumber text n
  | zeroInterval => SpellsNumber text 0
  | blankGroup => ∀ c ∈ text.toList, Text.isBlank c = true

/-- The complaint: a text that spells nothing is quoted as it was given. -/
def report (text : String) : Objection → SettingsFault
  | zeroInterval => .invalid "authorization.poll_interval_secs" "must be greater than zero"
  | blankGroup => .invalid "authorization.awaiting_group_name" "must not be empty"
  | o => .invalid o.variableName text

/-- The objection holds for the text that its variable has. -/
def Against (vars : Variables) (text : String) (o : Objection) : Prop :=
  vars.lookup o.variableName = some text ∧ o.Condemns text

end Objection

/-- The fault reports the first of these objections that holds. -/
def FirstRaised (vars : Variables) (os : List Objection) (fault : SettingsFault) : Prop :=
  ∃ earlier o later text, os = earlier ++ o :: later ∧ (∀ o' ∈ earlier, ∀ t, ¬ o'.Against vars t) ∧
    o.Against vars text ∧ fault = o.report text

theorem runnable_iff : Runnable vars ↔ ∀ o text, ¬ Objection.Against vars text o := by
  constructor
  · rintro h o text ⟨hlookup, hcondemns⟩
    cases o with
    | mode =>
      obtain ⟨m, hm⟩ := h.mode text hlookup
      exact hcondemns m hm
    | queryTimeout =>
      obtain ⟨n, hn⟩ := h.queryTimeout text hlookup
      exact hcondemns n hn
    | pollInterval =>
      obtain ⟨n, hn, -⟩ := h.pollInterval text hlookup
      exact hcondemns n hn
    | pollInitialDelay =>
      obtain ⟨n, hn⟩ := h.pollInitialDelay text hlookup
      exact hcondemns n hn
    | zeroInterval =>
      obtain ⟨n, hn, hpos⟩ := h.pollInterval text hlookup
      exact hpos (hn.unique hcondemns)
    | blankGroup =>
      obtain ⟨c, hc, hseen⟩ := h.awaitingGroup text hlookup
      exact Bool.eq_false_iff.1 hseen (hcondemns c hc)
  · intro h
    have hclear : ∀ o : Objection, ∀ text, vars.lookup o.variableName = some text → ¬ o.Condemns text :=
      fun o text hlookup hcondemns => h o text ⟨hlookup, hcondemns⟩
    constructor
    case mode => exact fun text hlookup => not_forall_not.1 (hclear .mode text hlookup)
    case queryTimeout => exact fun text hlookup => not_forall_not.1 (hclear .queryTimeout text hlookup)
    case pollInterval =>
      intro text hlookup
      obtain ⟨n, hn⟩ := not_forall_not.1 (hclear .pollInterval text hlookup)
      refine ⟨n, hn, ?_⟩
      rintro rfl
      exact hclear .zeroInterval text hlookup hn
    case pollInitialDelay => exact fun text hlookup => not_forall_not.1 (hclear .pollInitialDelay text hlookup)
    case awaitingGroup =>
      intro text hlookup
      have hseen := hclear .blankGroup text hlookup
      simp only [Objection.Condemns, not_forall] at hseen
      obtain ⟨c, hc, hblank⟩ := hseen
      exact ⟨c, hc, Bool.eq_false_iff.2 hblank⟩

theorem firstRaised_nil : ¬ FirstRaised vars [] fault := by
  rintro ⟨earlier, o, later, text, hall, -⟩
  exact absurd hall (by simp)

theorem firstRaised_cons {o : Objection} {os : List Objection} : FirstRaised vars (o :: os) fault ↔
    (∃ text, o.Against vars text ∧ fault = o.report text) ∨
      (∀ text, ¬ o.Against vars text) ∧ FirstRaised vars os fault := by
  constructor
  · rintro ⟨earlier, o', later, text, hall, hearlier, hagainst, rfl⟩
    cases earlier with
    | nil =>
      obtain ⟨rfl, rfl⟩ := List.cons.inj hall
      exact .inl ⟨text, hagainst, rfl⟩
    | cons first earlier =>
      obtain ⟨rfl, rfl⟩ := List.cons.inj hall
      rcases List.forall_mem_cons.1 hearlier with ⟨hfirst, hrest⟩
      exact .inr ⟨hfirst, earlier, o', later, text, rfl, hrest, hagainst, rfl⟩
  · rintro (⟨text, hagainst, rfl⟩ | ⟨hfirst, earlier, o', later, text, rfl, hrest, hagainst, rfl⟩)
    · exact ⟨[], o, os, text, rfl, nofun, hagainst, rfl⟩
    · exact ⟨o :: earlier, o', later, text, rfl, List.forall_mem_cons.2 ⟨hfirst, hrest⟩, hagainst, rfl⟩

theorem not_firstRaised_iff {os : List Objection} :
    (∀ fault, ¬ FirstRaised vars os fault) ↔ ∀ o ∈ os, ∀ text, ¬ o.Against vars text := by
  induction os with
  | nil => exact iff_of_true (fun _ => firstRaised_nil) nofun
  | cons o os ih =>
    rw [List.forall_mem_cons, ← ih]
    simp only [firstRaised_cons, not_or]
    constructor
    · intro h
      have hfirst : ∀ text, ¬ o.Against vars text := fun text hagainst => (h _).1 ⟨text, hagainst, rfl⟩
      exact ⟨hfirst, fun fault hraised => (h fault).2 ⟨hfirst, hraised⟩⟩
    · rintro ⟨hfirst, hrest⟩ fault
      exact ⟨fun ⟨text, hagainst, _⟩ => hfirst text hagainst, fun h => hrest fault h.2⟩

theorem firstRaised_singleton {o : Objection} :
    FirstRaised vars [o] fault ↔ ∃ text, o.Against vars text ∧ fault = o.report text := by
  rw [firstRaised_cons, or_iff_left fun h => firstRaised_nil h.2]

/-- A check fails with the first of these objections, and with nothing else. -/
def Checks (vars : Variables) (os : List Objection) (x : Except SettingsFault α) : Prop :=
  ∀ fault, x = .error fault ↔ FirstRaised vars os fault

theorem Checks.ok_iff {os : List Objection} {x : Except SettingsFault α} (h : Checks vars os x) :
    (∃ a, x = .ok a) ↔ ∀ o ∈ os, ∀ text, ¬ o.Against vars text := by
  rw [← not_firstRaised_iff]
  simp only [← h _]
  cases x <;> simp

theorem Checks.bind {o : Objection} {os : List Objection} {x : Except SettingsFault α}
    {k : α → Except SettingsFault β} (hx : Checks vars [o] x)
    (hk : ∀ a, x = .ok a → Checks vars os (k a)) : Checks vars (o :: os) (x >>= k) := by
  intro fault
  have hraised : ∀ fault, x = .error fault ↔ ∃ text, o.Against vars text ∧ fault = o.report text :=
    fun fault => (hx fault).trans firstRaised_singleton
  rw [firstRaised_cons, ← hraised]
  cases hcase : x with
  | error fault' =>
    -- the objection holds, so no later one counts
    obtain ⟨text, hagainst, -⟩ := (hraised fault').1 hcase
    have hbind : Except.error fault' >>= k = .error fault' := rfl
    rw [or_iff_left fun h => h.1 text hagainst, hbind, Except.error.injEq, Except.error.injEq]
  | ok a =>
    have hnone : ∀ text, ¬ o.Against vars text := by
      intro text hagainst
      have herror := (hraised _).2 ⟨text, hagainst, rfl⟩
      rw [hcase] at herror
      cases herror
    have hok : ¬ (Except.ok a : Except SettingsFault α) = .error fault := nofun
    rw [or_iff_right hok, and_iff_right hnone]
    exact hk a hcase fault

/-- Reads a variable, or takes the default. -/
def readVariable (read : String → Option α) (vars : Variables) (name : String) (fallback : α) :
    Except SettingsFault α :=
  match vars.lookup name with
  | none => .ok fallback
  | some text =>
    match read text with
    | some a => .ok a
    | none => .error (.invalid name text)

theorem modeVariable_eq (vars : Variables) (name : String) (fallback : AccountMode) :
    modeVariable vars name fallback = readVariable AccountMode.parse? vars name fallback := by
  rw [modeVariable, readVariable]
  cases vars.lookup name with
  | none => rfl
  | some text => dsimp only; cases AccountMode.parse? text <;> rfl

theorem wordVariable_eq (vars : Variables) (name : String) (fallback : Nat) :
    wordVariable vars name fallback =
      readVariable (fun text => Decimal.word? (Text.trim text.toList)) vars name fallback := by
  rw [wordVariable, readVariable]
  cases vars.lookup name with
  | none => rfl
  | some text => dsimp only; cases Decimal.word? (Text.trim text.toList) <;> rfl

section

variable {read : String → Option α} {spells : String → α → Prop} {fallback a : α}

theorem readVariable_ok_iff {name : String} (hread : ∀ text a, read text = some a ↔ spells text a) :
    readVariable read vars name fallback = .ok a ↔ Tells vars name spells fallback a := by
  rw [readVariable, Tells]
  cases vars.lookup name with
  | none =>
    simp only [Except.ok.injEq]
    exact eq_comm
  | some text =>
    simp only [← hread]
    cases read text <;> simp

theorem checks_readVariable {o : Objection} (hread : ∀ text a, read text = some a ↔ spells text a)
    (hcondemns : ∀ text, o.Condemns text ↔ ∀ a, ¬ spells text a)
    (hreport : ∀ text, o.report text = .invalid o.variableName text) :
    Checks vars [o] (readVariable read vars o.variableName fallback) := by
  intro fault
  have hnone : ∀ text, o.Condemns text ↔ read text = none := by
    intro text
    rw [hcondemns, Option.eq_none_iff_forall_ne_some]
    exact forall_congr' fun a => not_congr (hread text a).symm
  rw [firstRaised_singleton, readVariable]
  simp only [Objection.Against, hnone, hreport]
  cases hlookup : vars.lookup o.variableName with
  | none => simp
  | some text =>
    cases hcase : read text with
    | none => simp [hcase, eq_comm]
    | some a => simp [hcase]

end

theorem textVariable_eq_iff {name fallback text : String} :
    textVariable vars name fallback = text ↔ Tells vars name Eq fallback text := by
  rw [Tells, textVariable]
  cases vars.lookup name with
  | none => exact eq_comm
  | some text => exact Iff.rfl

theorem modeVariable_ok_iff {name : String} {fallback m : AccountMode} :
    modeVariable vars name fallback = .ok m ↔ Tells vars name AccountMode.Spells fallback m := by
  rw [modeVariable_eq]
  exact readVariable_ok_iff fun _ _ => AccountMode.parse?_eq_some_iff

theorem wordVariable_ok_iff {name : String} {fallback n : Nat} :
    wordVariable vars name fallback = .ok n ↔ Tells vars name SpellsNumber fallback n := by
  rw [wordVariable_eq]
  exact readVariable_ok_iff fun _ _ => spellsNumber_iff

theorem checks_modeVariable (fallback : AccountMode) :
    Checks vars [.mode] (modeVariable vars "PRESENCE_ACCOUNT_MODE" fallback) := by
  rw [modeVariable_eq]
  exact checks_readVariable (fun _ _ => AccountMode.parse?_eq_some_iff) (fun _ => Iff.rfl) fun _ => rfl

theorem checks_wordVariable {o : Objection} (hcondemns : ∀ text, o.Condemns text ↔ ∀ n, ¬ SpellsNumber text n)
    (hreport : ∀ text, o.report text = .invalid o.variableName text) (fallback : Nat) :
    Checks vars [o] (wordVariable vars o.variableName fallback) := by
  rw [wordVariable_eq]
  exact checks_readVariable (fun _ _ => spellsNumber_iff) hcondemns hreport

/-- What a condition on the value says of the text that tells it. -/
theorem Tells.exists_text_iff {name : String} {spells : String → α → Prop} {fallback a : α}
    {p : String → Prop} {q : α → Prop} (h : Tells vars name spells fallback a) (hdefault : ¬ q fallback)
    (htext : ∀ text, spells text a → (p text ↔ q a)) :
    (∃ text, vars.lookup name = some text ∧ p text) ↔ q a := by
  rw [Tells] at h
  cases hlookup : vars.lookup name with
  | none =>
    rw [hlookup] at h
    obtain rfl : a = fallback := h
    simp [hdefault]
  | some text =>
    rw [hlookup] at h
    simpa using htext text h

theorem Told.zeroInterval_iff (h : Told vars s) :
    (∃ text, Objection.zeroInterval.Against vars text) ↔ s.pollIntervalSecs = 0 := by
  apply h.pollIntervalSecs.exists_text_iff (q := fun n => n = 0) (by decide)
  intro text hn
  constructor
  · exact hn.unique
  · intro hzero
    rw [hzero] at hn
    exact hn

theorem Told.blankGroup_iff (h : Told vars s) :
    (∃ text, Objection.blankGroup.Against vars text) ↔ s.awaitingGroup.toList.all Text.isBlank = true := by
  apply h.awaitingGroup.exists_text_iff (q := fun name => name.toList.all Text.isBlank = true) (by decide)
  rintro text rfl
  exact List.all_eq_true.symm

/-- What the last two objections say of the texts, validation says of the values that these spell. -/
theorem Told.checks_validate (h : Told vars s) : Checks vars [.zeroInterval, .blankGroup] s.validate := by
  intro fault
  rw [validate_error_iff, ne_eq, ← h.zeroInterval_iff, ← h.blankGroup_iff, firstRaised_cons,
    firstRaised_singleton]
  simp only [Objection.report, exists_and_right, not_exists]

theorem told_of_reads {mode : AccountMode} {timeout interval delay : Nat}
    (hmode : modeVariable vars "PRESENCE_ACCOUNT_MODE" ({} : Settings).mode = .ok mode)
    (htimeout :
      wordVariable vars "PRESENCE_QUERY_TIMEOUT_MS" ({} : Settings).queryTimeoutMs = .ok timeout)
    (hinterval :
      wordVariable vars "PRESENCE_POLL_INTERVAL_SECS" ({} : Settings).pollIntervalSecs = .ok interval)
    (hdelay : wordVariable vars "PRESENCE_POLL_INITIAL_DELAY_SECS" ({} : Settings).pollInitialDelaySecs =
      .ok delay) :
    Told vars {
      mode := mode
      queryTimeoutMs := timeout
      awaitingGroup := textVariable vars "PRESENCE_AWAITING_GROUP_NAME" ({} : Settings).awaitingGroup
      pollIntervalSecs := interval
      pollInitialDelaySecs := delay
      reRequestReason := textVariable vars "PRESENCE_RE_REQUEST_REASON" ({} : Settings).reRequestReason } where
  mode := modeVariable_ok_iff.1 hmode
  queryTimeoutMs := wordVariable_ok_iff.1 htimeout
  awaitingGroup := textVariable_eq_iff.1 rfl
  pollIntervalSecs := wordVariable_ok_iff.1 hinterval
  pollInitialDelaySecs := wordVariable_ok_iff.1 hdelay
  reRequestReason := textVariable_eq_iff.1 rfl

theorem ofVariables_of_told (h : Told vars s) : ofVariables vars = s.validate := by
  rw [ofVariables, modeVariable_ok_iff.2 h.mode, wordVariable_ok_iff.2 h.queryTimeoutMs,
    wordVariable_ok_iff.2 h.pollIntervalSecs, wordVariable_ok_iff.2 h.pollInitialDelaySecs,
    textVariable_eq_iff.2 h.awaitingGroup, textVariable_eq_iff.2 h.reRequestReason]
  rfl

theorem exists_ok_of_bind {ε : Type} {x : Except ε α} {k : α → Except ε β} {b : β} (h : x >>= k = .ok b) :
    ∃ a, x = .ok a ∧ k a = .ok b := by
  cases x with
  | error e => cases h
  | ok a => exact ⟨a, rfl, h⟩

theorem told_of_ok (h : ofVariables vars = .ok s) : Told vars s := by
  rw [ofVariables] at h
  obtain ⟨mode, hmode, h⟩ := exists_ok_of_bind h
  obtain ⟨timeout, htimeout, h⟩ := exists_ok_of_bind h
  obtain ⟨interval, hinterval, h⟩ := exists_ok_of_bind h
  obtain ⟨delay, hdelay, h⟩ := exists_ok_of_bind h
  obtain rfl := validate_ok h
  exact told_of_reads hmode htimeout hinterval hdelay

theorem checks_ofVariables (vars : Variables) : Checks vars Objection.all (ofVariables vars) := by
  rw [ofVariables, Objection.all]
  apply (checks_modeVariable _).bind
  intro mode hmode
  apply (checks_wordVariable (o := .queryTimeout) (fun _ => Iff.rfl) (fun _ => rfl) _).bind
  intro timeout htimeout
  apply (checks_wordVariable (o := .pollInterval) (fun _ => Iff.rfl) (fun _ => rfl) _).bind
  intro interval hinterval
  apply (checks_wordVariable (o := .pollInitialDelay) (fun _ => Iff.rfl) (fun _ => rfl) _).bind
  intro delay hdelay
  exact (told_of_reads hmode htimeout hinterval hdelay).checks_validate

theorem accepted_iff : (∃ s, ofVariables vars = .ok s) ↔ Runnable vars := by
  rw [(checks_ofVariables vars).ok_iff, runnable_iff]
  exact ⟨fun h o => h o o.mem_all, fun h o _ => h o⟩

/-- Variables are accepted if and only if an account can run with them, and the settings are then those that
they tell. Otherwise the fault reports the first objection. -/
theorem variables_accepted_iff_runnable (vars : Variables) :
    ((∃ s, ofVariables vars = .ok s) ↔ Runnable vars) ∧
    (∀ s, ofVariables vars = .ok s ↔ Runnable vars ∧ Told vars s) ∧
    ∀ fault, ofVariables vars = .error fault ↔ FirstRaised vars Objection.all fault := by
  refine ⟨accepted_iff, ?_, checks_ofVariables vars⟩
  intro s
  constructor
  · intro h
    exact ⟨accepted_iff.1 ⟨s, h⟩, told_of_ok h⟩
  · rintro ⟨hrunnable, htold⟩
    obtain ⟨s', hs'⟩ := accepted_iff.2 hrunnable
    have hvalid : s.validate = .ok s' := (ofVariables_of_told htold).symm.trans hs'
    rw [hs', validate_ok hvalid]

example : ofVariables [("PRESENCE_POLL_INTERVAL_SECS", "0"), ("PRESENCE_POLL_INITIAL_DELAY_SECS", " 1 s ")] =
    .error (.invalid "PRESENCE_POLL_INITIAL_DELAY_SECS" " 1 s ") := by
  rfl

example : ofVariables [("PRESENCE_QUERY_TIMEOUT_MS", "\u00a0+018446744073709551615\n")] =
    .ok { queryTimeoutMs := 2 ^ 64 - 1 } := by
  rfl

end Settings

end Roster
