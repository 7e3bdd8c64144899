import Roster.Proofs.Heard
import Mathlib.Data.List.Chain

/-! The changes of a contact's presence that a listener is told of form a chain. Only a course tells of
any, and leads from the status that the contact had to the one it has; what edits the list tells of
none, and keeps the status of an entry that stays. -/

namespace Roster

/-- What a notice says about the presence of a contact. -/
def Notice.change? (x : String) : Notice → Option ContactPresenceChange
  | .contactPresence c => if c.contact.identifier = x then some c else none
  | _ => none

/-- Changes that lead from one status to another, each to another status and from where the one
before has led. Nothing is said about a contact that is not known. -/
inductive Leads : Option Status → List ContactPresenceChange → Option Status → Prop
  | nil (a : Option Status) : Leads a [] a
  | cons {c : ContactPresenceChange} {cs : List ContactPresenceChange} {b : Option Status}
      (change : c.oldStatus ≠ c.newStatus) (snapshot : c.contact.status = c.newStatus)
      (rest : Leads (some c.newStatus) cs b) : Leads (some c.oldStatus) (c :: cs) b

namespace Leads

variable {a b : Option Status} {c d : ContactPresenceChange} {cs ds : List ContactPresenceChange}

theorem append {b' : Option Status} (h : Leads a cs b) (h' : Leads b ds b') :
    Leads a (cs ++ ds) b' := by
  induction h with
  | nil => exact h'
  | cons change snapshot _ ih => exact .cons change snapshot (ih h')

theorem mem (h : Leads a cs b) (hc : c ∈ cs) :
    c.oldStatus ≠ c.newStatus ∧ c.contact.status = c.newStatus := by
  induction h with
  | nil => cases hc
  | cons change snapshot _ ih =>
    rcases List.mem_cons.1 hc with rfl | hc
    · exact ⟨change, snapshot⟩
    · exact ih hc

theorem head (h : Leads a (c :: cs) b) : a = some c.oldStatus := by
  cases h
  rfl

theorem split (h : Leads a (cs ++ ds) b) : ∃ m, Leads a cs m ∧ Leads m ds b := by
  induction cs generalizing a with
  | nil => exact ⟨a, .nil a, h⟩
  | cons c cs ih =>
    cases h with
    | cons change snapshot rest =>
      obtain ⟨m, hcs, hds⟩ := ih rest
      exact ⟨m, .cons change snapshot hcs, hds⟩

theorem adjacent {pre post : List ContactPresenceChange} (h : Leads a (pre ++ c :: d :: post) b) :
    d.oldStatus = c.newStatus := by
  obtain ⟨m, -, hrest⟩ := h.split
  cases hrest with
  | cons _ _ rest => exact (Option.some.inj rest.head).symm

theorem known (h : Leads a cs b) (ha : a.isSome) : b.isSome := by
  induction h with
  | nil => exact ha
  | cons _ _ _ ih => exact ih rfl

/-- The last change leads to the status at the end. -/
theorem last (h : Leads a cs b) : b = (cs.getLast?.map ContactPresenceChange.newStatus).or a := by
  induction h with
  | nil => rfl
  | @cons c cs b change snapshot rest ih =>
    rw [ih]
    cases cs with
    | nil => rfl
    | cons d ds =>
      have hlast : ((d :: ds).getLast?).isSome := by simp
      obtain ⟨e, he⟩ := Option.isSome_iff_exists.1 hlast
      rw [List.getLast?_cons_cons, he]
      rfl

end Leads

namespace Session

/-- The changes of the presence of a contact that a listener was told of, in order. -/
def changes (s : Session) (l : Listener) (x : String) : List ContactPresenceChange :=
  (s.heard l).filterMap (Notice.change? x)

/-- The status of the contact that is found under an identifier. -/
def statusOf (s : Session) (x : String) : Option Status := (s.list.contact? x).map Contact.status

/-- No entry of a contact is removed. -/
def KeepsEntries (x : String) (s s' : Session) : Prop :=
  (s.list.entries x).length ≤ (s'.list.entries x).length

/-- The entry that is found is not removed: no entry is, or only others are. -/
def KeepsFound (x : String) (s s' : Session) : Prop :=
  KeepsEntries x s s' ∨ (s'.list.entries x).head? = (s.list.entries x).head?

/-- Somebody is registered for the presence of contacts, and everybody is so once. -/
structure Attends (s : Session) (l : Listener) : Prop where
  lawful : s.hub.Lawful
  registered : l ∈ s.hub.contact.listeners

/-- What a listener is told of a contact leads from the one status of it to the other. -/
structure Conducts (l : Listener) (x : String) (s s' : Session) : Prop where
  entries : (s'.list.entries x).length = (s.list.entries x).length
  leads : ∃ cs, s'.changes l x = s.changes l x ++ cs ∧ Leads (s.statusOf x) cs (s'.statusOf x)

variable {l : Listener} {x : String} {s s' t : Session}

theorem statusOf_eq (s : Session) (x : String) :
    s.statusOf x = ((s.list.entries x).map (·.contact.status)).head? := by
  rw [statusOf, ContactList.contact?_eq_entries, List.head?_map, Option.map_map]
  rfl

theorem Conducts.refl (s : Session) : Conducts l x s s :=
  ⟨rfl, [], (List.append_nil _).symm, .nil _⟩

theorem Conducts.trans (h : Conducts l x s t) (h' : Conducts l x t s') : Conducts l x s s' := by
  obtain ⟨cs, hcs, hleads⟩ := h.leads
  obtain ⟨cs', hcs', hleads'⟩ := h'.leads
  exact ⟨h'.entries.trans h.entries, cs ++ cs', by rw [hcs', hcs, List.append_assoc],
    hleads.append hleads'⟩

theorem changes_append {new : List Occurrence} (h : s'.trace = s.trace ++ new) :
    s'.changes l x = s.changes l x ++ (notices l new).filterMap (Notice.change? x) := by
  rw [changes, heard_append h, List.filterMap_append]
  rfl

/-- Nothing is heard of a contact where nothing is told of anybody's presence. -/
theorem changes_of_silent {new : List Occurrence} (h : s'.trace = s.trace ++ new)
    (hnew : ∀ o ∈ new, ∀ l c, o ≠ .delivered l (.contactPresence c)) :
    s'.changes l x = s.changes l x := by
  have hnone : (notices l new).filterMap (Notice.change? x) = [] := by
    rw [List.filterMap_eq_nil_iff]
    intro n hn
    obtain ⟨o, ho, hon⟩ := List.mem_filterMap.1 hn
    cases o with
    | delivered l' n' =>
      simp only [Occurrence.notice?] at hon
      split at hon
      · cases hon
        cases n with
        | contactPresence c => exact absurd rfl (hnew _ ho l' c)
        | _ => rfl
      · cases hon
    | _ => cases hon
  rw [changes_append h, hnone, List.append_nil]

theorem changes_of_plain {new : List Occurrence} (h : s'.trace = s.trace ++ new)
    (hnew : ∀ o ∈ new, o.isPlain = true) : s'.changes l x = s.changes l x := by
  refine changes_of_silent h fun o ho l c hoc => ?_
  have hplain := hnew o ho
  rw [hoc] at hplain
  cases hplain

theorem conducts_of_tags (tags : s'.list.members.map Member.tag = s.list.members.map Member.tag)
    (changes : s'.changes l x = s.changes l x) : Conducts l x s s' := by
  have hstatuses := ContactList.statuses_entries s'.list x
  rw [tags, ← ContactList.statuses_entries] at hstatuses
  have hlength := congrArg List.length hstatuses
  rw [List.length_map, List.length_map] at hlength
  refine ⟨hlength, [], by rw [changes, List.append_nil], ?_⟩
  rw [statusOf_eq, statusOf_eq, hstatuses]
  exact .nil _

theorem Plain.conducts (h : s.Plain s') : Conducts l x s s' := by
  obtain ⟨new, htrace, hnew⟩ := h.trace
  exact conducts_of_tags h.tags (changes_of_plain htrace hnew)

/-- Everybody hears of a new status, and from which status it is a change. -/
theorem applyStatus_conducts (hs : s.Attends l) (y : String) (status : Status)
    (parent : Option Group) : Conducts l x s (s.applyStatus y status parent).1 := by
  have hbare := (applyStatus_still s y status parent).list
  have hlength := congrArg List.length (ContactList.entries_of_bare_eq hbare x)
  rw [List.length_map, List.length_map] at hlength
  cases h : s.list.contact? y with
  | none =>
    rw [applyStatus_of_unknown h]
    exact .refl s
  | some old =>
    refine ⟨hlength, ?_⟩
    have hid := ContactList.identifier_of_contact? h
    have hstatus : (s.applyStatus y status parent).1.statusOf x =
        if x = y then some status else s.statusOf x := by
      rw [statusOf, applyStatus_of_known h, ContactList.contact?_setStatus, h]
      split <;> rfl
    rw [hstatus, applyStatus_of_known h, changes_append rfl]
    by_cases hsame : old.status = status
    · refine ⟨[], by simp [hsame, notices], ?_⟩
      split
      · next hx =>
        rw [statusOf, hx, h, ← hsame]
        exact .nil _
      · exact .nil _
    · have hheard : notices l (s.deliveries (.contactPresence
          ⟨{ old with status := status }, parent, old.status, status⟩)) = [.contactPresence
            ⟨{ old with status := status }, parent, old.status, status⟩] := by
        rw [notices_deliveries hs.lawful, if_pos]
        exact ⟨hs.registered, by cases l with | tally => rfl | named _ c => cases c <;> rfl⟩
      rw [if_neg hsame, hheard]
      by_cases hx : x = y
      · subst hx
        let change : ContactPresenceChange :=
          ⟨{ old with status := status }, parent, old.status, status⟩
        refine ⟨[change], by simp [Notice.change?, hid, change], ?_⟩
        rw [if_pos rfl, statusOf, h]
        exact Leads.cons (c := change) hsame rfl (.nil _)
      · refine ⟨[], by simp [Notice.change?, hid, Ne.symm hx], ?_⟩
        rw [if_neg hx]
        exact .nil _

theorem pollContact_conducts (hs : s.Attends l) (group : Group) (report : PollReport) (y : String)
    (status : Status) : Conducts l x s (s.pollContact group report y status).1 := by
  have happly := applyStatus_conducts (x := x) hs y status (some group)
  rw [pollContact_fst]
  split
  · dsimp only
    split
    · refine happly.trans (conducts_of_tags rfl ?_)
      refine changes_of_silent rfl fun o ho l c hoc => ?_
      split at ho
      · rw [List.mem_singleton.1 ho] at hoc
        cases hoc
      · cases ho
    · exact happly
  · exact .refl s

theorem Attends.of_hub (hs : s.Attends l) (h : s'.hub = s.hub) : s'.Attends l :=
  ⟨h ▸ hs.lawful, h ▸ hs.registered⟩

theorem Turn.conducts (h : Turn s s') (hs : s.Attends l) : Conducts l x s s' := by
  cases h.news with
  | plain plain => exact plain.conducts
  | report y status parent => exact applyStatus_conducts hs y status parent
  | polled report _ learns =>
    have hlearnt := hs.of_hub learns.still.hub
    exact learns.plain.conducts.trans (pollContact_conducts hlearnt _ report _ _)

theorem Course.conducts (h : Course s s') (hs : s.Attends l) : Conducts l x s s' := by
  induction h with
  | refl => exact .refl s
  | tail course turn ih => exact ih.trans (turn.conducts (hs.of_hub (Course.frame course).hub))

/-- The moments of a run: before a step, when the step has done its own, and when what is due after
it is done. -/
def moments (s : Session) : List Step → List Session
  | [] => [s]
  | step :: steps => s :: (s.act step).1 :: moments (s.perform step).1 steps

/-- From one moment to the next, a listener is told how a contact comes from the one status to the
other; or it is told nothing, and an entry that stays keeps its status. -/
inductive Phase (l : Listener) (x : String) (s s' : Session) : Prop
  | told (conducts : Conducts l x s s')
  | edited (changes : s'.changes l x = s.changes l x)
      (kept : KeepsFound x s s' → (s.statusOf x).isSome → s'.statusOf x = s.statusOf x)

/-- What edits the list keeps the status of an entry that stays. -/
theorem statusOf_of_edits (h : s.list.Edits s'.list) (kept : KeepsFound x s s')
    (known : (s.statusOf x).isSome) : s'.statusOf x = s.statusOf x := by
  rcases h with hextends | hdrops
  · obtain ⟨rest, hrest⟩ := hextends.statuses x
    rw [statusOf_eq] at known
    rw [statusOf_eq, statusOf_eq, ← hrest]
    cases hs : (s.list.entries x).map (·.contact.status) with
    | nil => simp [hs] at known
    | cons status statuses => rfl
  · have hsub : (s'.list.entries x).Sublist (s.list.entries x) := hdrops.filter _
    have hhead : (s'.list.entries x).head? = (s.list.entries x).head? := by
      rcases kept with hlength | hhead
      · rw [hsub.eq_of_length_le hlength]
      · exact hhead
    rw [statusOf, statusOf, ContactList.contact?_eq_entries, ContactList.contact?_eq_entries, hhead]

theorem Deed.phase {step : Step} (h : Deed s step s') (hs : s.Attends l)
    (own : step.overwrites = false) : Phase l x s s' := by
  cases h with
  | course course => exact .told (Course.conducts course hs)
  | edit _ quiet edits =>
    obtain ⟨new, htrace, hnew⟩ := quiet.trace
    refine .edited ?_ (statusOf_of_edits (edits own))
    exact changes_of_plain htrace fun o ho => Occurrence.isPlain_of_isQuiet (hnew o ho)
  | parties => exact .edited rfl fun _ _ => rfl

theorem Deed.attends {step : Step} (h : Deed s step s') (hs : s.Attends l)
    (kept : step.unregisters l .contact = false) : s'.Attends l := by
  rcases h.hub with hhub | hhub
  · exact hs.of_hub hhub
  · exact ⟨hhub ▸ step.rehub_lawful hs.lawful,
      hhub ▸ Step.mem_rehub (c := .contact) kept hs.registered⟩

theorem moments_eq_cons (s : Session) (steps : List Step) : ∃ rest, s.moments steps = s :: rest := by
  cases steps with
  | nil => exact ⟨[], rfl⟩
  | cons step steps => exact ⟨_, rfl⟩

theorem getLast?_moments (steps : List Step) (s : Session) :
    (s.moments steps).getLast? = some (s.run steps) := by
  induction steps generalizing s with
  | nil => rfl
  | cons step steps ih =>
    obtain ⟨rest, hrest⟩ := moments_eq_cons (s.perform step).1 steps
    have hlast := ih (s.perform step).1
    rw [hrest] at hlast
    rw [moments, hrest, List.getLast?_cons_cons, List.getLast?_cons_cons, hlast, run_cons]

theorem moments_phase (steps : List Step) : ∀ {s : Session}, s.Sound → s.Attends l →
    (∀ step ∈ steps, step.unregisters l .contact = false) →
    (∀ step ∈ steps, step.overwrites = false) → (s.moments steps).IsChain (Phase l x) := by
  induction steps with
  | nil => exact fun _ _ _ _ => List.isChain_singleton _
  | cons step steps ih =>
    intro s hs hl kept own
    have hdeed := act_deed hs step
    have hsettle := settle_course (act_sound hs step)
    have hattends := hdeed.attends hl (kept step (by simp))
    have hrest := ih (perform_sound hs step) (hattends.of_hub hsettle.frame.hub)
      (fun step' h => kept step' (List.mem_cons_of_mem _ h))
      (fun step' h => own step' (List.mem_cons_of_mem _ h))
    obtain ⟨rest, hmoments⟩ := moments_eq_cons (s.perform step).1 steps
    rw [hmoments] at hrest
    rw [moments, hmoments, List.isChain_cons_cons, List.isChain_cons_cons]
    exact ⟨hdeed.phase hl (own step (by simp)), .told (Course.conducts hsettle hattends), hrest⟩

/-- Between two moments at which somebody has heard the same, no entry of a contact is removed. -/
def Undisturbed (l : Listener) (x : String) (ms : List Session)
    (heard : List ContactPresenceChange) : Prop :=
  ∀ u v, [u, v] <:+: ms → u.changes l x = heard → v.changes l x = heard → KeepsEntries x u v

/-- What holds at the last of some moments of the changes that came after `base`. -/
structure Linked (l : Listener) (x : String) (base : List ContactPresenceChange)
    (ms : List Session) (s : Session) : Prop where
  proper : ∀ pre c post, s.changes l x = pre ++ c :: post → base <+: pre →
    c.oldStatus ≠ c.newStatus ∧ c.contact.status = c.newStatus
  adjacent : ∀ pre c d post, s.changes l x = pre ++ c :: d :: post → base <+: pre →
    Undisturbed l x ms (pre ++ [c]) → d.oldStatus = c.newStatus
  current : ∀ pre c, s.changes l x = pre ++ [c] → base <+: pre →
    Undisturbed l x ms (pre ++ [c]) → s.statusOf x = some c.newStatus

theorem Undisturbed.of_append {ms ms' : List Session} {heard : List ContactPresenceChange}
    (h : Undisturbed l x (ms ++ ms') heard) : Undisturbed l x ms heard :=
  fun u v huv => h u v (huv.trans (List.prefix_append ms ms').isInfix)

theorem Linked.phase {base : List ContactPresenceChange} {ms : List Session}
    (h : Linked l x base (ms ++ [s]) s) (phase : Phase l x s s') :
    Linked l x base (ms ++ [s] ++ [s']) s' := by
  cases phase with
  | told conducts =>
    obtain ⟨cs, hcs, hleads⟩ := conducts.leads
    refine ⟨fun pre c post hs' hbase => ?_, fun pre c d post hs' hbase hun => ?_,
      fun pre c hs' hbase hun => ?_⟩
    · rw [hcs] at hs'
      rcases split_append hs' with ⟨rest, hs, -⟩ | ⟨skipped, -, rfl⟩
      · exact h.proper pre c rest hs hbase
      · exact hleads.mem (by simp)
    · rw [hcs] at hs'
      rcases split_append hs' with ⟨rest, hs, hrest⟩ | ⟨skipped, -, rfl⟩
      · cases rest with
        | nil =>
          have hcurrent := h.current pre c hs hbase hun.of_append
          rw [List.nil_append] at hrest
          rw [← hrest, hcurrent] at hleads
          exact (Option.some.inj hleads.head).symm
        | cons d' rest =>
          cases hrest
          exact h.adjacent pre c d rest hs hbase hun.of_append
      · exact hleads.adjacent
    · rw [hcs] at hs'
      rcases split_append hs' with ⟨rest, hs, hrest⟩ | ⟨skipped, -, rfl⟩
      · obtain ⟨rfl, rfl⟩ := List.append_eq_nil_iff.1 hrest.symm
        rw [hleads.last]
        exact h.current pre c hs hbase hun.of_append
      · rw [hleads.last]
        simp
  | edited changes kept =>
    refine ⟨fun pre c post hs' => h.proper pre c post (changes ▸ hs'),
      fun pre c d post hs' hbase hun => h.adjacent pre c d post (changes ▸ hs') hbase hun.of_append,
      fun pre c hs' hbase hun => ?_⟩
    have hs : s.changes l x = pre ++ [c] := changes ▸ hs'
    have hcurrent := h.current pre c hs hbase hun.of_append
    have hentries : KeepsEntries x s s' := by
      refine hun s s' ?_ hs hs'
      rw [List.append_assoc]
      exact (List.suffix_append ms [s, s']).isInfix
    rw [kept (.inl hentries) (by rw [hcurrent]; rfl), hcurrent]

/-- Nothing has come after the first moment yet. -/
theorem Linked.refl (s : Session) : Linked l x (s.changes l x) [s] s := by
  have hnone {pre : List ContactPresenceChange} {c : ContactPresenceChange}
      {post : List ContactPresenceChange} (hs : s.changes l x = pre ++ c :: post)
      (hbase : s.changes l x <+: pre) : False := by
    have hlength := hbase.length_le
    rw [hs, List.length_append, List.length_cons] at hlength
    omega
  exact ⟨fun pre c post hs hbase => (hnone hs hbase).elim,
    fun pre c d post hs hbase _ => (hnone hs hbase).elim,
    fun pre c hs hbase _ => (hnone hs hbase).elim⟩

theorem Linked.chain {base : List ContactPresenceChange} (rest : List Session) :
    ∀ {front : List Session} {s t : Session}, Linked l x base (front ++ [s]) s →
      (s :: rest).IsChain (Phase l x) → (s :: rest).getLast? = some t →
      Linked l x base (front ++ s :: rest) t := by
  induction rest with
  | nil =>
    rintro front s t h - ht
    cases ht
    exact h
  | cons s' rest ih =>
    intro front s t h hchain ht
    rw [List.isChain_cons_cons] at hchain
    rw [List.getLast?_cons_cons] at ht
    have hnext := ih (h.phase hchain.1) hchain.2 ht
    rwa [List.append_assoc, List.singleton_append] at hnext

theorem Phase.leads (h : Phase l x s s') (kept : KeepsFound x s s')
    (known : (s.statusOf x).isSome) :
    ∃ cs, s'.changes l x = s.changes l x ++ cs ∧ Leads (s.statusOf x) cs (s'.statusOf x) := by
  cases h with
  | told conducts => exact conducts.leads
  | edited changes status =>
    exact ⟨[], by rw [changes, List.append_nil], status kept known ▸ .nil _⟩

/-- As long as the entry that is found stays, the changes lead from its status to its status. -/
theorem leads_of_chain (rest : List Session) :
    ∀ {first last : Session}, (first :: rest).IsChain (Phase l x) →
      (first :: rest).IsChain (KeepsFound x) → (first :: rest).getLast? = some last →
      (first.statusOf x).isSome →
      ∃ cs, last.changes l x = first.changes l x ++ cs ∧
        Leads (first.statusOf x) cs (last.statusOf x) := by
  induction rest with
  | nil =>
    rintro first last - - hlast -
    cases hlast
    exact ⟨[], (List.append_nil _).symm, .nil _⟩
  | cons next rest ih =>
    intro first last hphase hkept hlast known
    rw [List.isChain_cons_cons] at hphase hkept
    rw [List.getLast?_cons_cons] at hlast
    obtain ⟨cs, hcs, hleads⟩ := hphase.1.leads hkept.1 known
    obtain ⟨ds, hds, hrest⟩ := ih hphase.2 hkept.2 hlast (hleads.known known)
    exact ⟨cs ++ ds, by rw [hds, hcs, List.append_assoc], hleads.append hrest⟩

/-- A listener that is registered for presence while a session takes some steps, none of which writes
statuses into the list past the session, hears of a contact as follows. Every change is one to another
status, which the snapshot has. A change starts where the one before has ended, unless an entry of the
contact is removed in between. As long as the entry that is found stays, its status is the one that the
last change has led to, or the one it had. -/
theorem presence_changes_form_chain {s : Session} (reachable : s.Reachable) (steps : List Step)
    (l : Listener) (x : String) (registered : l ∈ s.hub.contact.listeners)
    (stays : ∀ step ∈ steps, step.unregisters l .contact = false)
    (own : ∀ step ∈ steps, step.overwrites = false) :
    let heard := (s.run steps).changes l x
    (∀ pre c post, heard = pre ++ c :: post → s.changes l x <+: pre →
      c.oldStatus ≠ c.newStatus ∧ c.contact.status = c.newStatus) ∧
    (∀ pre c d post, heard = pre ++ c :: d :: post → s.changes l x <+: pre →
      Undisturbed l x (s.moments steps) (pre ++ [c]) → d.oldStatus = c.newStatus) ∧
    (∀ first rest last, first :: rest <:+: s.moments steps → (first :: rest).getLast? = some last →
      (first :: rest).IsChain (KeepsFound x) → ∀ status, first.statusOf x = some status →
      ∃ cs, last.changes l x = first.changes l x ++ cs ∧
        last.statusOf x = some ((cs.getLast?.map (·.newStatus)).getD status)) := by
  intro heard
  have hphases : (s.moments steps).IsChain (Phase l x) :=
    moments_phase steps reachable.sound ⟨reachable.lawful, registered⟩ stays own
  obtain ⟨rest, hmoments⟩ := moments_eq_cons s steps
  have hlast := getLast?_moments steps s
  have hlinked : Linked l x (s.changes l x) (s.moments steps) (s.run steps) := by
    have hfirst : Linked l x (s.changes l x) ([] ++ [s]) s := .refl s
    rw [hmoments] at hphases hlast ⊢
    exact hfirst.chain rest hphases hlast
  refine ⟨hlinked.proper, hlinked.adjacent, ?_⟩
  intro first rest last hinfix hlast hkept status hstatus
  have hpart := List.IsChain.infix hphases hinfix
  obtain ⟨cs, hcs, hleads⟩ := leads_of_chain rest hpart hkept hlast (by rw [hstatus]; rfl)
  refine ⟨cs, hcs, ?_⟩
  rw [hleads.last, hstatus]
  cases cs.getLast? <;> rfl

/-- A contact comes online, and goes offline with us. -/
theorem presence_chain_of_logout :
    let s : Session :=
      { settings := {}, localIdentifier := "12345", reRequests := false
        list := ⟨"root", [⟨.root "root", none⟩], [⟨.resolve "777", "root"⟩]⟩
        desk := ⟨{}, 0, false⟩
        hub := ⟨⟨[.tally]⟩, ⟨[.tally]⟩, ⟨[.tally]⟩, ⟨[.tally]⟩⟩ }
    let steps : List Step := [.buddyStatus (.plain "777" .online), .registrationChanged .unregistered]
    let heard := (s.run steps).changes .tally "777"
    s.Reachable ∧ .tally ∈ s.hub.contact.listeners ∧
      (∀ step ∈ steps, step.unregisters .tally .contact = false) ∧
      (∀ step ∈ steps, step.overwrites = false) ∧
      heard.map (fun c => (c.oldStatus, c.newStatus)) =
        [(.offline, .online), (.online, .offline)] ∧
      ∀ pre c post, heard = pre ++ c :: post →
        c.oldStatus ≠ c.newStatus ∧ c.contact.status = c.newStatus := by
  intro s steps heard
  have reachable : s.Reachable :=
    ⟨{ connection := some ⟨"12345", true⟩
       list := some ⟨"root", [⟨.root "root", none⟩], [⟨.resolve "777", "root"⟩]⟩
       listeners := [.tally] }, s, [], rfl, rfl⟩
  have registered : .tally ∈ s.hub.contact.listeners := by decide
  have stays : ∀ step ∈ steps, step.unregisters .tally .contact = false := by decide
  have own : ∀ step ∈ steps, step.overwrites = false := by decide
  have hchain := presence_changes_form_chain reachable steps .tally "777" registered stays own
  exact ⟨reachable, registered, stays, own, by decide +kernel,
    fun pre c post h => hchain.1 pre c post h List.nil_prefix⟩

end Session

end Roster
