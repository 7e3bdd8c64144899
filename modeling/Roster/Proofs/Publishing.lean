import Roster.Proofs.Line.Deeds
import Roster.Proofs.OwnPresence

/-! Publishing a status. The commands for it are worked out from the status that the server reported last,
and the server may stop taking them half way. A server that does what it is told, and reports what it shows
after each call, still comes to show the status of every call that did not fail. In a basic account this
hangs on the server being invisible or away as we believe it to be, and never both. -/

namespace Roster

namespace Mask

/-- Has none of the flags that tell of a status. -/
def isIdle (m : Mask) : Bool := priority.all fun p => !m.word.getLsbD p.1.bit

theorem status_congr {m n : Mask} (hm : m.isUnknown = false) (hn : n.isUnknown = false)
    (same : ∀ p ∈ priority, m.word.getLsbD p.1.bit = n.word.getLsbD p.1.bit) : m.status = n.status := by
  have hfilter : priority.filter (fun p => m.has p.1) = priority.filter (fun p => n.has p.1) :=
    List.filter_congr fun p hp => by rw [has, has, hm, hn, same p hp]
  have hfind : priority.find? (fun p => m.has p.1) = priority.find? (fun p => n.has p.1) := by
    rw [← List.head?_filter, ← List.head?_filter, hfilter]
  rw [status, status, hm, hn, hfind]

/-- A mask that stands for a status lacks one of the flags that tell of another. -/
theorem exists_getLsbD_eq_false {s : Status} {m : Mask} (h : ofStatus? s = some m) :
    ∃ p ∈ priority, m.word.getLsbD p.1.bit = false := by
  obtain ⟨f, -, rfl⟩ : ∃ f, flagOf? s = some f ∧ ofFlag f = m := by simpa [ofStatus?] using h
  have hlacks : priority.any (fun p => !(ofFlag f).word.getLsbD p.1.bit) = true := by cases f <;> decide
  obtain ⟨p, hp, hbit⟩ := List.any_eq_true.1 hlacks
  exact ⟨p, hp, by simpa using hbit⟩

/-- Idle bits on top do not matter to a mask that stands for a status. -/
theorem status_union_of_isIdle {s : Status} {m extra : Mask} (h : ofStatus? s = some m)
    (idle : extra.isIdle = true) : (m.union extra).status = s := by
  have hbit : ∀ p ∈ priority, (m.union extra).word.getLsbD p.1.bit = m.word.getLsbD p.1.bit := by
    intro p hp
    have hidle : extra.word.getLsbD p.1.bit = false := by simpa using List.all_eq_true.1 idle p hp
    rw [union, BitVec.getLsbD_or, hidle, Bool.or_false]
  have hknown {n : Mask} (hn : ∀ p ∈ priority, n.word.getLsbD p.1.bit = m.word.getLsbD p.1.bit) :
      n.isUnknown = false := by
    refine Bool.eq_false_iff.2 fun hunknown => ?_
    obtain ⟨p, hp, hlacks⟩ := exists_getLsbD_eq_false h
    have hset : unknown.word.getLsbD p.1.bit = true := by cases p.1 <;> decide
    rw [← eq_of_beq hunknown, hn p hp, hlacks] at hset
    cases hset
  rw [status_congr (hknown hbit) (hknown fun _ _ => rfl) hbit, status_ofStatus? h]

end Mask

/-- Something holds of every initial part of a list. -/
theorem forall_prefix_cons {α : Type} {P : List α → Prop} {a : α} {as : List α} :
    (∀ taken, taken <+: a :: as → P taken) ↔ P [] ∧ ∀ taken, taken <+: as → P (a :: taken) := by
  constructor
  · intro h
    exact ⟨h [] List.nil_prefix, fun taken ht => h _ (List.cons_prefix_cons.2 ⟨rfl, ht⟩)⟩
  · rintro ⟨hnil, hcons⟩ taken ht
    rcases List.prefix_cons_iff.1 ht with rfl | ⟨rest, rfl, hrest⟩
    · exact hnil
    · exact hcons rest hrest

/-- What a server shows of us: the mask of an extended account, and how a basic one is seen. -/
structure Showing where
  mask : Mask := .online
  visible : Bool := true
  awayText : Option String := none
  deriving DecidableEq, Repr

namespace Showing

/-- Does what it is told. -/
def obey (v : Showing) : Command → Showing
  | .setExtendedStatus mask => { v with mask := mask }
  | .setVisibility visible => { v with visible := visible }
  | .setAwayMessage text => { v with awayText := text }
  | _ => v

/-- A report that says what is shown. An extended account may have idle bits besides. -/
def Honest (v : Showing) (mode : AccountMode) (info : UserInfo) : Prop :=
  match mode with
  | .extended => ∃ extra : Mask, extra.isIdle = true ∧ info.mask = v.mask.union extra
  | .basic =>
    info.mask = (if v.visible then .online else Mask.online.union (.ofFlag .invisible)) ∧
      info.away = some v.awayText.isSome

/-- The status that a basic account shows. -/
def basicStatus (v : Showing) : Status :=
  if v.awayText.isSome then .away else if v.visible then .online else .invisible

/-- Not invisible and away at once. -/
def Plain (v : Showing) : Prop := v.visible = true ∨ v.awayText = none

/-- A status that is believed of a basic account: what it shows, or none as long as it is just online. -/
structure Believed (v : Showing) (status : Status) : Prop where
  plain : v.Plain
  status : status = v.basicStatus ∨ status = .offline ∧ v.visible = true ∧ v.awayText = none

theorem Honest.basic {v : Showing} {info : UserInfo} (h : v.Honest .basic info) :
    (AccountMode.basic.ownMask info).status = v.basicStatus := by
  obtain ⟨hmask, haway⟩ := h
  simp only [AccountMode.ownMask, basicStatus, haway, hmask]
  cases v.awayText.isSome <;> cases v.visible <;> decide

theorem Honest.extended {v : Showing} {info : UserInfo} (h : v.Honest .extended info) {status : Status}
    (shown : Mask.ofStatus? status = some v.mask) :
    (AccountMode.extended.ownMask info).status = status := by
  obtain ⟨extra, idle, hmask⟩ := h
  have hstatus := Mask.status_union_of_isIdle shown idle
  simp only [AccountMode.ownMask, hmask]
  split
  · next hunknown =>
    rw [Mask.status, if_pos hunknown] at hstatus
    subst hstatus
    cases shown
  · exact hstatus

/-- A basic account is just online, or invisible, or away. -/
theorem Believed.elim {v : Showing} {current : Status} (h : v.Believed current) :
    (v.visible = true ∧ v.awayText = none ∧ (current = .online ∨ current = .offline)) ∨
      (v.visible = false ∧ v.awayText = none ∧ current = .invisible) ∨
      (v.visible = true ∧ v.awayText.isSome ∧ current = .away) := by
  obtain ⟨hplain, hstatus⟩ := h
  cases hvisible : v.visible <;> cases haway : v.awayText <;>
    simp_all [Plain, basicStatus]

/-- A server that was plain all along, and stays so through what is taken next, was plain all along. -/
theorem plain_append {v : Showing} {sent taken : List Command}
    (before : ∀ part, part <+: sent → (part.foldl obey v).Plain)
    (after : ∀ part, part <+: taken → (part.foldl obey (sent.foldl obey v)).Plain) :
    ∀ part, part <+: sent ++ taken → (part.foldl obey v).Plain := by
  intro part hpart
  rcases List.prefix_or_prefix_of_prefix hpart (List.prefix_append sent taken) with hbefore | ⟨rest, rfl⟩
  · exact before part hbefore
  · rw [List.foldl_append]
    exact after rest ((List.prefix_append_right_inj sent).1 hpart)

/-- The commands of a basic account, taken up to anywhere, never make it invisible and away at once; taken
to the last, they make it show what was asked for. -/
theorem Believed.commands {v : Showing} {current : Status} (h : v.Believed current) (requested : Status)
    (message : String) :
    let plan := AccountMode.basic.publishCommands requested current message
    (∀ taken, taken <+: plan.toOption.getD [] → (taken.foldl obey v).Plain) ∧
      ∀ commands, plan = .ok commands → (commands.foldl obey v).basicStatus = requested := by
  -- what is undone first is what is believed, so by the table of requests the rest starts from just online
  rcases h.elim with ⟨hvisible, haway, rfl | rfl⟩ | ⟨hvisible, haway, rfl⟩ | ⟨hvisible, haway, rfl⟩ <;>
    cases requested <;>
    simp [AccountMode.publishCommands, AccountMode.encode, AccountMode.supported, Mask.ofStatus?,
      Mask.flagOf?, pure, Except.pure, bind, Except.bind, Except.toOption,
      forall_prefix_cons, obey, Plain, basicStatus, hvisible, haway]

/-- The commands of an extended account put the mask in place that stands for the status. -/
theorem ofStatus?_mask_foldl {requested current : Status} {message : String} {commands : List Command}
    (h : AccountMode.extended.publishCommands requested current message = .ok commands) (v : Showing) :
    Mask.ofStatus? requested = some (commands.foldl obey v).mask := by
  simp only [AccountMode.publishCommands, AccountMode.encode, bind, Except.bind, pure, Except.pure] at h
  split at h
  · cases h
  · next mask hencode =>
    cases h
    split at hencode
    · split at hencode
      · next m hm =>
        cases hencode
        exact hm
      · cases hencode
    · cases hencode

end Showing

/-- There are commands for every status that an account can be in and be seen in. -/
theorem AccountMode.publishCommands_of_supported {mode : AccountMode} {requested : Status}
    (supported : requested ∈ mode.supported) (online : requested.isOnline = true) (current : Status)
    (message : String) : ∃ commands, mode.publishCommands requested current message = .ok commands := by
  cases mode with
  | extended =>
    cases requested with
    | offline => cases online
    | _ => exact ⟨_, rfl⟩
  | basic =>
    cases requested with
    | online => cases current <;> exact ⟨_, rfl⟩
    | away | invisible => exact ⟨_, rfl⟩
    | offline => cases online
    | _ => simp [AccountMode.supported] at supported

namespace Session

/-- The commands that the server has taken. -/
def commands (s : Session) : List Command :=
  s.trace.filterMap fun
    | .commanded c => some c
    | _ => none

theorem commands_eq_dealings (s : Session) : s.commands = s.ledger.dealings.filterMap fun
    | .commanded c => some c
    | _ => none := by
  rw [ledger, List.filterMap_filter]
  exact List.filterMap_congr fun o _ => by cases o <;> rfl

theorem commands_of_ledger {s t : Session} (h : t.ledger = s.ledger) : t.commands = s.commands := by
  rw [commands_eq_dealings, commands_eq_dealings, h]

theorem lasting_settings (settings : Settings) : Lasting fun s => s.settings = settings where
  signal _ h := h
  time _ h := h
  tick {t} h := by
    unfold tick
    split
    · split
      · exact (poll_begins t).1.settings.trans h
      · exact h
    · exact h
  wakeWaiter {t} q h := by
    rcases exists_waiter t q with ⟨tasks, others, query⟩ | ⟨others, poller, query⟩ | nobody
    · next before after name w =>
      rw [wakeWaiter_of_task tasks others query]
      exact (resume_begins t w).1.settings.trans h
    · next due p =>
      have hasks := ((resumePoll_begins (t.receive q).1 p (t.receive q).2).of_asks (receive_asks t q)).1
      rw [wakeWaiter_of_poller others poller query]
      exact hasks.settings.trans h
    · rwa [wakeWaiter_of_nobody nobody]

theorem settings_complete (begun : Session × (Outcome ⊕ Work)) :
    (complete begun).1.settings = begun.1.settings :=
  (lasting_settings begun.1.settings).await .foreground rfl

section Call

variable (line : Line) (s : Session) (requested : Status) (message : String)

theorem sendAllVia_of_ok {line : Line} {s : Session} {cs : List Command}
    (h : (s.sendAllVia line cs).2 = .ok ()) :
    (s.sendAllVia line cs).1 = { s with trace := s.trace ++ cs.map Occurrence.commanded } := by
  induction cs generalizing s with
  | nil => simp [sendAllVia]
  | cons c cs ih =>
    cases hline : line s c with
    | false => simp [sendAllVia, sendVia, hline] at h
    | true =>
      simp only [sendAllVia, sendVia, hline, if_true] at h ⊢
      rw [ih h]
      simp [record]

theorem sendAllVia_of_takes {line : Line} (takes : ∀ t c, line t c = true) (cs : List Command) :
    (s.sendAllVia line cs).2 = .ok () := by
  induction cs generalizing s with
  | nil => rfl
  | cons c cs ih =>
    simp only [sendAllVia, sendVia, takes, if_true]
    exact ih _

/-- What a call to publish comes to: some of its commands are taken, and all of them if it succeeds. -/
structure Publishes (s t : Session) (plan : Except Failure (List Command)) (succeeds : Prop) : Prop where
  settings : t.settings = s.settings
  commands : ∃ taken, t.commands = s.commands ++ taken ∧ taken <+: plan.toOption.getD [] ∧
    (succeeds → plan = .ok taken)

theorem commands_withTrace (taken : List Command) :
    ({ s with trace := s.trace ++ taken.map Occurrence.commanded } : Session).commands =
      s.commands ++ taken := by
  simp [commands, List.filterMap_append, List.filterMap_map]

theorem publishVia_publishes : Publishes s (s.publishVia line requested message).1
    (s.settings.mode.publishCommands requested s.status message)
    (∀ f, (s.publishVia line requested message).2 ≠ .inl (.failed f)) := by
  have hnothing {plan : Except Failure (List Command)} {f : Failure} :
      Publishes s s plan (∀ f', (Sum.inl (.failed f) : Outcome ⊕ Work) ≠ .inl (.failed f')) :=
    ⟨rfl, [], (List.append_nil _).symm, List.nil_prefix, fun h => absurd rfl (h f)⟩
  unfold publishVia
  split
  · exact hnothing
  · split
    · exact hnothing
    · exact hnothing
    · next all hplan =>
      split
      · next t f hsend =>
        obtain ⟨taken, hinitial, htaken⟩ := sendAllVia_fst line s all
        obtain rfl : t = _ := (congrArg Prod.fst hsend).symm.trans htaken
        rw [hplan]
        exact ⟨rfl, taken, commands_withTrace s taken, hinitial, fun h => absurd rfl (h f)⟩
      · next t hsend =>
        have hall : t = { s with trace := s.trace ++ all.map Occurrence.commanded } :=
          (congrArg Prod.fst hsend).symm.trans (sendAllVia_of_ok (congrArg Prod.snd hsend))
        have hcommands : (t.ask t.localIdentifier).1.commands = s.commands ++ all := by
          rw [commands_of_ledger (ledger_ask ..), hall, commands_withTrace]
        have hsettings : (t.ask t.localIdentifier).1.settings = s.settings := by
          rw [(ask_begins ..).1.settings, hall]
        rw [hplan]
        split <;> next hask =>
          rw [hask] at hcommands hsettings
          exact ⟨hsettings, all, hcommands, List.prefix_refl _, fun _ => rfl⟩

/-- A call does not fail for a status that can be published, if we are registered and the server takes what
it is told. -/
theorem performVia_publish_ne_failed {line : Line} {requested : Status}
    (registered : s.server.registered = true) (takes : ∀ t c, line t c = true)
    (supported : requested ∈ s.settings.mode.supported) (online : requested.isOnline = true) (f : Failure) :
    (s.performVia line (.publish requested message)).2 ≠ .failed f := by
  intro hfailed
  have hbegun : (s.publishVia line requested message).2 = .inl (.failed f) := failed_of_complete hfailed
  obtain ⟨commands, hplan⟩ :=
    AccountMode.publishCommands_of_supported supported online s.status message
  have hsent := s.sendAllVia_of_takes takes commands
  simp only [publishVia, registered, hplan, Bool.not_true, Bool.false_eq_true, if_false] at hbegun
  split at hbegun
  · next hsend =>
    rw [hsend] at hsent
    cases hsent
  · split at hbegun <;> cases hbegun

theorem performVia_publishes : Publishes s (s.performVia line (.publish requested message)).1
    (s.settings.mode.publishCommands requested s.status message)
    (∀ f, (s.performVia line (.publish requested message)).2 ≠ .failed f) := by
  obtain ⟨hsettings, taken, hcommands, hinitial, hsucceeds⟩ :=
    publishVia_publishes line s requested message
  have hledger := (ledger_settle _).trans (ledger_complete (s.publishVia line requested message))
  refine ⟨?_, taken, ?_, hinitial, fun h => hsucceeds fun f hf => ?_⟩
  · exact ((lasting_settings _).settle (settings_complete _)).trans hsettings
  · exact (commands_of_ledger hledger).trans hcommands
  · refine h f ?_
    have hbegun : s.publishVia line requested message =
        ((s.publishVia line requested message).1, .inl (.failed f)) := Prod.ext rfl hf
    change (complete (s.publishVia line requested message)).2 = _
    rw [hbegun, complete_of_inl]

end Call

end Session

/-- A call to publish, on a line of its own, and the report that the server makes after it. -/
structure Publication where
  line : Line
  status : Status
  message : String
  report : Showing → UserInfo

namespace Session

def call (s : Session) (p : Publication) : Session × Outcome :=
  s.performVia p.line (.publish p.status p.message)

/-- A call, and after it a report of what the server then shows. -/
def play (shown : Session → Showing) (s : Session) (p : Publication) : Session :=
  let t := (s.call p).1
  (t.perform (.ownInfo (p.report (shown t)))).1

/-- What a server has been told since the start. -/
def sentSince (start s : Session) : List Command := s.commands.drop start.commands.length

/-- What a server shows that has obeyed all commands since the start. -/
def showing (start : Session) (first : Showing) (s : Session) : Showing :=
  (start.sentSince s).foldl Showing.obey first

/-- What holds between rounds: in a basic account the server has never been invisible and away at once, and
shows what we believe. -/
structure InStep (start : Session) (first : Showing) (s : Session) : Prop where
  settings : s.settings = start.settings
  commands : start.commands <+: s.commands
  basic : start.settings.mode = .basic →
    (∀ sent, sent <+: start.sentSince s → (sent.foldl Showing.obey first).Plain) ∧
      (start.showing first s).Believed s.status

section InStep

variable {start s t : Session} {first : Showing} {p : Publication}

theorem sentSince_append {taken : List Command} (h : start.commands <+: s.commands)
    (more : t.commands = s.commands ++ taken) : start.sentSince t = start.sentSince s ++ taken := by
  rw [sentSince, sentSince, more, List.drop_append_of_le_length h.length_le]

theorem showing_append {taken : List Command} (h : start.commands <+: s.commands)
    (more : t.commands = s.commands ++ taken) :
    start.showing first t = taken.foldl Showing.obey (start.showing first s) := by
  rw [showing, sentSince_append h more, List.foldl_append, showing]

/-- What a report after a call leaves, and what it does to our status. -/
theorem play_eq (s : Session) (shown : Session → Showing) (p : Publication) :
    let t := (s.call p).1
    (s.play shown p).settings = t.settings ∧ (s.play shown p).commands = t.commands ∧
      (s.play shown p).status = (t.settings.mode.ownMask (p.report (shown t))).status := by
  intro t
  refine ⟨(lasting_settings t.settings).settle ?_, commands_of_ledger ?_, ?_⟩
  · exact (ownInfo_still t _).settings
  · exact (ledger_settle _).trans (ledger_ownInfo ..)
  · rw [← status_ownInfo, status, status]
    exact congrArg (·.mask.status) (settle_mute _).own

theorem InStep.play (h : InStep start first s)
    (honest : ∀ v : Showing, v.Honest start.settings.mode (p.report v)) :
    InStep start first (s.play (start.showing first) p) ∧
      ((∀ f, (s.call p).2 ≠ .failed f) → (s.play (start.showing first) p).status = p.status) := by
  obtain ⟨hcalled, taken, hcommands, hinitial, hsucceeds⟩ :=
    performVia_publishes p.line s p.status p.message
  obtain ⟨hsettings, hplayed, hstatus⟩ := play_eq s (start.showing first) p
  have hmode : (s.call p).1.settings = start.settings := hcalled.trans h.settings
  have hmore : (s.play (start.showing first) p).commands = s.commands ++ taken := hplayed.trans hcommands
  have hprefix : start.commands <+: (s.play (start.showing first) p).commands :=
    hmore ▸ h.commands.trans (List.prefix_append _ _)
  have hshown : start.showing first (s.call p).1 = taken.foldl Showing.obey (start.showing first s) :=
    showing_append h.commands hcommands
  have hreport := honest (start.showing first (s.call p).1)
  rw [h.settings] at hinitial hsucceeds
  rw [hmode] at hstatus
  cases hkind : start.settings.mode with
  | extended =>
    rw [hkind] at hsucceeds hreport hstatus
    refine ⟨⟨hsettings.trans hmode, hprefix, fun hbasic => by simp [hkind] at hbasic⟩, fun hdone => ?_⟩
    rw [hstatus]
    refine hreport.extended ?_
    rw [hshown]
    exact Showing.ofStatus?_mask_foldl (hsucceeds hdone) _
  | basic =>
    obtain ⟨hplain, hbelieved⟩ := h.basic hkind
    obtain ⟨htaken, hall⟩ := hbelieved.commands p.status p.message
    rw [hkind] at hinitial hsucceeds hreport hstatus
    rw [hreport.basic, hshown] at hstatus
    refine ⟨⟨hsettings.trans hmode, hprefix, fun _ => ⟨fun sent hsent => ?_, ?_, .inl ?_⟩⟩, fun hdone => ?_⟩
    · rw [sentSince_append h.commands hmore] at hsent
      exact Showing.plain_append hplain (fun rest hrest => htaken rest (hrest.trans hinitial)) sent hsent
    · rw [showing_append h.commands hmore]
      exact htaken taken hinitial
    · rw [showing_append h.commands hmore, hstatus]
    · rw [hstatus, hall taken (hsucceeds hdone)]

theorem inStep_start (unknown : start.own.mask = .unknown) (visible : first.visible = true)
    (present : first.awayText = none) : InStep start first start := by
  have hnone : start.sentSince start = [] := List.drop_eq_nil_of_le le_rfl
  have hoffline : start.status = .offline := by rw [status, unknown, Mask.status_unknown]
  refine ⟨rfl, List.prefix_refl _, fun _ => ⟨fun sent hsent => ?_, ?_, .inr ?_⟩⟩
  · rw [hnone, List.prefix_nil] at hsent
    exact .inl (hsent ▸ visible)
  · rw [showing, hnone]
    exact .inl visible
  · rw [showing, hnone]
    exact ⟨hoffline, visible, present⟩

theorem InStep.plays {publications : List Publication} (h : InStep start first s)
    (honest : ∀ p ∈ publications, ∀ v : Showing, v.Honest start.settings.mode (p.report v)) :
    InStep start first (publications.foldl (Session.play (start.showing first)) s) := by
  induction publications generalizing s with
  | nil => exact h
  | cons p publications ih =>
    obtain ⟨hfirst, hrest⟩ := List.forall_mem_cons.1 honest
    exact ih (h.play hfirst).1 hrest

end InStep

/-- Publishing converges to the status that is asked for. The server does what it is told and is neither
invisible nor away at first, nothing is known of our status, and after each of some calls, any of whose
commands the server may refuse, it reports what it shows. Then a call that does not fail ends, with its
report, in the status that it was for, and no call fails that asks a willing server for a status that the
account can show. A basic account is at no moment invisible and away at once. -/
theorem publishing_converges {start : Session} {first : Showing} (unknown : start.own.mask = .unknown)
    (visible : first.visible = true) (present : first.awayText = none) (earlier : List Publication)
    (p : Publication)
    (honest : ∀ q ∈ earlier ++ [p], ∀ v : Showing, v.Honest start.settings.mode (q.report v)) :
    let shown := start.showing first
    let s := earlier.foldl (play shown) start
    ((∀ f, (s.call p).2 ≠ .failed f) → (s.play shown p).status = p.status) ∧
      (s.server.registered = true → (∀ t c, p.line t c = true) →
        p.status ∈ start.settings.mode.supported → p.status.isOnline = true →
        ∀ f, (s.call p).2 ≠ .failed f) ∧
      (start.settings.mode = .basic → ∀ sent, sent <+: start.sentSince (s.play shown p) →
        (sent.foldl Showing.obey first).Plain) := by
  intro shown s
  obtain ⟨hearlier, hlast⟩ := List.forall_mem_append.1 honest
  have hstep := (inStep_start unknown visible present).plays hearlier
  obtain ⟨hplayed, hconverges⟩ := hstep.play (hlast p List.mem_cons_self)
  refine ⟨hconverges, fun registered takes supported online => ?_, fun hbasic => (hplayed.basic hbasic).1⟩
  rw [← hstep.settings] at supported
  exact performVia_publish_ne_failed s p.message registered takes supported online

/-- An account becomes invisible, and then cannot quite be made to be away: the server lets it be seen again,
and takes no away message. The next time it does. -/
theorem convergence_after_refusal :
    let report (v : Showing) : UserInfo :=
      ⟨"12345", if v.visible then .online else Mask.online.union (.ofFlag .invisible),
        some v.awayText.isSome, none⟩
    let start : Session :=
      { settings := { mode := .basic }, localIdentifier := "12345"
        list := ⟨"root", [⟨.root "root", none⟩], []⟩ }
    let first : Showing := {}
    let shown := start.showing first
    let halfway : Line := fun _ c => c = .setVisibility true
    let earlier : List Publication :=
      [⟨.plain, .invisible, "", report⟩, ⟨halfway, .away, "Lunch", report⟩]
    let p : Publication := ⟨.plain, .away, "", report⟩
    let s := earlier.foldl (play shown) start
    start.own.mask = .unknown ∧ first.visible = true ∧ first.awayText = none ∧
      (∀ q ∈ earlier ++ [p], ∀ v : Showing, v.Honest start.settings.mode (q.report v)) ∧
      s.status = .online ∧ start.sentSince s = [.setVisibility false, .setVisibility true] ∧
      (s.play shown p).status = .away := by
  intro report start first shown halfway earlier p s
  have honest : ∀ q ∈ earlier ++ [p], ∀ v : Showing, v.Honest start.settings.mode (q.report v) := by
    intro q hq v
    have hreport : ∀ q ∈ earlier ++ [p], q.report = report := by simp [earlier, p]
    rw [hreport q hq]
    exact ⟨rfl, rfl⟩
  have hdone : (s.call p).2 = .done := by decide +kernel
  have unknown : start.own.mask = .unknown := rfl
  obtain ⟨hconverges, -⟩ := @publishing_converges start first unknown rfl rfl earlier p honest
  refine ⟨unknown, rfl, rfl, honest, by decide +kernel, by decide +kernel, hconverges fun f hf => ?_⟩
  cases hdone.symm.trans hf

end Session

end Roster
