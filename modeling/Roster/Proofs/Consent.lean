import Roster.Proofs.Ledger

/-! Consent. The session replies to a petition, grants, and petitions others only as the application says
when it is asked, and on whatever line. Each question makes one exchange, and nothing else sends any of
these commands. -/

namespace Roster

/-- A command of the handshake. -/
def Command.isHandshake : Command → Bool
  | .authorizationReply .. | .grantFutureAuthorization .. | .requestAuthorization .. => true
  | _ => false

/-- A question to the application about consent, or a command that may follow from it. -/
def Occurrence.isHandshake : Occurrence → Bool
  | .decided .. | .drafted .. => true
  | .commanded c => c.isHandshake
  | _ => false

/-- One question to the application, and what the server took upon it. Policies are numbered. -/
inductive Exchange
  /-- Somebody asks us. -/
  | answered (policy : Nat) (identifier : String) (decision : Decision) (replied : Bool)
  /-- We ask somebody, if the application wants to. -/
  | petitioned (policy : Nat) (identifier : String) (petition : Option Petition)
      (granted requested : Bool)
  deriving DecidableEq

def Exchange.occurrences : Exchange → List Occurrence
  | .answered policy x decision replied =>
    .decided policy x decision ::
      if replied then
        [.commanded (.authorizationReply x (decision.verdict = .accept) decision.reason)]
      else []
  | .petitioned policy x petition granted requested =>
    .drafted policy x petition :: petition.elim [] fun p =>
      if granted then .commanded (.grantFutureAuthorization x p.reason) ::
        if requested then [.commanded (.requestAuthorization x p.reason)] else []
      else []

/-- Whether a petition was sent in full. -/
def Exchange.requested : Exchange → Bool
  | .petitioned _ _ _ _ requested => requested
  | .answered .. => false

/-- An exchange with the application as it is: its newest policy answers, and only what it says is sent, a
request only after the grant. -/
inductive Exchange.MadeBy (d : Desk) : Exchange → Prop
  | answered (x : String) {replied : Bool} (installed : d.installed = true)
      (meant : replied = true → d.policy.incoming.verdict ≠ .ignore) :
      MadeBy d (.answered d.earlier x d.policy.incoming replied)
  | petitioned (x : String) {granted requested : Bool} (installed : d.installed = true)
      (drafted : granted = true → d.policy.outgoing.isSome = true)
      (order : requested = true → granted = true) :
      MadeBy d (.petitioned d.earlier x d.policy.outgoing granted requested)

/-- A command of a handshake comes right after what it follows from: a reply after the decision that it
tells, a grant after a petition with its reason, a request after the grant. -/
def Warranted (before : List Occurrence) : Occurrence → Prop
  | .commanded (.authorizationReply x accepted reason) =>
    ∃ policy decision, [.decided policy x decision] <:+ before ∧ decision.verdict ≠ .ignore ∧
      accepted = decide (decision.verdict = .accept) ∧ reason = decision.reason
  | .commanded (.grantFutureAuthorization x reason) =>
    ∃ policy, [.drafted policy x (some ⟨reason⟩)] <:+ before
  | .commanded (.requestAuthorization x reason) =>
    ∃ policy, [.drafted policy x (some ⟨reason⟩),
      .commanded (.grantFutureAuthorization x reason)] <:+ before
  | _ => True

def Consented (os : List Occurrence) : Prop :=
  ∀ before o after, os = before ++ o :: after → Warranted before o

theorem Warranted.later {before : List Occurrence} {o : Occurrence} (h : Warranted before o)
    (os : List Occurrence) : Warranted (os ++ before) o := by
  have hsuffix {part : List Occurrence} (hpart : part <:+ before) : part <:+ os ++ before :=
    hpart.trans (List.suffix_append _ _)
  cases o with
  | commanded c =>
    cases c with
    | authorizationReply x accepted reason =>
      obtain ⟨policy, decision, hpart, hrest⟩ := h
      exact ⟨policy, decision, hsuffix hpart, hrest⟩
    | grantFutureAuthorization x reason | requestAuthorization x reason =>
      obtain ⟨policy, hpart⟩ := h
      exact ⟨policy, hsuffix hpart⟩
    | _ => trivial
  | _ => trivial

theorem consented_nil : Consented [] := by
  intro before o after h
  simp at h

theorem Consented.append {os os' : List Occurrence} (h : Consented os) (h' : Consented os') :
    Consented (os ++ os') := by
  intro before o after hsplit
  rcases split_append hsplit with ⟨rest, hos, -⟩ | ⟨skipped, rfl, hos'⟩
  · exact h before o rest hos
  · exact (h' skipped o after hos').later os

theorem Consented.concat {os : List Occurrence} {o : Occurrence} (h : Consented os)
    (ho : Warranted os o) : Consented (os ++ [o]) := by
  intro before o' after hsplit
  rcases split_concat hsplit with ⟨rest, hos⟩ | ⟨rfl, rfl⟩
  · exact h before o' rest hos
  · exact ho

theorem Exchange.MadeBy.consented {d : Desk} {e : Exchange} (h : e.MadeBy d) :
    Consented e.occurrences := by
  have hquestion {o : Occurrence} (ho : Warranted [] o) : Consented [o] := consented_nil.concat ho
  cases h with
  | @answered x replied _ meant =>
    have hdecided : Consented [.decided d.earlier x d.policy.incoming] := hquestion trivial
    cases replied with
    | false => exact hdecided
    | true => exact hdecided.concat ⟨_, _, List.suffix_refl _, meant rfl, rfl, rfl⟩
  | @petitioned x granted requested _ drafted order =>
    cases hout : d.policy.outgoing with
    | none => exact hquestion trivial
    | some p =>
      have hdrafted : Consented [.drafted d.earlier x (some p)] := hquestion trivial
      cases granted with
      | false => exact hdrafted
      | true =>
        have hgranted := hdrafted.concat
          (o := .commanded (.grantFutureAuthorization x p.reason)) ⟨_, List.suffix_refl _⟩
        cases requested with
        | false => exact hgranted
        | true => exact hgranted.concat ⟨_, List.suffix_refl _⟩

theorem consented_flatMap {es : List Exchange} (h : ∀ e ∈ es, ∃ d, e.MadeBy d) :
    Consented (es.flatMap Exchange.occurrences) := by
  induction es with
  | nil => exact consented_nil
  | cons e es ih =>
    obtain ⟨⟨d, he⟩, hes⟩ := List.forall_mem_cons.1 h
    exact he.consented.append (ih hes)

namespace Session

/-- The handshakes, in order. -/
def handshakes (s : Session) : List Occurrence := s.trace.filter Occurrence.isHandshake

/-- Somebody asks: the newest policy decides, if there is one, and the reply is sent unless the petition
is to be ignored. -/
def answering (line : Line) (s : Session) (x : String) : Option Exchange :=
  s.desk.policy?.map fun policy =>
    .answered s.desk.earlier x policy.incoming
      (policy.incoming.verdict ≠ .ignore ∧
        line ((s.greeting x).record (.decided s.desk.earlier x policy.incoming))
          (.authorizationReply x (policy.incoming.verdict = .accept) policy.incoming.reason))

/-- Somebody is to be asked: the newest policy drafts a petition, if there is one, and first a grant and
then a request is sent with its reason. -/
def petitioning (line : Line) (s : Session) (x : String) : Option Exchange :=
  s.desk.policy?.map fun policy =>
    let drafted := s.record (.drafted s.desk.earlier x policy.outgoing)
    let granted := policy.outgoing.any fun p =>
      line drafted (.grantFutureAuthorization x p.reason)
    let requested := granted && policy.outgoing.any fun p =>
      line (drafted.record (.commanded (.grantFutureAuthorization x p.reason)))
        (.requestAuthorization x p.reason)
    .petitioned s.desk.earlier x policy.outgoing granted requested

/-- A stranger is parked before it is asked. -/
def requiring (line : Line) (s : Session) (x : String) (parent : Option String) : Option Exchange :=
  match s.list.contact? x with
  | some _ => s.petitioning line x
  | none =>
    match s.park x parent with
    | (t, .ok _) => t.petitioning line x
    | (_, .error _) => none

def replying (line : Line) (s : Session) : ServerEvent → Option Exchange
  | .authorizationRequestReceived x _ => s.answering line x
  | _ => none

/-- The exchange that a step makes. -/
def exchange? (line : Line) (s : Session) : Step → Option Exchange
  | .emit event => if s.server.attached then s.replying line event else none
  | .handle event => s.replying line event
  | .requireAuthorization x parent => if s.server.attached then s.requiring line x parent else none
  | .authorizationRequired x parent => s.requiring line x parent
  | _ => none

/-- The exchanges of a run. -/
def exchanges (s : Session) : List (Line × Step) → List Exchange
  | [] => []
  | (line, step) :: moves =>
    (s.exchange? line step).toList ++ (s.performVia line step).1.exchanges moves

variable (line : Line) (s : Session)

theorem handshakes_of_ledger {s t : Session} (h : t.ledger = s.ledger) :
    t.handshakes = s.handshakes := by
  have hfilter (u : Session) : u.handshakes =
      (u.trace.filter Occurrence.isDealing).filter Occurrence.isHandshake := by
    rw [handshakes, List.filter_filter]
    refine List.filter_congr fun o _ => ?_
    cases o <;> simp [Occurrence.isHandshake, Occurrence.isDealing]
  rw [hfilter, hfilter, show t.trace.filter Occurrence.isDealing = s.trace.filter Occurrence.isDealing from
    congrArg Ledger.dealings h]

theorem desk_of_ledger {s t : Session} (h : t.ledger = s.ledger) : t.desk = s.desk :=
  congrArg Ledger.desk h

@[simp] theorem desk_record (o : Occurrence) : (s.record o).desk = s.desk := rfl

theorem handshakes_record (o : Occurrence) :
    (s.record o).handshakes = s.handshakes ++ if o.isHandshake then [o] else [] := by
  cases h : o.isHandshake <;> simp [handshakes, record, h]

/-- Commands that are about nobody's consent. -/
theorem handshakes_sendAllVia {cs : List Command}
    (h : ∀ c ∈ cs, c.isHandshake = false) :
    (s.sendAllVia line cs).1.handshakes = s.handshakes ∧ (s.sendAllVia line cs).1.desk = s.desk := by
  obtain ⟨taken, hinitial, htaken⟩ := sendAllVia_fst line s cs
  have hnone : (taken.map Occurrence.commanded).filter Occurrence.isHandshake = [] := by
    refine List.filter_eq_nil_iff.2 fun o ho => ?_
    obtain ⟨c, hc, rfl⟩ := List.mem_map.1 ho
    simp [Occurrence.isHandshake, h c (hinitial.subset hc)]
  rw [htaken]
  exact ⟨by rw [handshakes, List.filter_append, hnone, List.append_nil]; rfl, rfl⟩

end Session

/-- Publishing is about nobody's consent. -/
theorem AccountMode.publishCommands_quiet {mode : AccountMode} {requested current : Status}
    {message : String} {cs : List Command}
    (h : mode.publishCommands requested current message = .ok cs) :
    ∀ c ∈ cs, c.isHandshake = false := by
  unfold publishCommands at h
  cases hmask : mode.encode requested with
  | error f =>
    rw [hmask] at h
    cases h
  | ok mask =>
    rw [hmask] at h
    cases mode with
    | extended =>
      cases h
      simp [Command.isHandshake]
    | basic =>
      cases requested with
      | away | invisible =>
        cases h
        split <;> simp [Command.isHandshake]
      | online =>
        simp only [bind, Except.bind] at h
        split at h
        · cases h
          simp [Command.isHandshake]
        · split at h <;> cases h <;> simp [Command.isHandshake]
      | _ => cases h

namespace Session

variable (line : Line) (s : Session)

theorem publishVia_handshakes (requested : Status) (message : String) :
    (s.publishVia line requested message).1.handshakes = s.handshakes ∧
      (s.publishVia line requested message).1.desk = s.desk := by
  unfold publishVia
  split
  · exact ⟨rfl, rfl⟩
  · split
    · exact ⟨rfl, rfl⟩
    · exact ⟨rfl, rfl⟩
    · next commands hcommands =>
      have hsent := handshakes_sendAllVia line s (AccountMode.publishCommands_quiet hcommands)
      split
      · next hsend => rwa [hsend] at hsent
      · next t hsend =>
        rw [hsend] at hsent
        have hask := ledger_ask t t.localIdentifier
        have hboth := And.intro ((handshakes_of_ledger hask).trans hsent.1)
          ((desk_of_ledger hask).trans hsent.2)
        split <;> next h => rwa [h] at hboth

theorem petitionVia_exchange (c : Contact) :
    (s.petitionVia line c).1.handshakes =
        s.handshakes ++ (s.petitioning line c.identifier).elim [] Exchange.occurrences ∧
      (s.petitionVia line c).1.desk = s.desk ∧
      (s.petitionVia line c).2 = (s.petitioning line c.identifier).any Exchange.requested := by
  unfold petitionVia petitioning
  cases s.desk.policy? with
  | none => simp
  | some policy =>
    cases hout : policy.outgoing with
    | none =>
      simp [hout, handshakes_record, Occurrence.isHandshake, Exchange.occurrences, Exchange.requested]
    | some p =>
      simp only [Option.map_some, hout, Option.any_some, Option.elim_some, Exchange.occurrences,
        Exchange.requested, sendAllVia, sendVia]
      cases hgrant : line (s.record (.drafted s.desk.earlier c.identifier (some p)))
          (.grantFutureAuthorization c.identifier p.reason) with
      | false => simp [handshakes_record, Occurrence.isHandshake]
      | true =>
        cases hrequest : line ((s.record (.drafted s.desk.earlier c.identifier (some p))).record
            (.commanded (.grantFutureAuthorization c.identifier p.reason)))
            (.requestAuthorization c.identifier p.reason) <;>
          simp [hrequest, handshakes_record, Occurrence.isHandshake, Command.isHandshake]

theorem authorizationRequiredVia_exchange (x : String) (parent : Option String) :
    (s.authorizationRequiredVia line x parent).1.handshakes =
        s.handshakes ++ (s.requiring line x parent).elim [] Exchange.occurrences ∧
      (s.authorizationRequiredVia line x parent).1.desk = s.desk ∧
      (s.authorizationRequiredVia line x parent).2 =
        (s.requiring line x parent).any Exchange.requested := by
  unfold authorizationRequiredVia requiring
  cases hx : s.list.contact? x with
  | some c =>
    obtain rfl := ContactList.identifier_of_contact? hx
    exact petitionVia_exchange line s c
  | none =>
    have hpark := ledger_park s x parent
    rw [park_of_unknown hx] at hpark ⊢
    by_cases hg : (s.list.group? (s.home parent).name).isSome
    · simp only [hg, if_true] at hpark ⊢
      have hpetition := petitionVia_exchange line { s with
        list := s.awaitingList.addMember (.parked x (s.home parent).name) s.awaitingGroup.name
        trace := s.trace ++ s.awaitingNews ++ s.deliveries
          (.moved ⟨.parked x (s.home parent).name, s.home parent, s.awaitingGroup⟩) }
        (.parked x (s.home parent).name)
      rw [handshakes_of_ledger hpark, desk_of_ledger hpark] at hpetition
      exact hpetition
    · simp [hg]

theorem authorizationRequestedVia_exchange (x : String) :
    (s.authorizationRequestedVia line x).handshakes =
        s.handshakes ++ (s.answering line x).elim [] Exchange.occurrences ∧
      (s.authorizationRequestedVia line x).desk = s.desk := by
  have hledger : (s.greeting x).ledger = s.ledger := by
    unfold greeting
    split <;> rfl
  have hdesk := desk_of_ledger hledger
  rw [authorizationRequestedVia_eq, answerVia, answering, hdesk, ← handshakes_of_ledger hledger]
  cases s.desk.policy? with
  | none => simp [hdesk]
  | some policy =>
    simp only [Option.map_some, Option.elim_some, Exchange.occurrences, sendAllVia, sendVia]
    by_cases hv : policy.incoming.verdict = .ignore
    · simp [hv, hdesk, handshakes_record, Occurrence.isHandshake]
    · cases hline : line ((s.greeting x).record (.decided s.desk.earlier x policy.incoming))
          (.authorizationReply x (policy.incoming.verdict = .accept) policy.incoming.reason) <;>
        simp [hv, hdesk, handshakes_record, Occurrence.isHandshake, Command.isHandshake]

/-- What is not in the ledger is no exchange. -/
theorem exchange_of_ledger {t : Session} (h : t.ledger = s.ledger) :
    t.handshakes = s.handshakes ++ (none : Option Exchange).elim [] Exchange.occurrences ∧
      t.desk = s.desk :=
  ⟨(handshakes_of_ledger h).trans (List.append_nil _).symm, desk_of_ledger h⟩

theorem handleVia_exchange (e : ServerEvent) :
    (s.handleVia line e).handshakes =
        s.handshakes ++ (s.replying line e).elim [] Exchange.occurrences ∧
      (s.handleVia line e).desk = s.desk := by
  cases e with
  | authorizationRequestReceived x reason => exact authorizationRequestedVia_exchange line s x
  | _ => exact exchange_of_ledger s (ledger_handle s rfl)

/-- A step makes its exchange, and nothing else of the kind. -/
theorem actVia_exchange (step : Step) :
    (s.actVia line step).1.handshakes =
        s.handshakes ++ (s.exchange? line step).elim [] Exchange.occurrences ∧
      (s.actVia line step).1.desk = step.redesk s.desk := by
  cases step with
  | emit e =>
    simp only [actVia, exchange?]
    split
    · exact handleVia_exchange line s e
    · exact exchange_of_ledger s rfl
  | handle e => exact handleVia_exchange line s e
  | requireAuthorization x parent =>
    simp only [actVia, exchange?]
    have hrequired := authorizationRequiredVia_exchange line s x parent
    split
    · exact ⟨hrequired.1, hrequired.2.1⟩
    · exact exchange_of_ledger s rfl
  | authorizationRequired x parent =>
    have hrequired := authorizationRequiredVia_exchange line s x parent
    exact ⟨hrequired.1, hrequired.2.1⟩
  | publish status message =>
    have hpublished := publishVia_handshakes line s status message
    have hcompleted := ledger_complete (s.publishVia line status message)
    refine ⟨?_, (desk_of_ledger hcompleted).trans hpublished.2⟩
    exact ((handshakes_of_ledger hcompleted).trans hpublished.1).trans (List.append_nil _).symm
  | setStatusMessage message =>
    rw [actVia, done_fst, setStatusMessageVia]
    split
    · exact exchange_of_ledger s rfl
    · have hquiet : ∀ c ∈ [Command.setStatusMessage message], c.isHandshake = false := by
        simp [Command.isHandshake]
      have hsent := handshakes_sendAllVia line s hquiet
      exact ⟨hsent.1.trans (List.append_nil _).symm, hsent.2⟩
  | setIncoming | setOutgoing | replacePolicy => exact ⟨(List.append_nil _).symm, rfl⟩
  | _ => exact exchange_of_ledger s (ledger_act s rfl)

theorem performVia_exchange (step : Step) :
    (s.performVia line step).1.handshakes =
        s.handshakes ++ (s.exchange? line step).elim [] Exchange.occurrences ∧
      (s.performVia line step).1.desk = step.redesk s.desk := by
  have hsettled := ledger_settle (s.actVia line step).1
  have hact := actVia_exchange line s step
  exact ⟨(handshakes_of_ledger hsettled).trans hact.1, (desk_of_ledger hsettled).trans hact.2⟩

variable {s}

theorem runVia_exchanges (moves : List (Line × Step)) :
    (s.runVia moves).handshakes = s.handshakes ++ (s.exchanges moves).flatMap Exchange.occurrences ∧
      (s.runVia moves).desk = moves.foldl (fun d move => move.2.redesk d) s.desk := by
  induction moves generalizing s with
  | nil => exact ⟨(List.append_nil _).symm, rfl⟩
  | cons move moves ih =>
    obtain ⟨line, step⟩ := move
    have hstep := performVia_exchange line s step
    obtain ⟨hhandshakes, hdesk⟩ := ih (s := (s.performVia line step).1)
    refine ⟨?_, hdesk.trans (by rw [hstep.2]; rfl)⟩
    rw [exchanges, List.flatMap_append, ← List.append_assoc]
    refine hhandshakes.trans ?_
    rw [hstep.1]
    cases s.exchange? line step <;> simp

variable {line}

theorem policy?_eq_some {d : Desk} {policy : Policy} (h : d.policy? = some policy) :
    d.installed = true ∧ d.policy = policy := by
  simpa [Desk.policy?] using h

theorem madeBy_of_answering {x : String} {e : Exchange} (h : s.answering line x = some e) :
    e.MadeBy s.desk := by
  obtain ⟨policy, hpolicy, rfl⟩ := Option.map_eq_some_iff.1 h
  obtain ⟨installed, rfl⟩ := policy?_eq_some hpolicy
  exact .answered x installed fun hreplied => (of_decide_eq_true hreplied).1

theorem madeBy_of_petitioning {x : String} {e : Exchange} (h : s.petitioning line x = some e) :
    e.MadeBy s.desk := by
  obtain ⟨policy, hpolicy, rfl⟩ := Option.map_eq_some_iff.1 h
  obtain ⟨installed, rfl⟩ := policy?_eq_some hpolicy
  refine .petitioned x installed (fun hgranted => ?_) fun hrequested => (Bool.and_eq_true_iff.1 hrequested).1
  obtain ⟨p, hp, -⟩ := (Option.any_eq_true ..).1 hgranted
  rw [hp]
  rfl

theorem madeBy_of_requiring {x : String} {parent : Option String} {e : Exchange}
    (h : s.requiring line x parent = some e) : e.MadeBy s.desk := by
  unfold requiring at h
  split at h
  · exact madeBy_of_petitioning h
  · have hpark := desk_of_ledger (ledger_park s x parent)
    split at h
    · next t _ ht =>
      rw [ht] at hpark
      exact hpark ▸ madeBy_of_petitioning h
    · cases h

theorem madeBy_of_replying {event : ServerEvent} {e : Exchange} (h : s.replying line event = some e) :
    e.MadeBy s.desk := by
  cases event with
  | authorizationRequestReceived x reason => exact madeBy_of_answering h
  | _ => cases h

theorem madeBy_of_exchange? {step : Step} {e : Exchange} (h : s.exchange? line step = some e) :
    e.MadeBy s.desk := by
  cases step with
  | emit event =>
    simp only [exchange?, Option.ite_none_right_eq_some] at h
    exact madeBy_of_replying h.2
  | handle event => exact madeBy_of_replying h
  | requireAuthorization x parent =>
    simp only [exchange?, Option.ite_none_right_eq_some] at h
    exact madeBy_of_requiring h.2
  | authorizationRequired x parent => exact madeBy_of_requiring h
  | _ => cases h

theorem exists_madeBy_of_mem_exchanges (moves : List (Line × Step)) :
    ∀ e ∈ s.exchanges moves, ∃ d, e.MadeBy d := by
  induction moves generalizing s with
  | nil => nofun
  | cons move moves ih =>
    obtain ⟨line, step⟩ := move
    intro e he
    rcases List.mem_append.1 he with he | he
    · exact ⟨s.desk, madeBy_of_exchange? (Option.mem_toList.1 he)⟩
    · exact ih e he

theorem exchanges_append (moves more : List (Line × Step)) :
    s.exchanges (moves ++ more) = s.exchanges moves ++ (s.runVia moves).exchanges more := by
  induction moves generalizing s with
  | nil => rfl
  | cons move moves ih =>
    obtain ⟨line, step⟩ := move
    rw [List.cons_append, exchanges, ih, exchanges, List.append_assoc]
    rfl

/-- On any line, the handshakes of a run are its exchanges, one after another, and no command among them
is sent without the consent that it tells. Each exchange is made by one step, with the application as it is
then, with all that it was told to do since; and who requires authorization learns whether a petition was
sent in full. -/
theorem handshakes_follow_consent (s : Session) (moves : List (Line × Step)) :
    (s.runVia moves).handshakes = s.handshakes ++ (s.exchanges moves).flatMap Exchange.occurrences ∧
    Consented ((s.exchanges moves).flatMap Exchange.occurrences) ∧
    ∀ before line step after, moves = before ++ (line, step) :: after →
      let t := s.runVia before
      s.exchanges moves = s.exchanges before ++ (t.exchange? line step).toList ++
        (t.performVia line step).1.exchanges after ∧
      (∀ e, t.exchange? line step = some e → e.MadeBy t.desk) ∧
      t.desk = before.foldl (fun d move => move.2.redesk d) s.desk ∧
      ∀ x parent, step = .authorizationRequired x parent →
        (t.performVia line step).2 = .flag ((t.exchange? line step).any Exchange.requested) := by
  refine ⟨(runVia_exchanges moves).1, consented_flatMap (exists_madeBy_of_mem_exchanges moves), ?_⟩
  rintro before line step after rfl t
  refine ⟨?_, fun e he => madeBy_of_exchange? he, (runVia_exchanges before).2, ?_⟩
  · rw [exchanges_append, exchanges, List.append_assoc]
  · rintro x parent rfl
    exact congrArg Outcome.flag (authorizationRequiredVia_exchange line t x parent).2.2

/-- Of two petitions the line takes only the grant of the first; a stranger is accepted, and another one
ignored by the next policy. -/
theorem handshakes_of_faulty_line :
    let s : Session := { settings := {}, localIdentifier := "12345", list := .ofRoot "root" }
    let faulty : Line := fun _ c => c matches .grantFutureAuthorization ..
    let moves : List (Line × Step) :=
      [(faulty, .authorizationRequired "777" none), (.plain, .handle (.authorizationRequestReceived "888" "")),
        (.plain, .setIncoming .ignore), (.plain, .handle (.authorizationRequestReceived "999" ""))]
    (s.runVia moves).handshakes =
        [.drafted 0 "777" (some ⟨"Please add me"⟩),
          .commanded (.grantFutureAuthorization "777" "Please add me"),
          .decided 0 "888" .accept, .commanded (.authorizationReply "888" true none),
          .decided 0 "999" .ignore] ∧
      (s.performVia faulty (.authorizationRequired "777" none)).2 = .flag false := by
  intro s faulty moves
  obtain ⟨hhandshakes, -, hsteps⟩ := handshakes_follow_consent s moves
  refine ⟨hhandshakes.trans (by decide +kernel), ?_⟩
  exact ((hsteps [] faulty _ _ rfl).2.2.2 "777" none rfl).trans (by decide +kernel)

end Session

end Roster
