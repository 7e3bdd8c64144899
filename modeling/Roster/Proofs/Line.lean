import Roster.Session.Step
import Roster.Proofs.Entries

/-! A session on a line that takes some commands and not others, one by one. The line may go by all that
has happened so far. A server that refuses all commands or none is such a line, and a session on it is the
session as it is. -/

namespace Roster

/-- Whether a command is taken, by the session that sends it. -/
abbrev Line := Session → Command → Bool

/-- The line to a server that refuses all commands or none. -/
def Line.plain : Line := fun s _ => !s.server.refusesCommands

namespace Session

def sendVia (line : Line) (s : Session) (c : Command) : Except Failure Session :=
  if line s c then .ok (s.record (.commanded c))
  else .error (.brokenDown .network "command rejected")

/-- Sends commands up to the first that is refused. -/
def sendAllVia (line : Line) (s : Session) : List Command → Session × Except Failure Unit
  | [] => (s, .ok ())
  | c :: cs =>
    match s.sendVia line c with
    | .ok s => s.sendAllVia line cs
    | .error f => (s, .error f)

def publishVia (line : Line) (s : Session) (requested : Status) (message : String) :
    Session × (Outcome ⊕ Work) :=
  if !s.server.registered then (s, .inl (.failed .notConnected))
  else
    match s.settings.mode.publishCommands requested s.status message with
    | .error (.unsupportedStatus status) =>
      (s, .inl (.failed (.invalidArgument (.unpublishable status))))
    | .error f => (s, .inl (.failed f))
    | .ok commands =>
      match s.sendAllVia line commands with
      | (s, .error f) => (s, .inl (.failed f))
      | (s, .ok ()) =>
        match s.ask s.localIdentifier with
        | (s, .inl _) => (s, .inl .done)
        | (s, .inr wait) => (s, .inr (.publish wait))

def setStatusMessageVia (line : Line) (s : Session) (message : String) :
    Session × Except Failure Unit :=
  if !s.server.registered then (s, .error .notConnected)
  else s.sendAllVia line [.setStatusMessage message]

def petitionVia (line : Line) (s : Session) (contact : Contact) : Session × Bool :=
  match s.desk.policy? with
  | none => (s, false)
  | some policy =>
    let s := s.record (.drafted s.desk.earlier contact.identifier policy.outgoing)
    match policy.outgoing with
    | none => (s, false)
    | some petition =>
      match s.sendAllVia line [.grantFutureAuthorization contact.identifier petition.reason,
          .requestAuthorization contact.identifier petition.reason] with
      | (s, .ok ()) => (s, true)
      | (s, .error _) => (s, false)

def authorizationRequiredVia (line : Line) (s : Session) (identifier : String)
    (parent : Option String) : Session × Bool :=
  match s.list.contact? identifier with
  | some contact => s.petitionVia line contact
  | none =>
    match s.park identifier parent with
    | (s, .ok contact) => s.petitionVia line contact
    | (s, .error _) => (s, false)

def authorizationRequestedVia (line : Line) (s : Session) (identifier : String) : Session :=
  let (s, contact) := match s.list.contact? identifier with
    | some contact => (s, contact)
    | none => s.createVolatileContact identifier
  match s.desk.policy? with
  | none => s
  | some policy =>
    let decision := policy.incoming
    let s := s.record (.decided s.desk.earlier contact.identifier decision)
    match decision.verdict with
    | .ignore => s
    | verdict =>
      (s.sendAllVia line
        [.authorizationReply identifier (verdict = .accept) decision.reason]).1

def handleVia (line : Line) (s : Session) : ServerEvent → Session
  | .authorizationRequestReceived identifier _ => s.authorizationRequestedVia line identifier
  | event => s.handle event

/-- What a step does on a line. No other step sends a command. -/
def actVia (line : Line) (s : Session) : Step → Session × Outcome
  | .emit event =>
    if s.server.attached then (s.handleVia line event, .flag true) else (s, .flag false)
  | .handle event => (s.handleVia line event, .nothing)
  | .requireAuthorization identifier parent =>
    if s.server.attached then flagged (s.authorizationRequiredVia line identifier parent)
    else (s, .nothing)
  | .authorizationRequired identifier parent =>
    flagged (s.authorizationRequiredVia line identifier parent)
  | .publish status message => complete (s.publishVia line status message)
  | .setStatusMessage message => done (s.setStatusMessageVia line message)
  | step => s.act step

def performVia (line : Line) (s : Session) (step : Step) : Session × Outcome :=
  let (s, outcome) := s.actVia line step
  (s.settle, outcome)

/-- The session after some steps, each on a line of its own. -/
def runVia (s : Session) (moves : List (Line × Step)) : Session :=
  moves.foldl (fun s move => (s.performVia move.1 move.2).1) s

theorem runVia_concat (s : Session) (moves : List (Line × Step)) (line : Line) (step : Step) :
    s.runVia (moves ++ [(line, step)]) = ((s.runVia moves).performVia line step).1 := by
  rw [runVia, List.foldl_append]
  rfl

/-- Something holds all the way on a line: before every move, and after the last. -/
def ThroughoutVia (P : Session → Prop) (s : Session) (moves : List (Line × Step)) : Prop :=
  ∀ before, before <+: moves → P (s.runVia before)

/-- Something is true of no move where it is made. -/
def NeverVia (q : Line → Session → Step → Bool) (s : Session) (moves : List (Line × Step)) : Prop :=
  ∀ before line step, before ++ [(line, step)] <+: moves → q line (s.runVia before) step = false

section Moves

variable {P : Session → Prop} {q : Line → Session → Step → Bool} {s : Session}
  {move : Line × Step} {moves : List (Line × Step)}

theorem neverVia_nil (q : Line → Session → Step → Bool) (s : Session) : s.NeverVia q [] :=
  fun before line step hb => by simp at hb

theorem neverVia_cons : s.NeverVia q (move :: moves) ↔
    q move.1 s move.2 = false ∧ (s.performVia move.1 move.2).1.NeverVia q moves := by
  constructor
  · intro h
    exact ⟨h [] move.1 move.2 (by simp),
      fun before line step hb => h (move :: before) line step (by simpa using hb)⟩
  · rintro ⟨hnow, hlater⟩ before line step hb
    rcases before with _ | ⟨first, rest⟩
    · obtain rfl : (line, step) = move := by simpa using hb
      exact hnow
    · obtain ⟨rfl, hrest⟩ : first = move ∧ rest ++ [(line, step)] <+: moves := by simpa using hb
      exact hlater rest line step hrest

end Moves

section Sending

/-- The session with whoever asks in its list. -/
def greeting (s : Session) (x : String) : Session :=
  if (s.list.contact? x).isSome then s else (s.createVolatileContact x).1

/-- What somebody who asks us is answered on a line. -/
def answerVia (line : Line) (s : Session) (x : String) : Session :=
  match s.desk.policy? with
  | none => s
  | some policy =>
    let decided := s.record (.decided s.desk.earlier x policy.incoming)
    if policy.incoming.verdict = .ignore then decided
    else (decided.sendAllVia line [.authorizationReply x (policy.incoming.verdict = .accept)
      policy.incoming.reason]).1

variable (line : Line) (s : Session)

/-- What is taken of some commands. -/
theorem sendAllVia_fst (cs : List Command) : ∃ taken, taken <+: cs ∧
    (s.sendAllVia line cs).1 = { s with trace := s.trace ++ taken.map Occurrence.commanded } := by
  induction cs generalizing s with
  | nil => exact ⟨[], List.prefix_refl _, by simp [sendAllVia]⟩
  | cons c cs ih =>
    cases hline : line s c with
    | false => exact ⟨[], List.nil_prefix, by simp [sendAllVia, sendVia, hline]⟩
    | true =>
      obtain ⟨taken, hinitial, htaken⟩ := ih (s.record (.commanded c))
      refine ⟨c :: taken, List.cons_prefix_cons.2 ⟨rfl, hinitial⟩, ?_⟩
      simp only [sendAllVia, sendVia, hline, if_true, htaken]
      simp [record]

theorem authorizationRequestedVia_eq (x : String) :
    s.authorizationRequestedVia line x = (s.greeting x).answerVia line x := by
  have hdesk : (s.createVolatileContact x).1.desk.policy? = s.desk.policy? := rfl
  have hnew : (s.createVolatileContact x).2.identifier = x := rfl
  unfold authorizationRequestedVia greeting answerVia
  cases hx : s.list.contact? x with
  | some c =>
    have hc := ContactList.identifier_of_contact? hx
    cases hp : s.desk.policy? with
    | none => simp [hp]
    | some policy => cases hv : policy.incoming.verdict <;> simp [hp, hv, hc]
  | none =>
    cases hp : s.desk.policy? with
    | none => simp [hdesk, hp]
    | some policy => cases hv : policy.incoming.verdict <;> simp [hdesk, hp, hv, hnew]

end Sending

theorem sendVia_plain (s : Session) (c : Command) : s.sendVia .plain c = s.send c := by
  cases h : s.server.refusesCommands <;> simp [sendVia, send, Line.plain, h]

@[simp] theorem sendAllVia_plain : sendAllVia .plain = sendAll := by
  funext s cs
  induction cs generalizing s with
  | nil => rfl
  | cons c cs ih =>
    simp only [sendAllVia, sendAll, sendVia_plain]
    cases s.send c with
    | ok t => exact ih t
    | error f => rfl

theorem petitionVia_plain (s : Session) (c : Contact) : s.petitionVia .plain c = s.petition c := by
  rw [petitionVia, sendAllVia_plain]
  rfl

theorem authorizationRequiredVia_plain (s : Session) (x : String) (parent : Option String) :
    s.authorizationRequiredVia .plain x parent = s.authorizationRequired x parent := by
  simp only [authorizationRequiredVia, petitionVia_plain]
  rfl

theorem handleVia_plain (s : Session) (e : ServerEvent) : s.handleVia .plain e = s.handle e := by
  cases e with
  | authorizationRequestReceived x reason =>
    rw [handleVia, authorizationRequestedVia, sendAllVia_plain]
    rfl
  | _ => rfl

theorem actVia_plain (s : Session) (step : Step) : s.actVia .plain step = s.act step := by
  cases step with
  | emit | handle => simp only [actVia, act, handleVia_plain]
  | requireAuthorization | authorizationRequired =>
    simp only [actVia, act, authorizationRequiredVia_plain]
  | publish =>
    rw [actVia, publishVia, sendAllVia_plain]
    rfl
  | setStatusMessage =>
    simp only [actVia, act, setStatusMessageVia, setStatusMessage, sendAllVia_plain]
  | _ => rfl

/-- On the plain line a run is the run. -/
theorem runVia_plain (s : Session) (steps : List Step) :
    s.runVia (steps.map (Line.plain, ·)) = s.run steps := by
  simp only [runVia, run, performVia, perform, List.foldl_map, actVia_plain]

end Session

end Roster
