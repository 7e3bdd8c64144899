import Roster.Session.Presence
import Roster.Session.Subscription

/-! The authorization handshake. A contact that asks to be asked is parked in the awaiting group,
remembers the group it belongs to, and goes back there when it accepts. -/

namespace Roster.Session

/-- Adds an unknown contact to its group and moves it on to the awaiting group. -/
def park (s : Session) (identifier : String) (parent : Option String) :
    Session × Except Failure Contact :=
  let parent := (parent.bind s.list.group?).getD s.list.rootGroup
  match s.list.createUnresolved parent.name identifier none with
  | .error f => (s, .error f)
  | .ok (list, contact) =>
    let contact :=
      { contact with awaitingAuthorization := true, structuralParent := some parent.name }
    match list.update contact with
    | .error f => ({ s with list := list }, .error f)
    | .ok list =>
      let (s, awaiting) := { s with list := list }.ensureAwaitingGroup
      match s.list.relocate identifier awaiting.name with
      | .error f => (s, .error f)
      | .ok list =>
        ({ s with list := list }.announce (.moved ⟨contact, parent, awaiting⟩), .ok contact)

/-- Takes a contact out of the awaiting group, back to where it belongs. -/
def release (s : Session) (contact : Contact) : Session × Except Failure Contact :=
  let awaiting :=
    (s.list.parentGroup? contact.identifier).filter (·.name = s.settings.awaitingGroup)
  let released :=
    { contact with awaitingAuthorization := false, resolved := true, structuralParent := none }
  match s.list.update released with
  | .error f => (s, .error f)
  | .ok list =>
    let s := { s with list := list }
    match awaiting with
    | none => (s, .ok released)
    | some awaiting =>
      let origin := (contact.structuralParent.bind s.list.group?).getD s.list.rootGroup
      match s.list.relocate contact.identifier origin.name with
      | .error f => (s, .error f)
      | .ok list =>
        ({ s with list := list }.announce (.moved ⟨released, awaiting, origin⟩), .ok released)

/-- Asks the application for a petition and sends it. Our own consent goes first, so that the
contact need not ask in turn. -/
def petition (s : Session) (contact : Contact) : Session × Bool :=
  match s.desk.policy? with
  | none => (s, false)
  | some policy =>
    let s := s.record (.drafted s.desk.earlier contact.identifier policy.outgoing)
    match policy.outgoing with
    | none => (s, false)
    | some petition =>
      match s.sendAll [.grantFutureAuthorization contact.identifier petition.reason,
          .requestAuthorization contact.identifier petition.reason] with
      | (s, .ok ()) => (s, true)
      | (s, .error _) => (s, false)

/-- The server wants a contact to be asked before it is added. Tells whether it was asked. -/
def authorizationRequired (s : Session) (identifier : String) (parent : Option String) :
    Session × Bool :=
  match s.list.contact? identifier with
  | some contact => s.petition contact
  | none =>
    match s.park identifier parent with
    | (s, .ok contact) => s.petition contact
    | (s, .error _) => (s, false)

/-- Somebody asks us. -/
def authorizationRequested (s : Session) (identifier : String) : Session :=
  let (s, contact) := match s.list.contact? identifier with
    | some contact => (s, contact)
    | none => s.createVolatileContact identifier
  match s.desk.policy? with
  | none => s
  | some policy =>
    let decision := policy.incoming
    let s := s.record (.decided s.desk.earlier contact.identifier decision)
    match decision.verdict with
    | .ignore => s
    | verdict =>
      (s.sendAll [.authorizationReply identifier (verdict = .accept) decision.reason]).1

/-- Tells the application how a contact decided. -/
def inform (s : Session) (contact : Contact) (outcome : Decision) : Session :=
  match s.desk.policy? with
  | none => s
  | some _ => s.record (.informed s.desk.earlier contact.identifier outcome)

/-- A contact has accepted. -/
def authorizationAccepted (s : Session) (identifier : String) (reason : Option String) :
    Session :=
  match s.list.contact? identifier with
  | none => s
  | some contact =>
    match s.release contact with
    | (s, .ok contact) => s.inform contact ⟨.accept, reason⟩
    | (s, .error _) => s

/-- A contact has refused, and is removed. -/
def authorizationDenied (s : Session) (identifier : String) (reason : Option String) : Session :=
  match s.list.contact? identifier with
  | none => s
  | some contact => ((s.inform contact ⟨.reject, reason⟩).unsubscribe identifier).1

/-- Takes in what the server says unasked. -/
def handle (s : Session) : ServerEvent → Session
  | .ownInfo info => (s.ownInfo info).1
  | .ownExtraInfo message => (s.ownMessage message).1
  | .buddyStatus info => (s.buddyStatus info).1
  | .buddyOffline identifier => (s.buddyOffline identifier).1
  | .buddyIcon identifier icon => s.buddyIcon identifier icon
  | .authorizationRequestReceived identifier _ => s.authorizationRequested identifier
  | .authorizationAccepted identifier reason => s.authorizationAccepted identifier reason
  | .authorizationDenied identifier reason => s.authorizationDenied identifier reason
  | .futureAuthorizationGranted .. => s
  | .youWereAdded _ => s

end Roster.Session
