import Roster.Session.Clock
import Roster.Session.Handshake
import Roster.Session.Registration

/-! The steps of a session: what can happen to it from the outside, and what comes of it. -/

namespace Roster

/-- One thing that happens to a session. The first few script the parties it works with. -/
inductive Step
  | setRegistered (value : Bool)
  | refuseCommands (value : Bool)
  | refuseListChanges (value : Bool)
  | failReRequests (value : Bool)
  /-- For one identifier, or for all that have no answer of their own. -/
  | setAnswer (identifier : Option String) (answer : Answer)
  | deliver (response : Response)
  | setIncoming (decision : Decision)
  | setOutgoing (petition : Option Petition)
  | replacePolicy
  | addListener (listener : Listener) (channels : List Channel)
  | removeListener (listener : Listener) (channels : List Channel)
  | registrationChanged (new : Registration)
  /-- By the connection, which has to be attached. -/
  | emit (event : ServerEvent)
  | handle (event : ServerEvent)
  | requireAuthorization (identifier : String) (parent : Option String)
  | authorizationRequired (identifier : String) (parent : Option String)
  | ownInfo (info : UserInfo)
  | ownMessage (message : Option String)
  | buddyStatus (info : UserInfo)
  | buddyOffline (identifier : String)
  | publish (status : Status) (message : String)
  | setStatusMessage (message : String)
  | subscribe (identifier : String)
  | subscribeIn (group identifier : String)
  | unsubscribe (identifier : String)
  | moveContact (identifier group : String)
  | createGroup (parent name : String)
  | removeGroup (name : String)
  | renameGroup (name newName : String)
  | query (identifier : String)
  | queryMask (identifier : String)
  | createUnresolvedContact (identifier : String) (data parent : Option String)
  | createUnresolvedGroup (name : String)
  | createVolatileContact (identifier : String)
  | ensureAwaitingGroup
  | poll
  | spawnPoll (task : String)
  | spawnQuery (task identifier : String)
  | join (task : String)
  | advance (ms : Nat)
  | relocate (identifier group : String)
  | update (contact : Contact)
  | detach (identifier : String)
  | addContact (group : Option String) (identifier : String)
  | deleteContact (group identifier : String)
  | shiftContact (identifier group : String)
  | storeGroup (name : String)
  | dropGroup (name : String)
  | retitleGroup (name newName : String)
  | setStatus (identifier : String) (status : Status)
  | setImage (identifier : String) (image : Option (List UInt8))
  | createUnresolved (group identifier : String) (data : Option String)
  /-- Nothing but what is due anyway. -/
  | rest
  deriving DecidableEq, Repr

namespace Session

def outcomeOf {α : Type} (f : α → Outcome) (r : Session × Except Failure α) : Session × Outcome :=
  match r with
  | (s, .ok a) => (s, f a)
  | (s, .error e) => (s, .failed e)

def done : Session × Except Failure Unit → Session × Outcome := outcomeOf fun _ => .done

/-- A change of the list alone, which keeps the list as it was if it fails. -/
def editList (s : Session) (r : Except Failure ContactList) : Session × Outcome :=
  match r with
  | .ok list => ({ s with list := list }, .done)
  | .error f => (s, .failed f)

def flagged (r : Session × Bool) : Session × Outcome := (r.1, .flag r.2)

def replacePolicy (s : Session) : Session :=
  { s with desk := ⟨{}, s.desk.earlier + 1, true⟩ }

/-- What a step does, before anything that is due because of it. -/
def act (s : Session) : Step → Session × Outcome
  | .setRegistered b => ({ s with server := { s.server with registered := b } }, .nothing)
  | .refuseCommands b => ({ s with server := { s.server with refusesCommands := b } }, .nothing)
  | .refuseListChanges b => ({ s with keeper := { s.keeper with refuses := b } }, .nothing)
  | .failReRequests b => ({ s with reRequestsFail := b }, .nothing)
  | .setAnswer (some identifier) answer =>
    ({ s with server := { s.server with
      answers := (identifier, answer) :: s.server.answers } }, .nothing)
  | .setAnswer none answer =>
    ({ s with server := { s.server with defaultAnswer := answer } }, .nothing)
  | .deliver response => let (s, n) := s.deliver response; (s, .count n)
  | .setIncoming decision =>
    ({ s with desk := { s.desk with policy := { s.desk.policy with incoming := decision } } },
      .nothing)
  | .setOutgoing petition =>
    ({ s with desk := { s.desk with policy := { s.desk.policy with outgoing := petition } } },
      .nothing)
  | .replacePolicy => (s.replacePolicy, .nothing)
  | .addListener l channels =>
    ({ s with hub := channels.foldl (fun h c => (h.add c l).1) s.hub }, .nothing)
  | .removeListener l channels =>
    ({ s with hub := channels.foldl (fun h c => (h.remove c l).1) s.hub }, .nothing)
  | .registrationChanged new => (s.registrationChanged new, .nothing)
  | .emit event =>
    if s.server.attached then (s.handle event, .flag true) else (s, .flag false)
  | .handle event => (s.handle event, .nothing)
  | .requireAuthorization identifier parent =>
    if s.server.attached then flagged (s.authorizationRequired identifier parent) else (s, .nothing)
  | .authorizationRequired identifier parent => flagged (s.authorizationRequired identifier parent)
  | .ownInfo info => flagged (s.ownInfo info)
  | .ownMessage message => flagged (s.ownMessage message)
  | .buddyStatus info => flagged (s.buddyStatus info)
  | .buddyOffline identifier => flagged (s.buddyOffline identifier)
  | .publish status message => complete (s.publish status message)
  | .setStatusMessage message => done (s.setStatusMessage message)
  | .subscribe identifier => done (s.subscribe identifier)
  | .subscribeIn group identifier => done (s.subscribeIn group identifier)
  | .unsubscribe identifier => done (s.unsubscribe identifier)
  | .moveContact identifier group => done (s.moveContact identifier group)
  | .createGroup parent name => done (s.createGroup parent name)
  | .removeGroup name => done (s.removeGroup name)
  | .renameGroup name newName => done (s.renameGroup name newName)
  | .query identifier => complete (s.query identifier)
  | .queryMask identifier => complete (s.queryMask identifier)
  | .createUnresolvedContact identifier data parent =>
    outcomeOf .contact (s.createUnresolvedContact identifier data parent)
  | .createUnresolvedGroup name => let (s, g) := s.createUnresolvedGroup name; (s, .group g)
  | .createVolatileContact identifier =>
    let (s, c) := s.createVolatileContact identifier; (s, .contact c)
  | .ensureAwaitingGroup => let (s, g) := s.ensureAwaitingGroup; (s, .group g)
  | .poll => complete s.beginPoll
  | .spawnPoll task => (addTask (.background task) s.beginPoll, .nothing)
  | .spawnQuery task identifier => (addTask (.background task) (s.query identifier), .nothing)
  | .join task =>
    let s := s.await (.background task)
    (s, (s.outcome? (.background task)).getD .nothing)
  | .advance ms => (s.advance ms, .nothing)
  | .relocate identifier group => s.editList (s.list.relocate identifier group)
  | .update contact => s.editList (s.list.update contact)
  | .detach identifier => s.editList (s.list.detach identifier)
  | .addContact group identifier => done (s.addContact group identifier)
  | .deleteContact group identifier => done (s.deleteContact group identifier)
  | .shiftContact identifier group => done (s.shiftContact identifier group)
  | .storeGroup name => done (s.storeGroup name)
  | .dropGroup name => done (s.dropGroup name)
  | .retitleGroup name newName => done (s.retitleGroup name newName)
  | .setStatus identifier status =>
    ({ s with list := s.list.setStatus identifier status },
      .oldStatus ((s.list.contact? identifier).map Contact.status))
  | .setImage identifier image =>
    ({ s with list := s.list.setImage identifier image },
      .oldImage ((s.list.contact? identifier).map Contact.image))
  | .createUnresolved group identifier data =>
    match s.list.createUnresolved group identifier data with
    | .ok (list, contact) => ({ s with list := list }, .contact contact)
    | .error f => (s, .failed f)
  | .rest => (s, .nothing)

/-- A step, and everything that is due after it. -/
def perform (s : Session) (step : Step) : Session × Outcome :=
  let (s, outcome) := s.act step
  (s.settle, outcome)

/-- The session after some steps. -/
def run (s : Session) (steps : List Step) : Session :=
  steps.foldl (fun s step => (s.perform step).1) s

end Session

end Roster
