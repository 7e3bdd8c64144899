import Roster.ContactList
import Roster.Correlator
import Roster.Listener
import Roster.Settings
import Roster.Authorization

/-! A session of one account: its settings, what it knows, and the parties it works with — the
server, the contact list, the application that decides about authorization, and the listeners.
The parties are scripted, so a session is a value, and `trace` keeps what every party was given,
in order. -/

namespace Roster

/-- What the server does with a status query. -/
inductive Answer
  | respond (response : Response)
  | timeout
  /-- No answer of its own accord; one may be delivered later. -/
  | silence
  /-- The query cannot be sent. -/
  | refusal
  deriving DecidableEq, Repr

/-- The server, as far as the account's own connection goes. Queries are numbered by the session;
`unanswered` holds those that were met with silence. -/
structure Server where
  registered : Bool := true
  refusesCommands : Bool := false
  answers : List (String × Answer) := []
  defaultAnswer : Answer := .respond (.error 0 "no status scripted")
  unanswered : List Nat := []
  /-- Whether the server knows where to send its events. -/
  attached : Bool := false
  deriving DecidableEq, Repr

def Server.answerTo (s : Server) (identifier : String) : Answer :=
  (s.answers.lookup identifier).getD s.defaultAnswer

/-- The keeper of the contact list. It announces changes once the list has been loaded. -/
structure ListKeeper where
  refuses : Bool := false
  announces : Bool := false
  loads : Nat := 0
  deriving DecidableEq, Repr

inductive ListOperation
  | addContact (group : Option String) (identifier : String)
  | deleteContact (group identifier : String)
  | moveContact (identifier group : String)
  | createGroup (name : String)
  | removeGroup (name : String)
  | renameGroup (name newName : String)
  deriving DecidableEq, Repr

/-- How an application decides: what it answers to a petition, and what it petitions with itself,
if at all. -/
structure Policy where
  incoming : Decision := .accept
  outgoing : Option Petition := some ⟨"Please add me"⟩
  deriving DecidableEq, Repr

/-- The newest policy of an application, which may have had others before, and whether the account
consults it. -/
structure Desk where
  policy : Policy := {}
  earlier : Nat := 0
  installed : Bool := true
  deriving DecidableEq, Repr

def Desk.policy? (d : Desk) : Option Policy := if d.installed then some d.policy else none

/-- What the server has confirmed of our own presence. -/
structure OwnPresence where
  mask : Mask := .unknown
  message : String := ""
  deriving DecidableEq, Repr

/-- Something that one of the parties was given. Policies are numbered from zero. -/
inductive Occurrence
  | delivered (listener : Listener) (notice : Notice)
  /-- A command that the server accepted. -/
  | commanded (command : Command)
  | requested (request : Request)
  | listed (operation : ListOperation)
  | reRequested (identifier reason : String)
  | decided (policy : Nat) (identifier : String) (decision : Decision)
  | drafted (policy : Nat) (identifier : String) (petition : Option Petition)
  | informed (policy : Nat) (identifier : String) (outcome : Decision)
  deriving DecidableEq, Repr

/-- A query that is waited for, up to a moment. -/
structure Wait where
  query : Nat
  deadline : Nat
  deriving DecidableEq, Repr

/-- What came of a poll. -/
structure PollReport where
  checked : Nat := 0
  changed : Nat := 0
  reRequested : Nat := 0
  failed : Nat := 0
  deriving DecidableEq, Repr

/-- A poll that waits for the status of one contact, with others still to come. -/
structure SuspendedPoll where
  group : Group
  current : String
  rest : List String
  report : PollReport
  wait : Wait
  deriving DecidableEq, Repr

/-- An operation that waits for a query. -/
inductive Work
  | query (wait : Wait)
  | queryMask (wait : Wait)
  | publish (wait : Wait)
  | poll (poll : SuspendedPoll)
  deriving DecidableEq, Repr

def Work.wait : Work → Wait
  | query w | queryMask w | publish w => w
  | poll p => p.wait

/-- What an operation comes to. -/
inductive Outcome
  | nothing
  | done
  | failed (failure : Failure)
  | flag (value : Bool)
  | count (value : Nat)
  | status (status : Status)
  | mask (mask : Mask)
  | contact (contact : Contact)
  | group (group : Group)
  | report (report : PollReport)
  | oldStatus (status : Option Status)
  /-- No image at all for a contact that is not known. -/
  | oldImage (image : Option (Option (List UInt8)))
  deriving DecidableEq, Repr

inductive TaskName
  | foreground
  | background (name : String)
  deriving DecidableEq, Repr

inductive TaskState
  | working (work : Work)
  | finished (outcome : Outcome)
  deriving DecidableEq, Repr

structure Task where
  name : TaskName
  state : TaskState
  deriving DecidableEq, Repr

/-- The task that polls: when it is due, and the poll it is in the middle of. -/
structure Poller where
  due : Nat
  poll : Option SuspendedPoll := none
  deriving DecidableEq, Repr

/-- Time counts milliseconds from the start of the session. -/
structure Session where
  settings : Settings
  localIdentifier : String
  /-- Whether somebody is there who re-sends authorization requests, and whether it fails. -/
  reRequests : Bool := true
  reRequestsFail : Bool := false
  list : ContactList
  server : Server := {}
  keeper : ListKeeper := {}
  desk : Desk := {}
  hub : Hub := {}
  own : OwnPresence := {}
  /-- The contacts an authorization request was re-sent for. -/
  seen : List String := []
  queries : List Correlator := []
  tasks : List Task := []
  poller : Option Poller := none
  now : Nat := 0
  trace : List Occurrence := []
  deriving DecidableEq, Repr

namespace Session

def status (s : Session) : Status := s.own.mask.status

def isPolling (s : Session) : Bool := s.poller.isSome

def record (s : Session) (o : Occurrence) : Session := { s with trace := s.trace ++ [o] }

/-- The notices that a listener was given, in order. -/
def heard (s : Session) (l : Listener) : List Notice :=
  s.trace.filterMap fun
    | .delivered l' n => if l' = l then some n else none
    | _ => none

/-- Delivers a notice to everybody registered for it. -/
def announce (s : Session) (n : Notice) : Session :=
  { s with
    trace := s.trace ++ ((s.hub.audience n).filter (·.hears n)).map (Occurrence.delivered · n) }

/-- Sends a command, if the server takes it. -/
def send (s : Session) (c : Command) : Except Failure Session :=
  if s.server.refusesCommands then .error (.brokenDown .network "command rejected")
  else .ok (s.record (.commanded c))

/-- Sends commands up to the first that is refused. -/
def sendAll (s : Session) : List Command → Session × Except Failure Unit
  | [] => (s, .ok ())
  | c :: cs =>
    match s.send c with
    | .ok s => s.sendAll cs
    | .error f => (s, .error f)

def signal (s : Session) (query : Nat) (signal : Signal) : Session :=
  { s with queries := s.queries.modify query (·.signal signal) }

/-- Takes what a query was answered with. -/
def receive (s : Session) (query : Nat) : Session × Mask :=
  match (s.queries[query]?).map Correlator.receive with
  | some (c, .mask m) => ({ s with queries := s.queries.set query c }, m)
  | _ => (s, .unknown)

/-- What the server lets a query come to at once. -/
def Answer.signal? : Answer → Option Signal
  | .respond r => some (.response r)
  | .timeout => some .timeout
  | .refusal => some .expiry
  | .silence => none

/-- Sends a status query. It is answered at once, or is to be waited for; without any time to wait
it is given up at once. -/
def ask (s : Session) (identifier : String) : Session × (Mask ⊕ Wait) :=
  let query := s.queries.length
  let s := { s.record (.requested (.userInfo identifier)) with
    queries := s.queries ++ [({} : Correlator)] }
  match Answer.signal? (s.server.answerTo identifier) with
  | some signal =>
    let (s, mask) := (s.signal query signal).receive query
    (s, .inl mask)
  | none =>
    let s := { s with server := { s.server with unanswered := s.server.unanswered ++ [query] } }
    if s.settings.queryTimeoutMs = 0 then (s.signal query .expiry, .inl .unknown)
    else (s, .inr ⟨query, s.now + s.settings.queryTimeoutMs⟩)

end Session

end Roster
