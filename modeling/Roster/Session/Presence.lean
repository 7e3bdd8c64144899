import Roster.Session
import Roster.Text.Decimal

/-! Our own presence and that of contacts: publishing, asking, and taking reports in. Our own
status changes only when the server reports it. -/

namespace Roster.Session

def publish (s : Session) (requested : Status) (message : String) : Session × (Outcome ⊕ Work) :=
  if !s.server.registered then (s, .inl (.failed .notConnected))
  else
    match s.settings.mode.publishCommands requested s.status message with
    | .error (.unsupportedStatus status) =>
      (s, .inl (.failed (.invalidArgument (.unpublishable status))))
    | .error f => (s, .inl (.failed f))
    | .ok commands =>
      match s.sendAll commands with
      | (s, .error f) => (s, .inl (.failed f))
      | (s, .ok ()) =>
        -- asking for our own status makes the server report it
        match s.ask s.localIdentifier with
        | (s, .inl _) => (s, .inl .done)
        | (s, .inr wait) => (s, .inr (.publish wait))

def setStatusMessage (s : Session) (message : String) : Session × Except Failure Unit :=
  if !s.server.registered then (s, .error .notConnected)
  else s.sendAll [.setStatusMessage message]

def queryMask (s : Session) (identifier : String) : Session × (Outcome ⊕ Work) :=
  match s.ask identifier with
  | (s, .inl mask) => (s, .inl (.mask mask))
  | (s, .inr wait) => (s, .inr (.queryMask wait))

def query (s : Session) (identifier : String) : Session × (Outcome ⊕ Work) :=
  if !s.server.registered then (s, .inl (.failed .notConnected))
  else
    match s.ask identifier with
    | (s, .inl mask) => (s, .inl (.status mask.status))
    | (s, .inr wait) => (s, .inr (.query wait))

/-- Sets the status of a contact, and tells about it if it is another one. -/
def applyStatus (s : Session) (identifier : String) (status : Status) (parent : Option Group) :
    Session × Bool :=
  match s.list.contact? identifier with
  | none => (s, false)
  | some old =>
    let s := { s with list := s.list.setStatus identifier status }
    if old.status = status then (s, false)
    else
      (s.announce (.contactPresence
        ⟨{ old with status := status }, parent, old.status, status⟩), true)

/-- Takes in a report about ourselves. -/
def ownInfo (s : Session) (info : UserInfo) : Session × Bool :=
  let mask := s.settings.mode.ownMask info
  if s.status = mask.status then (s, false)
  else
    ({ s with own := { s.own with mask := mask } }.announce
      (.ownStatus ⟨s.status, mask.status⟩), true)

def ownMessage (s : Session) : Option String → Session × Bool
  | none => (s, false)
  | some message =>
    if s.own.message = message then (s, false)
    else
      ({ s with own := { s.own with message := message } }.announce
        (.statusMessage ⟨s.own.message, message⟩), true)

def buddyStatus (s : Session) (info : UserInfo) : Session × Bool :=
  s.applyStatus info.identifier (s.settings.mode.buddyStatus info)
    (s.list.parentGroup? info.identifier)

def buddyOffline (s : Session) (identifier : String) : Session × Bool :=
  s.applyStatus identifier .offline (s.list.parentGroup? identifier)

/-- How an image is named to listeners. -/
def describeImage (image : Option (List UInt8)) : Option String :=
  image.map fun bytes => Decimal.text bytes.length ++ " bytes"

def buddyIcon (s : Session) (identifier : String) (icon : Option (List UInt8)) : Session :=
  match s.list.contact? identifier with
  | none => s
  | some old =>
    { s with list := s.list.setImage identifier icon }.announce
      (.modified ⟨{ old with image := icon }, "image", describeImage old.image, describeImage icon⟩)

end Roster.Session
