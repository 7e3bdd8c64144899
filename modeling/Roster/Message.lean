import Roster.Status.Mask

/-! What an account and its server say to each other. -/

namespace Roster

/-- What the server reports about a user. Only basic accounts carry an away flag. -/
structure UserInfo where
  identifier : String
  mask : Mask
  away : Option Bool
  statusMessage : Option String
  deriving DecidableEq, Repr

def UserInfo.plain (identifier : String) (mask : Mask) : UserInfo := ⟨identifier, mask, none, none⟩

/-- What an account tells the server to do; nothing is answered. -/
inductive Command
  | setExtendedStatus (mask : Mask)
  | setStatusMessage (message : String)
  | setVisibility (visible : Bool)
  /-- No message clears it. -/
  | setAwayMessage (message : Option String)
  /-- Let a contact add us without asking again. -/
  | grantFutureAuthorization (identifier reason : String)
  | requestAuthorization (identifier reason : String)
  | authorizationReply (identifier : String) (accepted : Bool) (reason : Option String)
  deriving DecidableEq, Repr

/-- What an account asks the server. -/
inductive Request
  | userInfo (identifier : String)
  deriving DecidableEq, Repr

/-- What the server answers to a request. -/
inductive Response
  | userInfo (info : UserInfo)
  | error (code : UInt16) (message : String)
  deriving DecidableEq, Repr

/-- What the server says unasked. -/
inductive ServerEvent
  | ownInfo (info : UserInfo)
  | ownExtraInfo (statusMessage : Option String)
  | buddyStatus (info : UserInfo)
  | buddyOffline (identifier : String)
  /-- No icon clears it. -/
  | buddyIcon (identifier : String) (icon : Option (List UInt8))
  | authorizationRequestReceived (identifier reason : String)
  | authorizationAccepted (identifier : String) (reason : Option String)
  | authorizationDenied (identifier : String) (reason : Option String)
  | futureAuthorizationGranted (identifier reason : String)
  | youWereAdded (identifier : String)
  deriving DecidableEq, Repr

/-- The name of the kind of an event. -/
def ServerEvent.kind : ServerEvent → String
  | ownInfo _ => "OWN_INFO"
  | ownExtraInfo _ => "OWN_EXTRA_INFO"
  | buddyStatus _ => "BUDDY_STATUS"
  | buddyOffline _ => "BUDDY_OFFLINE"
  | buddyIcon .. => "BUDDY_ICON"
  | authorizationRequestReceived .. => "AUTHORIZATION_REQUEST_RECEIVED"
  | authorizationAccepted .. => "AUTHORIZATION_ACCEPTED"
  | authorizationDenied .. => "AUTHORIZATION_DENIED"
  | futureAuthorizationGranted .. => "FUTURE_AUTHORIZATION_GRANTED"
  | youWereAdded _ => "YOU_WERE_ADDED"

end Roster
