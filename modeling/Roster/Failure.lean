import Roster.Status

/-! Why an operation fails. A failure names its cause; `message` words it. -/

namespace Roster

/-- What is wrong with an argument. -/
inductive ArgumentFault
  | unknownGroup (name : String)
  | unknownContact (identifier : String)
  | foreignContact (identifier : String)
  | strayContact (identifier : String)
  | leafGroup (name : String)
  | intoAwaitingGroup
  | outOfAwaitingGroup
  | unpublishable (status : Status)
  | missingPart (name : String)
  | other (text : String)
  deriving DecidableEq, Repr

def ArgumentFault.text : ArgumentFault → String
  | unknownGroup name => s!"unknown group {name}"
  | unknownContact identifier => s!"unknown contact {identifier}"
  | foreignContact identifier => s!"{identifier} is not a contact of this provider"
  | strayContact identifier => s!"{identifier} is not a member of any group"
  | leafGroup name => s!"group {name} cannot contain subgroups"
  | intoAwaitingGroup => "contacts cannot be moved into the awaiting authorization group"
  | outOfAwaitingGroup => "contacts awaiting authorization cannot be moved"
  | unpublishable status => s!"{status.title} is not a status this account can publish"
  | missingPart name => s!"{name} is required"
  | other text => text

/-- Where an operation broke down that was asked for correctly. -/
inductive Breakdown
  | network
  | unregistered
  | internal
  deriving DecidableEq, Repr

namespace Breakdown

def text : Breakdown → String
  | network => "network failure"
  | unregistered => "provider not registered"
  | internal => "internal error"

def code : Breakdown → String
  | network => "NETWORK_FAILURE"
  | unregistered => "PROVIDER_NOT_REGISTERED"
  | internal => "INTERNAL_ERROR"

end Breakdown

inductive Failure
  | invalidArgument (fault : ArgumentFault)
  | unsupportedStatus (status : Status)
  | notConnected
  | brokenDown (breakdown : Breakdown) (detail : String)
  deriving DecidableEq, Repr

namespace Failure

def code : Failure → String
  | invalidArgument _ => "INVALID_ARGUMENT"
  | unsupportedStatus _ => "UNSUPPORTED_STATUS"
  | notConnected => "NOT_CONNECTED"
  | brokenDown breakdown _ => breakdown.code

def message : Failure → String
  | invalidArgument fault => s!"Invalid argument: {fault.text}"
  | unsupportedStatus status => s!"Status cannot be encoded: {status.title}"
  | notConnected => "The provider must be registered before it can be used"
  | brokenDown breakdown detail => s!"Operation failed ({breakdown.text}): {detail}"

def breakdown? : Failure → Option Breakdown
  | brokenDown breakdown _ => some breakdown
  | _ => none

/-- The caller asked for something that cannot be done. -/
def isInvalidArgument : Failure → Bool
  | invalidArgument _ | unsupportedStatus _ => true
  | _ => false

/-- There is no live connection. -/
def isNotConnected : Failure → Bool
  | notConnected | brokenDown .unregistered _ => true
  | _ => false

def isNetwork : Failure → Bool
  | brokenDown .network _ => true
  | _ => false

end Failure

end Roster
