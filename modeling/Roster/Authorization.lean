/-! Values of the authorization handshake, and the registration states of an account. -/

namespace Roster

/-- An authorization request, sent or received. -/
structure Petition where
  reason : String
  deriving DecidableEq, Repr

inductive Verdict
  | accept
  | reject
  /-- Drop the request without an answer. -/
  | ignore
  deriving DecidableEq, Repr

def Verdict.key : Verdict → String
  | accept => "accept"
  | reject => "reject"
  | ignore => "ignore"

/-- A decision about a petition. -/
structure Decision where
  verdict : Verdict
  reason : Option String
  deriving DecidableEq, Repr

namespace Decision

def accept : Decision := ⟨.accept, none⟩

def reject (reason : String) : Decision := ⟨.reject, some reason⟩

def ignore : Decision := ⟨.ignore, none⟩

end Decision

inductive Registration
  | registering
  | registered
  | unregistering
  | unregistered
  | authenticationFailed
  | connectionFailed
  deriving DecidableEq, Repr

namespace Registration

def key : Registration → String
  | registering => "registering"
  | registered => "registered"
  | unregistering => "unregistering"
  | unregistered => "unregistered"
  | authenticationFailed => "authentication_failed"
  | connectionFailed => "connection_failed"

/-- The states that end a session. -/
def isDisconnect : Registration → Bool
  | unregistered | authenticationFailed | connectionFailed => true
  | _ => false

end Registration

end Roster
