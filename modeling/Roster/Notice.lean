import Roster.Contact

/-! What an application is told: one structure per kind of change, and `Notice` for any of
them. A notice travels on one channel. -/

namespace Roster

structure ContactPresenceChange where
  contact : Contact
  parentGroup : Option Group
  oldStatus : Status
  newStatus : Status
  deriving DecidableEq, Repr

inductive SubscriptionKind
  | created
  | removed
  | resolved
  | failed (code : UInt16) (reason : String)
  deriving DecidableEq, Repr

structure SubscriptionChange where
  kind : SubscriptionKind
  contact : Contact
  parentGroup : Option Group
  deriving DecidableEq, Repr

structure ContactMove where
  contact : Contact
  oldParent : Group
  newParent : Group
  deriving DecidableEq, Repr

structure ContactEdit where
  contact : Contact
  property : String
  oldValue : Option String
  newValue : Option String
  deriving DecidableEq, Repr

structure OwnStatusChange where
  oldStatus : Status
  newStatus : Status
  deriving DecidableEq, Repr

structure StatusMessageChange where
  oldMessage : String
  newMessage : String
  deriving DecidableEq, Repr

inductive GroupChangeKind
  | created
  | removed
  | renamed
  | resolved
  | creationFailed
  deriving DecidableEq, Repr

def GroupChangeKind.key : GroupChangeKind → String
  | created => "CREATED"
  | removed => "REMOVED"
  | renamed => "RENAMED"
  | resolved => "RESOLVED"
  | creationFailed => "CREATION_FAILED"

structure GroupChange where
  kind : GroupChangeKind
  group : Group
  parentGroup : Option Group
  deriving DecidableEq, Repr

inductive Notice
  | contactPresence (change : ContactPresenceChange)
  | subscription (change : SubscriptionChange)
  | moved (move : ContactMove)
  | modified (edit : ContactEdit)
  | ownStatus (change : OwnStatusChange)
  | statusMessage (change : StatusMessageChange)
  | group (change : GroupChange)
  deriving DecidableEq, Repr

/-- What a listener can be registered for. -/
inductive Channel
  | contact
  | subscription
  | provider
  | group
  deriving DecidableEq, Repr

namespace Notice

def channel : Notice → Channel
  | contactPresence _ => .contact
  | subscription _ | moved _ | modified _ => .subscription
  | ownStatus _ | statusMessage _ => .provider
  | group _ => .group

/-- Every listener of the channel takes an essential notice; the others are extras. -/
def isEssential : Notice → Bool
  | moved _ | modified _ | statusMessage _ => false
  | _ => true

end Notice

end Roster
