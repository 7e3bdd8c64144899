import Roster.Status

/-! Contacts and the groups that hold them, as snapshots. -/

namespace Roster

/-- A contact. While it is parked in a group that the server does not know, `structuralParent` is
the group it belongs to on the server. -/
structure Contact where
  identifier : String
  status : Status
  persistent : Bool
  resolved : Bool
  awaitingAuthorization : Bool
  structuralParent : Option String
  persistentData : Option String
  image : Option (List UInt8)
  deriving DecidableEq, Repr

namespace Contact

/-- Stored on the server and not confirmed yet. -/
def unresolved (identifier : String) : Contact :=
  ⟨identifier, .offline, true, false, false, none, none, none⟩

/-- Lives for this session only. -/
def volatile (identifier : String) : Contact :=
  { unresolved identifier with persistent := false }

def resolve (identifier : String) : Contact :=
  { unresolved identifier with resolved := true }

def isOnline (c : Contact) : Bool := c.status.isOnline

end Contact

/-- A group of the contact tree. Virtual groups are not persistent. -/
structure Group where
  name : String
  persistent : Bool
  resolved : Bool
  canContainSubgroups : Bool
  deriving DecidableEq, Repr

namespace Group

def stored (name : String) : Group := ⟨name, true, true, false⟩

def root (name : String) : Group := { stored name with canContainSubgroups := true }

def virtual (name : String) : Group := { stored name with persistent := false }

/-- Known by name only so far. -/
def unresolved (name : String) : Group := { stored name with resolved := false }

end Group

end Roster
