import Roster.Session.Directory

/-! What an application may do with the contact list, and the group that contacts are parked in
until they answer. -/

namespace Roster.Session

def requireGroup (s : Session) (name : String) : Except Failure Group :=
  match s.list.group? name with
  | some g => .ok g
  | none => .error (.invalidArgument (.unknownGroup name))

def requireConnection (s : Session) : Except Failure Unit :=
  if s.server.registered then .ok () else .error .notConnected

/-- Fails without an effect, or goes on with what the check found. -/
def guarded {α : Type} (s : Session) (check : Except Failure α)
    (next : α → Session × Except Failure Unit) : Session × Except Failure Unit :=
  match check with
  | .error f => (s, .error f)
  | .ok a => next a

def subscribe (s : Session) (identifier : String) : Session × Except Failure Unit :=
  s.guarded s.requireConnection fun _ => s.addContact none identifier

def subscribeIn (s : Session) (group identifier : String) : Session × Except Failure Unit :=
  s.guarded (do s.requireConnection; s.requireGroup group) fun g =>
    s.addContact (some g.name) identifier

/-- The contact that is to be removed, and its group. -/
def requireMember (s : Session) (identifier : String) : Except Failure (Contact × Group) :=
  match s.list.contact? identifier, s.list.parentGroup? identifier with
  | none, _ => .error (.invalidArgument (.foreignContact identifier))
  | some _, none => .error (.invalidArgument (.strayContact identifier))
  | some contact, some group => .ok (contact, group)

/-- Removes a contact: one of this session here, a parked one from the group it has on the server,
any other from its own group. -/
def unsubscribe (s : Session) (identifier : String) : Session × Except Failure Unit :=
  s.guarded (do s.requireConnection; s.requireMember identifier) fun (contact, group) =>
    if !contact.persistent then
      s.guarded (s.list.detach identifier) fun list =>
        ({ s with list := list }.announce (.subscription ⟨.removed, contact, some group⟩), .ok ())
    else if !group.persistent && contact.awaitingAuthorization then
      s.deleteContact (contact.structuralParent.getD s.list.rootName) identifier
    else s.deleteContact group.name identifier

/-- Contacts are parked and released by authorization alone. -/
def requireMovable (s : Session) (identifier newGroup : String) : Except Failure Group := do
  s.requireConnection
  if (s.list.contact? identifier).isNone then
    throw (.invalidArgument (.foreignContact identifier))
  let target ← s.requireGroup newGroup
  if target.name = s.settings.awaitingGroup then throw (.invalidArgument .intoAwaitingGroup)
  if (s.list.parentGroup? identifier).any (·.name = s.settings.awaitingGroup) then
    throw (.invalidArgument .outOfAwaitingGroup)
  return target

def moveContact (s : Session) (identifier newGroup : String) : Session × Except Failure Unit :=
  s.guarded (s.requireMovable identifier newGroup) fun target =>
    s.shiftContact identifier target.name

def requireParent (s : Session) (name : String) : Except Failure Unit := do
  s.requireConnection
  let parent ← s.requireGroup name
  if !parent.canContainSubgroups then throw (.invalidArgument (.leafGroup parent.name))

def createGroup (s : Session) (parent name : String) : Session × Except Failure Unit :=
  s.guarded (s.requireParent parent) fun _ => s.storeGroup name

def removeGroup (s : Session) (name : String) : Session × Except Failure Unit :=
  s.guarded (do s.requireConnection; s.requireGroup name) fun g => s.dropGroup g.name

def renameGroup (s : Session) (name newName : String) : Session × Except Failure Unit :=
  s.guarded (do s.requireConnection; s.requireGroup name) fun g => s.retitleGroup g.name newName

/-- Adds a contact that is known from elsewhere, in a group or in the root. -/
def createUnresolvedContact (s : Session) (identifier : String) (data parent : Option String) :
    Session × Except Failure Contact :=
  let created := do
    let parent ← match parent with
      | some name => s.requireGroup name
      | none => .ok s.list.rootGroup
    s.list.createUnresolved parent.name identifier data
  match created with
  | .ok (list, contact) => ({ s with list := list }, .ok contact)
  | .error f => (s, .error f)

def createUnresolvedGroup (s : Session) (name : String) : Session × Group :=
  let group := Group.unresolved name
  ({ s with list := s.list.addGroup group }, group)

def createVolatileContact (s : Session) (identifier : String) : Session × Contact :=
  let (list, contact) := s.list.createVolatile identifier
  ({ s with list := list }, contact)

/-- Ourselves as a contact. -/
def localContact (s : Session) : Contact :=
  { Contact.resolve s.localIdentifier with persistent := false, status := s.status }

/-- The group of parked contacts, if there is one yet. -/
def awaitingGroup? (s : Session) : Option Group := s.list.group? s.settings.awaitingGroup

/-- The group of parked contacts, made when it is first needed. -/
def ensureAwaitingGroup (s : Session) : Session × Group :=
  match s.awaitingGroup? with
  | some group => (s, group)
  | none =>
    let group := Group.virtual s.settings.awaitingGroup
    let s := { s with list := s.list.addGroup group }
    (s.announce (.group ⟨.created, group, some s.list.rootGroup⟩), group)

end Roster.Session
