import Roster.Contact
import Roster.Failure

/-! The contact list: a tree of groups, and contacts that lie in them. Groups are found by name
and contacts by identifier, the first one counting. The tree changes here; who is told about it
is the business of the session. -/

namespace Roster

/-- A group and the name of the group it lies in. -/
structure Branch where
  group : Group
  parent : Option String
  deriving DecidableEq, Repr

/-- A contact and the name of the group it lies in. -/
structure Member where
  contact : Contact
  group : String
  deriving DecidableEq, Repr

structure ContactList where
  rootName : String
  branches : List Branch
  members : List Member
  deriving DecidableEq, Repr

namespace ContactList

/-- A list with nothing in it but its root. -/
def ofRoot (name : String) : ContactList := ⟨name, [⟨.root name, none⟩], []⟩

/-- The root as it was in the beginning, whatever has become of its entry. -/
def rootGroup (l : ContactList) : Group := .root l.rootName

def contact? (l : ContactList) (identifier : String) : Option Contact :=
  (l.members.find? (·.contact.identifier = identifier)).map Member.contact

def group? (l : ContactList) (name : String) : Option Group :=
  (l.branches.find? (·.group.name = name)).map Branch.group

def groupNameOf? (l : ContactList) (identifier : String) : Option String :=
  (l.members.find? (·.contact.identifier = identifier)).map Member.group

/-- The group that holds a contact. -/
def parentGroup? (l : ContactList) (identifier : String) : Option Group :=
  (l.groupNameOf? identifier).bind l.group?

/-- The groups that lie directly in a group. -/
def subgroups (l : ContactList) (name : String) : List Group :=
  (l.branches.filter (·.parent = some name)).map Branch.group

def contactsIn (l : ContactList) (name : String) : List Contact :=
  (l.members.filter (·.group = name)).map Member.contact

/-- Applies a change to the first entry of a contact. -/
def modifyFirst (identifier : String) (f : Member → Member) : List Member → List Member
  | [] => []
  | m :: ms =>
    if m.contact.identifier = identifier then f m :: ms else m :: modifyFirst identifier f ms

def modifyMember (l : ContactList) (identifier : String) (f : Member → Member) : ContactList :=
  { l with members := modifyFirst identifier f l.members }

def addMember (l : ContactList) (contact : Contact) (group : String) : ContactList :=
  { l with members := l.members ++ [⟨contact, group⟩] }

/-- Adds a group under the root. -/
def addGroup (l : ContactList) (group : Group) : ContactList :=
  { l with branches := l.branches ++ [⟨group, some l.rootName⟩] }

def unknownGroup (name : String) : Failure := .invalidArgument (.unknownGroup name)

def unknownContact (identifier : String) : Failure := .invalidArgument (.unknownContact identifier)

/-- Adds a contact that the server has not confirmed. -/
def createUnresolved (l : ContactList) (group identifier : String) (data : Option String) :
    Except Failure (ContactList × Contact) :=
  if (l.group? group).isSome then
    let contact := { Contact.unresolved identifier with persistentData := data }
    .ok (l.addMember contact group, contact)
  else .error (unknownGroup group)

/-- Adds a contact for this session, in the root. -/
def createVolatile (l : ContactList) (identifier : String) : ContactList × Contact :=
  let contact := Contact.volatile identifier
  (l.addMember contact l.rootName, contact)

/-- Moves a contact without telling the server. -/
def relocate (l : ContactList) (identifier group : String) : Except Failure ContactList :=
  if (l.group? group).isNone then .error (unknownGroup group)
  else if (l.contact? identifier).isNone then .error (unknownContact identifier)
  else .ok (l.modifyMember identifier fun m => { m with group := group })

/-- Writes a snapshot back. -/
def update (l : ContactList) (contact : Contact) : Except Failure ContactList :=
  if (l.contact? contact.identifier).isNone then .error (unknownContact contact.identifier)
  else .ok (l.modifyMember contact.identifier fun m => { m with contact := contact })

def setStatus (l : ContactList) (identifier : String) (status : Status) : ContactList :=
  l.modifyMember identifier fun m => { m with contact := { m.contact with status := status } }

def setImage (l : ContactList) (identifier : String) (image : Option (List UInt8)) : ContactList :=
  l.modifyMember identifier fun m => { m with contact := { m.contact with image := image } }

/-- Drops every entry of a contact without telling the server. -/
def detach (l : ContactList) (identifier : String) : Except Failure ContactList :=
  if (l.contact? identifier).isNone then .error (unknownContact identifier)
  else .ok { l with members := l.members.filter (·.contact.identifier ≠ identifier) }

/-- Where a new contact goes that was given no group: the first group of the root that the server
knows, or the root. -/
def defaultGroup (l : ContactList) : String :=
  match (l.subgroups l.rootName).find? (·.persistent) with
  | some g => g.name
  | none => l.rootName

/-- Drops the first entry of a contact. -/
def removeMember (l : ContactList) (identifier : String) : ContactList :=
  { l with members := l.members.eraseP (·.contact.identifier = identifier) }

/-- Drops the first group of a name, and all that lies in groups of that name. -/
def removeGroup (l : ContactList) (name : String) : ContactList :=
  { l with
    members := l.members.filter (·.group ≠ name)
    branches := l.branches.eraseP (·.group.name = name) }

def renameFirst (name newName : String) : List Branch → List Branch
  | [] => []
  | b :: bs =>
    if b.group.name = name then { b with group := { b.group with name := newName } } :: bs
    else b :: renameFirst name newName bs

/-- Renames the first group of a name. Contacts go along; groups inside it keep the old name. -/
def renameGroup (l : ContactList) (name newName : String) : ContactList :=
  { l with
    members := l.members.map fun m => if m.group = name then { m with group := newName } else m
    branches := renameFirst name newName l.branches }

/-- A group and all below it, the last subgroup first, if it is not deeper than `depth`. -/
def descend (l : ContactList) : Nat → Group → Option (List Group)
  | 0, _ => none
  | depth + 1, g => do
    let below ← (l.subgroups g.name).reverse.mapM (descend l depth)
    return g :: below.flatten

/-- The whole tree from the root, a group before what lies in it. Groups are found by name, so a
group inside one of its own name has no end; otherwise no branch of the tree is longer than the
number of groups. -/
def outline? (l : ContactList) : Option (List Group) :=
  l.descend (l.branches.length + 1) l.rootGroup

end ContactList

end Roster
