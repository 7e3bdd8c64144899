import Roster.Session

/-! Changes to the contact list that the server takes part in. The keeper refuses a change before
it is recorded, or carries it out and tells the listeners, once it knows them. -/

namespace Roster.Session

def announceListed (s : Session) (n : Notice) : Session :=
  if s.keeper.announces then s.announce n else s

/-- Loads the list; from now on listeners are told about changes. -/
def loadList (s : Session) : Session :=
  { s with keeper := { s.keeper with announces := true, loads := s.keeper.loads + 1 } }

def commit (s : Session) (op : ListOperation) : Except Failure Session :=
  if s.keeper.refuses then .error (.brokenDown .network "server refused the operation")
  else .ok (s.record (.listed op))

def addContact (s : Session) (group : Option String) (identifier : String) :
    Session × Except Failure Unit :=
  match s.commit (.addContact group identifier) with
  | .error f => (s, .error f)
  | .ok s =>
    let group := group.getD s.list.defaultGroup
    let contact := Contact.resolve identifier
    let s := { s with list := s.list.addMember contact group }
    (s.announceListed (.subscription ⟨.created, contact, s.list.group? group⟩), .ok ())

def deleteContact (s : Session) (group identifier : String) : Session × Except Failure Unit :=
  match s.commit (.deleteContact group identifier) with
  | .error f => (s, .error f)
  | .ok s =>
    match s.list.contact? identifier with
    | none => (s, .ok ())
    | some contact =>
      let s := { s with list := s.list.removeMember identifier }
      (s.announceListed (.subscription ⟨.removed, contact, s.list.group? group⟩), .ok ())

/-- Moves a contact to another group. -/
def shiftContact (s : Session) (identifier newGroup : String) : Session × Except Failure Unit :=
  match s.commit (.moveContact identifier newGroup) with
  | .error f => (s, .error f)
  | .ok s =>
    let oldParent := s.list.parentGroup? identifier
    match s.list.relocate identifier newGroup with
    | .error f => (s, .error f)
    | .ok list =>
      let s := { s with list := list }
      match oldParent, s.list.group? newGroup, s.list.contact? identifier with
      | some oldParent, some newParent, some contact =>
        (s.announceListed (.moved ⟨contact, oldParent, newParent⟩), .ok ())
      | _, _, _ => (s, .ok ())

def storeGroup (s : Session) (name : String) : Session × Except Failure Unit :=
  match s.commit (.createGroup name) with
  | .error f => (s, .error f)
  | .ok s =>
    let group := Group.stored name
    let s := { s with list := s.list.addGroup group }
    (s.announceListed (.group ⟨.created, group, some s.list.rootGroup⟩), .ok ())

def dropGroup (s : Session) (name : String) : Session × Except Failure Unit :=
  match s.commit (.removeGroup name) with
  | .error f => (s, .error f)
  | .ok s =>
    let removed := s.list.group? name
    let s := { s with list := s.list.removeGroup name }
    match removed with
    | none => (s, .ok ())
    | some group => (s.announceListed (.group ⟨.removed, group, some s.list.rootGroup⟩), .ok ())

def retitleGroup (s : Session) (name newName : String) : Session × Except Failure Unit :=
  match s.commit (.renameGroup name newName) with
  | .error f => (s, .error f)
  | .ok s =>
    let renamed := (s.list.group? name).map fun g => { g with name := newName }
    let s := { s with list := s.list.renameGroup name newName }
    match renamed with
    | none => (s, .ok ())
    | some group => (s.announceListed (.group ⟨.renamed, group, some s.list.rootGroup⟩), .ok ())

end Roster.Session
