import Roster.Session
import Roster.Text.Quoted

/-! Putting a session together, and one line that describes it. -/

namespace Roster

/-- The account's own connection to the server. -/
structure Connection where
  localIdentifier : String
  registered : Bool := true
  deriving DecidableEq, Repr

/-- The parts of a session. It does not work without a connection and a contact list. -/
structure Assembly where
  connection : Option Connection := none
  list : Option ContactList := none
  hasPolicy : Bool := false
  reRequests : Bool := false
  settings : Settings := {}
  listeners : List Listener := []
  deriving DecidableEq, Repr

namespace Assembly

/-- The listeners are registered for everything. -/
def hub (a : Assembly) : Hub :=
  let r : Registry := a.listeners.foldl (fun r l => (r.add l).1) {}
  ⟨r, r, r, r⟩

def build (a : Assembly) : Except Failure Session :=
  match a.connection, a.list with
  | none, _ => .error (.invalidArgument (.missingPart "protocol"))
  | some _, none => .error (.invalidArgument (.missingPart "contact_list"))
  | some connection, some list => .ok {
      settings := a.settings
      localIdentifier := connection.localIdentifier
      reRequests := a.reRequests
      list := list
      server := { registered := connection.registered }
      desk := { installed := a.hasPolicy }
      hub := a.hub }

end Assembly

def AccountMode.variantName : AccountMode → String
  | extended => "Extended"
  | basic => "Basic"

def Session.describe (s : Session) : String :=
  "ServiceContext \x7b mode: " ++ s.settings.mode.variantName ++
    ", state: ProviderPresenceState \x7b current_status: StatusBitmask(" ++
    toString s.own.mask.toInt ++ "), current_status_message: " ++ Text.quoted s.own.message ++ " \x7d, listeners: " ++
    s.hub.describe ++ ", collaborators: \"...\" \x7d"

end Roster
