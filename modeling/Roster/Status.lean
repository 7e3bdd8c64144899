/-! Presence statuses. The order of the constructors is the order of the type: offline first,
online last. `weight` is a second scale, for how reachable somebody is. -/

namespace Roster

/-- The state an account or a contact can be in. -/
inductive Status
  | offline
  | invisible
  | doNotDisturb
  | occupied
  | notAvailable
  | away
  | freeForChat
  | online
  deriving DecidableEq, Repr, Ord

namespace Status

instance : Inhabited Status := ⟨offline⟩

/-- Every status, in order. -/
def all : List Status :=
  [offline, invisible, doNotDisturb, occupied, notAvailable, away, freeForChat, online]

/-- How reachable a status is; zero is not connected. -/
def weight : Status → Nat
  | offline => 0
  | occupied => 25
  | doNotDisturb => 30
  | notAvailable => 35
  | away => 40
  | invisible => 45
  | online => 65
  | freeForChat => 85

/-- Connected, whether visible or not. -/
def isOnline (s : Status) : Bool := s != offline

theorem isOnline_eq_false_iff (s : Status) : s.isOnline = false ↔ s = offline := by
  cases s <;> decide

/-- The name shown to people. -/
def title : Status → String
  | offline => "Offline"
  | invisible => "Invisible"
  | doNotDisturb => "Do Not Disturb"
  | occupied => "Occupied"
  | notAvailable => "Not Available"
  | away => "Away"
  | freeForChat => "Free For Chat"
  | online => "Online"

/-- The name used in messages. -/
def key : Status → String
  | offline => "offline"
  | invisible => "invisible"
  | doNotDisturb => "do_not_disturb"
  | occupied => "occupied"
  | notAvailable => "not_available"
  | away => "away"
  | freeForChat => "free_for_chat"
  | online => "online"

/-- The spellings people may use, reduced to lower-case letters and digits. -/
def spellings : List (String × Status) :=
  [("offline", offline), ("invisible", invisible), ("donotdisturb", doNotDisturb),
    ("dnd", doNotDisturb), ("occupied", occupied), ("notavailable", notAvailable),
    ("na", notAvailable), ("away", away), ("freeforchat", freeForChat), ("ffc", freeForChat),
    ("online", online)]

/-- Reads a status as people write it: only ASCII letters and digits count, in either case. -/
def parse? (text : String) : Option Status :=
  spellings.lookup (String.ofList ((text.toList.filter Char.isAlphanum).map Char.toLower))

end Status

end Roster
