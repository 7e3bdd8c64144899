import Roster.Notice

/-! Listeners and the registries that hold them. A registry keeps each listener once, in the
order of registration; a hub is one registry per channel. -/

namespace Roster

/-- How much of the listener interface a listener implements. -/
inductive Coverage
  | full
  | essential
  deriving DecidableEq, Repr

inductive Listener
  /-- The listener of a session that only counts what it is told. -/
  | tally
  | named (name : String) (coverage : Coverage)
  deriving DecidableEq, Repr

/-- A listener without the extras is notified of them all the same, and does nothing. -/
def Listener.hears (l : Listener) (n : Notice) : Bool :=
  match l with
  | .named _ .essential => n.isEssential
  | _ => true

structure Registry where
  listeners : List Listener := []
  deriving DecidableEq, Repr

namespace Registry

def contains (r : Registry) (l : Listener) : Bool := decide (l ∈ r.listeners)

/-- Registers a listener, and tells whether it was new. -/
def add (r : Registry) (l : Listener) : Registry × Bool :=
  if l ∈ r.listeners then (r, false) else (⟨r.listeners ++ [l]⟩, true)

/-- Unregisters a listener, and tells whether it was there. -/
def remove (r : Registry) (l : Listener) : Registry × Bool :=
  (⟨r.listeners.filter (· ≠ l)⟩, decide (l ∈ r.listeners))

def size (r : Registry) : Nat := r.listeners.length

def isEmpty (r : Registry) : Bool := r.listeners.isEmpty

theorem add_listeners (r : Registry) (l : Listener) :
    (r.add l).1.listeners = if l ∈ r.listeners then r.listeners else r.listeners ++ [l] := by
  unfold add; split <;> rfl

theorem remove_listeners (r : Registry) (l : Listener) :
    (r.remove l).1.listeners = r.listeners.filter (· ≠ l) := rfl

end Registry

structure Hub where
  contact : Registry := {}
  subscription : Registry := {}
  provider : Registry := {}
  group : Registry := {}
  deriving DecidableEq, Repr

namespace Hub

def registry (h : Hub) : Channel → Registry
  | .contact => h.contact
  | .subscription => h.subscription
  | .provider => h.provider
  | .group => h.group

def setRegistry (h : Hub) (c : Channel) (r : Registry) : Hub :=
  match c with
  | .contact => { h with contact := r }
  | .subscription => { h with subscription := r }
  | .provider => { h with provider := r }
  | .group => { h with group := r }

theorem registry_setRegistry (h : Hub) (c d : Channel) (r : Registry) :
    (h.setRegistry c r).registry d = if d = c then r else h.registry d := by
  cases c <;> cases d <;> rfl

def add (h : Hub) (c : Channel) (l : Listener) : Hub × Bool :=
  let (r, new) := (h.registry c).add l
  (h.setRegistry c r, new)

def remove (h : Hub) (c : Channel) (l : Listener) : Hub × Bool :=
  let (r, found) := (h.registry c).remove l
  (h.setRegistry c r, found)

/-- Whom a notice goes to: the listeners registered at this moment. -/
def audience (h : Hub) (n : Notice) : List Listener := (h.registry n.channel).listeners

/-- One line that tells how many listeners each registry holds. -/
def describe (h : Hub) : String :=
  let part (name : String) (r : Registry) :=
    name ++ ": ListenerRegistry \x7b listeners: " ++ toString r.size ++ " \x7d"
  "ListenerHub \x7b " ++ part "contact_presence" h.contact ++ ", " ++
    part "subscription" h.subscription ++ ", " ++ part "provider_presence" h.provider ++ ", " ++
    part "group_change" h.group ++ " \x7d"

end Hub

end Roster
