import Roster.Listener

/-! Listeners that act while they are being told something. A listener owns a queue of scripts;
each notice it hears takes the oldest and performs it before anybody else is told, so a notice
fired from a script is delivered in full first. `run` works off an agenda, and ends because every
script is performed once: `weight` counts what scripts may still do. -/

namespace Roster

/-- What a script, or the outside, does to a hub. -/
inductive Action
  | add (channel : Channel) (listener : Listener)
  | remove (channel : Channel) (listener : Listener)
  | contains (channel : Channel) (listener : Listener)
  | size (channel : Channel)
  /-- Takes the listeners as they stand; the reply tells how many were taken. -/
  | snapshot (channel : Channel)
  | isEmpty (channel : Channel)
  | describe
  | script (listener : Listener) (actions : List Action)
  | fire (notice : Notice)

inductive Reply
  | nothing
  | flag (value : Bool)
  | count (value : Nat)
  | text (value : String)
  deriving DecidableEq, Repr

mutual

/-- How many steps an action may still cause, those of a script it queues included. -/
def Action.weight : Action → Nat
  | .script _ actions => 2 + Action.weights actions
  | _ => 1

def Action.weights : List Action → Nat
  | [] => 0
  | a :: rest => a.weight + Action.weights rest

end

/-- A hub together with the scripts its listeners will perform, the oldest first. -/
structure Stage where
  hub : Hub := {}
  scripts : List (Listener × List Action) := []

namespace Stage

/-- One thing that happened on a stage. The depth is zero for what the outside caused, and one
more for what a script caused inside a delivery. -/
inductive Entry
  | heard (depth : Nat) (listener : Listener) (notice : Notice)
  | ignored (depth : Nat) (listener : Listener) (notice : Notice)
  | did (depth : Nat) (listener : Listener) (action : Action) (reply : Reply)

/-- What is still to be done, the next first. -/
inductive Item
  | tell (depth : Nat) (listener : Listener) (notice : Notice)
  | act (depth : Nat) (listener : Listener) (action : Action)
  | report (depth : Nat) (listener : Listener) (action : Action) (reply : Reply)

def Item.weight : Item → Nat
  | .act _ _ a => a.weight
  | _ => 0

def agendaWeight : List Item → Nat
  | [] => 0
  | i :: rest => i.weight + agendaWeight rest

def queueWeight : List (Listener × List Action) → Nat
  | [] => 0
  | p :: rest => 1 + Action.weights p.2 + queueWeight rest

/-- The oldest script of a listener, and the queue without it. -/
def takeScript (l : Listener) :
    List (Listener × List Action) → Option (List Action × List (Listener × List Action))
  | [] => none
  | p :: rest =>
    if p.1 = l then some (p.2, rest)
    else (takeScript l rest).map fun q => (q.1, p :: q.2)

theorem queueWeight_takeScript {l : Listener} {scripts rest : List (Listener × List Action)}
    {actions : List Action} (h : takeScript l scripts = some (actions, rest)) :
    queueWeight rest + Action.weights actions < queueWeight scripts := by
  induction scripts generalizing rest with
  | nil => simp [takeScript] at h
  | cons p ps ih =>
    simp only [takeScript] at h
    split at h
    · cases h; simp [queueWeight]; omega
    · cases hq : takeScript l ps with
      | none => simp [hq] at h
      | some q =>
        simp only [hq, Option.map_some, Option.some.injEq, Prod.mk.injEq] at h
        obtain ⟨rfl, rfl⟩ := h
        have := ih hq
        simp only [queueWeight] at this ⊢
        omega

theorem agendaWeight_append (xs ys : List Item) :
    agendaWeight (xs ++ ys) = agendaWeight xs + agendaWeight ys := by
  induction xs with
  | nil => simp [agendaWeight]
  | cons x xs ih => simp only [List.cons_append, agendaWeight, ih, Nat.add_assoc]

theorem queueWeight_append (xs ys : List (Listener × List Action)) :
    queueWeight (xs ++ ys) = queueWeight xs + queueWeight ys := by
  induction xs with
  | nil => simp [queueWeight]
  | cons x xs ih => simp only [List.cons_append, queueWeight, ih, Nat.add_assoc]

theorem agendaWeight_act (depth : Nat) (l : Listener) (actions : List Action) :
    agendaWeight (actions.map (Item.act depth l)) = Action.weights actions := by
  induction actions with
  | nil => rfl
  | cons a rest ih => simp_all [agendaWeight, Item.weight, Action.weights]

theorem agendaWeight_tell (depth : Nat) (n : Notice) (ls : List Listener) :
    agendaWeight (ls.map (Item.tell depth · n)) = 0 := by
  induction ls with
  | nil => rfl
  | cons l rest ih => simp_all [agendaWeight, Item.weight]

/-- Everything but firing and queueing, which the agenda does. -/
def apply (s : Stage) : Action → Stage × Reply
  | .add c l => let (hub, new) := s.hub.add c l; ({ s with hub }, .flag new)
  | .remove c l => let (hub, found) := s.hub.remove c l; ({ s with hub }, .flag found)
  | .contains c l => (s, .flag ((s.hub.registry c).contains l))
  | .size c => (s, .count (s.hub.registry c).size)
  | .snapshot c => (s, .count (s.hub.registry c).listeners.length)
  | .isEmpty c => (s, .flag (s.hub.registry c).isEmpty)
  | .describe => (s, .text s.hub.describe)
  | .script l actions => ({ s with scripts := s.scripts ++ [(l, actions)] }, .nothing)
  | .fire n => (s, .count (s.hub.audience n).length)

theorem queueWeight_apply (s : Stage) (a : Action) :
    queueWeight (s.apply a).1.scripts < queueWeight s.scripts + a.weight := by
  cases a with
  | script l actions =>
    simp only [apply, queueWeight_append, queueWeight, Action.weight]
    omega
  | _ => simp [apply, Action.weight]

/-- One delivery for everybody who is registered now, in order. -/
def deliveries (s : Stage) (depth : Nat) (n : Notice) : List Item :=
  (s.hub.audience n).map (Item.tell depth · n)

theorem agendaWeight_deliveries (s : Stage) (depth : Nat) (n : Notice) :
    agendaWeight (s.deliveries depth n) = 0 := agendaWeight_tell depth n _

/-- Works off an agenda. -/
def run (s : Stage) : List Item → Stage × List Entry
  | [] => (s, [])
  | .tell d l n :: rest =>
    if l.hears n then
      match _h : takeScript l s.scripts with
      | some (actions, scripts) =>
        let after := run { s with scripts } (actions.map (Item.act d l) ++ rest)
        (after.1, .heard d l n :: after.2)
      | none =>
        let after := run s rest
        (after.1, .heard d l n :: after.2)
    else
      let after := run s rest
      (after.1, .ignored d l n :: after.2)
  | .act d l (.fire n) :: rest =>
    run s (s.deliveries (d + 1) n ++ .report d l (.fire n) (s.apply (.fire n)).2 :: rest)
  | .act d l a :: rest =>
    let after := run (s.apply a).1 rest
    (after.1, .did d l a (s.apply a).2 :: after.2)
  | .report d l a reply :: rest =>
    let after := run s rest
    (after.1, .did d l a reply :: after.2)
termination_by agenda => (queueWeight s.scripts + agendaWeight agenda, agenda.length)
decreasing_by
  · apply Prod.Lex.left
    have := queueWeight_takeScript _h
    rw [agendaWeight_append, agendaWeight_act]
    simp only [agendaWeight, Item.weight] at *
    omega
  · apply Prod.Lex.right'
    · simp [agendaWeight, Item.weight]
    · simp
  · apply Prod.Lex.right'
    · simp [agendaWeight, Item.weight]
    · simp
  · apply Prod.Lex.left
    rw [agendaWeight_append, agendaWeight_deliveries]
    simp [agendaWeight, Item.weight, Action.weight]
  · apply Prod.Lex.left
    have := queueWeight_apply s a
    simp only [agendaWeight, Item.weight] at *
    omega
  · apply Prod.Lex.right'
    · simp [agendaWeight, Item.weight]
    · simp

/-- Performs an action from the outside, and tells everything that happened because of it. -/
def perform (s : Stage) (a : Action) : Stage × List Entry × Reply :=
  match a with
  | .fire n =>
    let after := run s (s.deliveries 0 n)
    (after.1, after.2, (s.apply a).2)
  | _ => ((s.apply a).1, [], (s.apply a).2)

end Stage

end Roster
