import Roster.Proofs.Steps

/-! What a session tells about others. Only two turns can: a report of a status, and a poll that deals
with one. -/

namespace Roster

/-- Neither about the presence of a contact nor a request that is re-sent. -/
def Occurrence.isPlain : Occurrence → Bool
  | .delivered _ (.contactPresence _) | .reRequested .. => false
  | _ => true

theorem Occurrence.isPlain_of_isQuiet {x : String} {o : Occurrence} (h : o.isQuiet x = true) :
    o.isPlain = true := by
  cases o with
  | delivered l n => cases n <;> first | rfl | cases h
  | reRequested => cases h
  | _ => rfl

/-- A place in a list that has been added to is an old one, or one of the new. -/
theorem split_append {α : Type} {old new before after : List α} {a : α}
    (h : old ++ new = before ++ a :: after) :
    (∃ rest, old = before ++ a :: rest ∧ after = rest ++ new) ∨
      ∃ skipped, before = old ++ skipped ∧ new = skipped ++ a :: after := by
  rcases List.append_eq_append_iff.1 h with ⟨skipped, hbefore, hnew⟩ | ⟨rest, hold, hrest⟩
  · exact .inr ⟨skipped, hbefore, hnew⟩
  · cases rest with
    | nil => exact .inr ⟨[], by simpa using hold.symm, by simpa using hrest.symm⟩
    | cons b rest =>
      cases hrest
      exact .inl ⟨rest, hold, rfl⟩

theorem split_concat {α : Type} {old before after : List α} {a b : α}
    (h : old ++ [b] = before ++ a :: after) :
    (∃ rest, old = before ++ a :: rest) ∨ before = old ∧ a = b := by
  rcases split_append h with ⟨rest, hold, -⟩ | ⟨skipped, rfl, hlast⟩
  · exact .inl ⟨rest, hold⟩
  · cases skipped with
    | nil =>
      cases hlast
      exact .inr ⟨List.append_nil old, rfl⟩
    | cons c skipped => simp at hlast

namespace Session

/-- Nothing is said about anybody's presence, and nobody's status changes. -/
structure Plain (s s' : Session) : Prop where
  tags : s'.list.members.map Member.tag = s.list.members.map Member.tag
  seen : s'.seen = s.seen
  trace : ∃ new, s'.trace = s.trace ++ new ∧ ∀ o ∈ new, o.isPlain = true

/-- The status of a contact is written down, and told if it is another one. -/
theorem applyStatus_of_known {s : Session} {x : String} {old : Contact}
    (h : s.list.contact? x = some old) (status : Status) (parent : Option Group) :
    (s.applyStatus x status parent).1 =
      { s with
        list := s.list.setStatus x status
        trace := s.trace ++ if old.status = status then [] else
          s.deliveries (.contactPresence ⟨{ old with status := status }, parent, old.status, status⟩) } := by
  simp only [applyStatus, h]
  split
  · simp
  · rfl

theorem applyStatus_of_unknown {s : Session} {x : String} (h : s.list.contact? x = none)
    (status : Status) (parent : Option Group) : (s.applyStatus x status parent).1 = s := by
  simp only [applyStatus, h]

/-- A notice that is not about the presence of a contact. -/
theorem isPlain_of_mem_deliveries {s : Session} {n : Notice} {o : Occurrence}
    (hn : ∀ l, (Occurrence.delivered l n).isPlain = true) (h : o ∈ s.deliveries n) :
    o.isPlain = true := by
  obtain ⟨l, -, rfl⟩ := List.mem_map.1 h
  exact hn l

theorem Alike.plain {s s' : Session} (h : s.Alike s') : s.Plain s' :=
  ⟨by rw [h.list], h.seen, [], by rw [h.trace, List.append_nil], by simp⟩

theorem ask_plain (s : Session) (x : String) : s.Plain (s.ask x).1 := by
  have h := ask_idle s x
  exact ⟨by rw [h.list]; rfl, h.seen, [.requested (.userInfo x)], h.trace, by simp [Occurrence.isPlain]⟩

theorem Learns.plain {s t : Session} {g : Group} {x : String} {status : Status}
    (h : Learns g x status s t) : s.Plain t := by
  cases h with
  | atOnce _ answered =>
    have h := ask_plain s x
    rwa [answered] at h
  | @later _ _ p _ _ _ answered =>
    have h := (receive_idle s p.wait.query).toAlike.plain
    rwa [answered] at h

/-- All that a turn can be. -/
inductive News (s : Session) : Session → Prop
  | plain {t : Session} (plain : s.Plain t) : News s t
  | report (x : String) (status : Status) (parent : Option Group) :
      News s (s.applyStatus x status parent).1
  | polled {t : Session} {group : Group} {x : String} {status : Status} (report : PollReport)
      (awaiting : group.name = s.settings.awaitingGroup) (learns : Learns group x status s t) :
      News s (t.pollContact group report x status).1

theorem ownInfo_plain (s : Session) (info : UserInfo) : s.Plain (s.ownInfo info).1 := by
  simp only [ownInfo]
  split
  · exact (Alike.refl s).plain
  · exact ⟨rfl, rfl, _, rfl, fun _ => isPlain_of_mem_deliveries (s := s) fun _ => rfl⟩

theorem ownMessage_plain (s : Session) (message : Option String) :
    s.Plain (s.ownMessage message).1 := by
  unfold ownMessage
  split
  · exact (Alike.refl s).plain
  · split
    · exact (Alike.refl s).plain
    · exact ⟨rfl, rfl, _, rfl, fun _ => isPlain_of_mem_deliveries (s := s) fun _ => rfl⟩

theorem resetStatus_plain (s : Session) : s.Plain s.resetStatus := by
  simp only [resetStatus]
  split
  · exact ⟨rfl, rfl, [], (List.append_nil _).symm, by simp⟩
  · exact ⟨rfl, rfl, _, rfl, fun _ => isPlain_of_mem_deliveries (s := s) fun _ => rfl⟩

theorem buddyIcon_plain (s : Session) (x : String) (icon : Option (List UInt8)) :
    s.Plain (s.buddyIcon x icon) := by
  have htags := ContactList.map_modifyFirst Member.tag x
    (fun m => { m with contact := { m.contact with image := icon } }) s.list.members fun _ _ => rfl
  simp only [buddyIcon]
  split
  · exact (Alike.refl s).plain
  · exact ⟨htags, rfl, _, rfl, fun _ => isPlain_of_mem_deliveries (s := s) fun _ => rfl⟩

theorem Turn.news {s s' : Session} (h : Turn s s') : News s s' := by
  cases h with
  | silent alike _ => exact .plain alike.plain
  | command c => exact .plain ⟨rfl, rfl, [.commanded c], rfl, by simp [Occurrence.isPlain]⟩
  | ask x => exact .plain (ask_plain s x)
  | ownInfo info => exact .plain (ownInfo_plain s info)
  | ownMessage message => exact .plain (ownMessage_plain s message)
  | resetStatus => exact .plain (resetStatus_plain s)
  | report x status parent => exact .report x status parent
  | icon x icon => exact .plain (buddyIcon_plain s x icon)
  | polled report awaiting learns => exact .polled report awaiting learns

end Session

end Roster
