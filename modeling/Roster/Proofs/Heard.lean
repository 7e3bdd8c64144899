import Roster.Proofs.Runs

/-! What a listener hears of what happens. In registries that hold each listener once, everybody who is
registered hears a notice once. -/

namespace Roster

/-- The notice that a listener was given. -/
def Occurrence.notice? (l : Listener) : Occurrence → Option Notice
  | .delivered l' n => if l' = l then some n else none
  | _ => none

/-- The notices in a piece of the trace that a listener was given. -/
def notices (l : Listener) (os : List Occurrence) : List Notice :=
  os.filterMap (Occurrence.notice? l)

theorem notices_append (l : Listener) (os os' : List Occurrence) :
    notices l (os ++ os') = notices l os ++ notices l os' := List.filterMap_append

namespace Session

theorem heard_eq (s : Session) (l : Listener) : s.heard l = notices l s.trace := rfl

theorem heard_append {s s' : Session} {new : List Occurrence} (h : s'.trace = s.trace ++ new)
    (l : Listener) : s'.heard l = s.heard l ++ notices l new := by
  rw [heard_eq, h, notices_append, heard_eq]

theorem notices_map_delivered {ls : List Listener} (hls : ls.Nodup) (l : Listener) (n : Notice) :
    notices l (ls.map (Occurrence.delivered · n)) = if l ∈ ls then [n] else [] := by
  induction ls with
  | nil => rfl
  | cons l' ls ih =>
    obtain ⟨hl', hls⟩ := List.nodup_cons.1 hls
    by_cases h : l' = l
    · subst h
      rw [if_pos List.mem_cons_self, List.map_cons, notices,
        List.filterMap_cons_some (b := n) (by simp [Occurrence.notice?])]
      have hrest := ih hls
      rw [if_neg hl'] at hrest
      rw [← notices, hrest]
    · rw [List.map_cons, notices, List.filterMap_cons_none (by simp [Occurrence.notice?, h]), ← notices,
        ih hls]
      simp [Ne.symm h]

/-- Whoever is registered hears a notice once. -/
theorem notices_deliveries {s : Session} (hs : s.hub.Lawful) (l : Listener) (n : Notice) :
    notices l (s.deliveries n) = if l ∈ s.hub.audience n ∧ l.hears n = true then [n] else [] := by
  have haudience : (s.hub.audience n).Nodup := hs n.channel
  rw [deliveries, notices_map_delivered (haudience.filter _)]
  simp only [List.mem_filter]

end Session

end Roster
