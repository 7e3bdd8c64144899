import Mathlib.Data.List.Induction
import Roster.Proofs.Runs

/-! The registries of a hub after any calls. Who is registered is told by the last call about each listener,
and in what order by the last one that registered it: adding a listener again does not move it, removing it
first does. -/

namespace Roster.Hub

/-- A call that may change a registry. -/
inductive Call
  | add (channel : Channel) (listener : Listener)
  | remove (channel : Channel) (listener : Listener)
  deriving DecidableEq, Repr

def Call.channel : Call → Channel
  | .add c _ | .remove c _ => c

def Call.listener : Call → Listener
  | .add _ l | .remove _ l => l

/-- The hub after a call, and what the call returns. -/
def call (h : Hub) : Call → Hub × Bool
  | .add c l => h.add c l
  | .remove c l => h.remove c l

def callAll (h : Hub) (calls : List Call) : Hub := calls.foldl (fun h k => (h.call k).1) h

theorem callAll_concat (h : Hub) (calls : List Call) (k : Call) :
    h.callAll (calls ++ [k]) = ((h.callAll calls).call k).1 := by
  rw [callAll, List.foldl_append]
  rfl

/-- The listeners of a registry, in order. -/
def listeners (h : Hub) (c : Channel) : List Listener := (h.registry c).listeners

section Call

variable (h : Hub) (c : Channel) (l : Listener)

theorem add_eq_true_iff : (h.call (.add c l)).2 = true ↔ l ∉ h.listeners c := by
  simp only [call, add, Registry.add, listeners]
  split <;> simpa

theorem remove_eq_true_iff : (h.call (.remove c l)).2 = true ↔ l ∈ h.listeners c := decide_eq_true_iff

theorem registry_call_of_ne {k : Call} (hk : k.channel ≠ c) : (h.call k).1.registry c = h.registry c := by
  cases k with
  | add d m | remove d m => exact (registry_setRegistry ..).trans (if_neg fun hcd => hk hcd.symm)

/-- All that a call can do to a registry. -/
theorem call_cases (k : Call) :
    (∃ l, k = .add c l ∧ l ∉ h.listeners c ∧ (h.call k).1.listeners c = h.listeners c ++ [l]) ∨
      (∃ l, k = .remove c l ∧ (h.call k).1.listeners c = (h.listeners c).filter (· ≠ l)) ∨
      (∀ l, k = .add c l → l ∈ h.listeners c) ∧ (∀ l, k ≠ .remove c l) ∧
        (h.call k).1.listeners c = h.listeners c := by
  by_cases hc : k.channel = c
  · cases k with
    | add d m =>
      cases hc
      simp only [Call.channel, listeners, call, add, registry_setRegistry, if_true, Registry.add_listeners]
      by_cases hm : m ∈ (h.registry d).listeners
      · refine .inr (.inr ⟨?_, ?_, if_pos hm⟩)
        · rintro l ⟨⟩
          exact hm
        · rintro l ⟨⟩
      · exact .inl ⟨m, rfl, hm, if_neg hm⟩
    | remove d m =>
      cases hc
      refine .inr (.inl ⟨m, rfl, ?_⟩)
      simp only [listeners, Call.channel, call, remove, registry_setRegistry, if_true,
        Registry.remove_listeners]
  · refine .inr (.inr ⟨?_, ?_, ?_⟩)
    · rintro l rfl
      exact absurd rfl hc
    · rintro l rfl
      exact hc rfl
    · rw [listeners, registry_call_of_ne h c hc, listeners]

theorem lawful_call {h : Hub} (lawful : h.Lawful) (k : Call) : (h.call k).1.Lawful := by
  cases k with
  | add c l => exact lawful.add c l
  | remove c l => exact lawful.remove c l

/-- A call settles of its listener whether it is registered, and of no other. -/
theorem mem_call (k : Call) : l ∈ (h.call k).1.listeners c ↔
    if k.channel = c ∧ k.listener = l then k = .add c l else l ∈ h.listeners c := by
  rcases call_cases h c k with ⟨m, rfl, -, hlisteners⟩ | ⟨m, rfl, hlisteners⟩ | ⟨hadd, hremove, hlisteners⟩
  · rw [hlisteners, List.mem_append, List.mem_singleton]
    by_cases hm : l = m <;> simp [Call.channel, Call.listener, hm, Ne.symm]
  · rw [hlisteners, List.mem_filter]
    by_cases hm : l = m <;> simp [Call.channel, Call.listener, hm, Ne.symm]
  · rw [hlisteners]
    split
    · next hk =>
      cases k with
      | add d m =>
        obtain ⟨rfl, rfl⟩ := hk
        exact iff_of_true (hadd _ rfl) rfl
      | remove d m =>
        obtain ⟨rfl, rfl⟩ := hk
        exact absurd rfl (hremove _)
    · exact .rfl

end Call

/-- The calls about one listener on one registry. -/
def callsAbout (c : Channel) (l : Listener) (calls : List Call) : List Call :=
  calls.filter fun k => k.channel = c ∧ k.listener = l

/-- The call at this place added the listener, and returned that it was new. -/
def AddedAt (calls : List Call) (c : Channel) (l : Listener) (i : Nat) : Prop :=
  calls[i]? = some (.add c l) ∧ ((callAll {} (calls.take i)).call (.add c l)).2 = true

/-- The last place where the listener was added. -/
structure LastAdded (calls : List Call) (c : Channel) (l : Listener) (i : Nat) : Prop where
  added : AddedAt calls c l i
  last : ∀ j, AddedAt calls c l j → j ≤ i

section CallAll

variable {calls : List Call} {c : Channel} {l : Listener} {i : Nat}

theorem callAll_lawful (calls : List Call) : (callAll {} calls).Lawful := by
  induction calls using List.reverseRecOn with
  | nil => intro c; cases c <;> exact List.nodup_nil
  | append_singleton calls k ih =>
    rw [callAll_concat]
    exact lawful_call ih k

theorem mem_callAll (calls : List Call) (c : Channel) (l : Listener) :
    l ∈ (callAll {} calls).listeners c ↔ (callsAbout c l calls).getLast? = some (.add c l) := by
  induction calls using List.reverseRecOn with
  | nil => cases c <;> simp [callAll, callsAbout, listeners, registry]
  | append_singleton calls k ih =>
    rw [callAll_concat, mem_call, callsAbout, List.filter_append, ← callsAbout]
    split
    · next hk => simp [hk]
    · next hk => simpa [hk] using ih

theorem AddedAt.lt (h : AddedAt calls c l i) : i < calls.length := by
  obtain ⟨hlt, -⟩ := List.getElem?_eq_some_iff.1 h.1
  exact hlt

/-- One more call adds a listener that was not there, or nobody, and changes nothing about the others. -/
theorem addedAt_concat (k : Call) : AddedAt (calls ++ [k]) c l i ↔
    AddedAt calls c l i ∨
      i = calls.length ∧ k = .add c l ∧ l ∉ (callAll {} calls).listeners c := by
  rcases Nat.lt_trichotomy i calls.length with hi | rfl | hi
  · rw [AddedAt, List.getElem?_append_left hi, List.take_append_of_le_length (Nat.le_of_lt hi), ← AddedAt,
      or_iff_left fun h => Nat.ne_of_lt hi h.1]
  · have hnot : ¬AddedAt calls c l calls.length := fun h => Nat.lt_irrefl _ h.lt
    rw [or_iff_right hnot, AddedAt, add_eq_true_iff]
    simp
  · have hnot : ¬AddedAt calls c l i := fun h => Nat.lt_asymm hi h.lt
    have hnot' : ¬AddedAt (calls ++ [k]) c l i := fun h => by
      have hlt := h.lt
      rw [List.length_append, List.length_singleton] at hlt
      omega
    refine iff_of_false hnot' ?_
    rintro (h | h)
    · exact hnot h
    · omega

theorem LastAdded.concat (h : LastAdded calls c l i) {k : Call}
    (hk : k = .add c l → l ∈ (callAll {} calls).listeners c) : LastAdded (calls ++ [k]) c l i := by
  refine ⟨(addedAt_concat k).2 (.inl h.added), ?_⟩
  intro j hj
  rcases (addedAt_concat k).1 hj with hold | ⟨-, hadd, hnew⟩
  · exact h.last j hold
  · exact absurd (hk hadd) hnew

theorem lastAdded_concat (new : l ∉ (callAll {} calls).listeners c) :
    LastAdded (calls ++ [.add c l]) c l calls.length := by
  refine ⟨(addedAt_concat _).2 (.inr ⟨rfl, rfl, new⟩), ?_⟩
  intro j hj
  rcases (addedAt_concat _).1 hj with hold | ⟨hlength, -⟩
  · exact Nat.le_of_lt hold.lt
  · exact Nat.le_of_eq hlength

/-- Some listeners stand in the order in which they were added for the last time. -/
structure InOrder (calls : List Call) (c : Channel) (ls : List Listener) : Prop where
  added : ∀ l ∈ ls, ∃ i, LastAdded calls c l i
  pairwise : ls.Pairwise fun l m => ∃ i j, LastAdded calls c l i ∧ LastAdded calls c m j ∧ i < j

namespace InOrder

variable {ls : List Listener}

theorem filter (h : InOrder calls c ls) (p : Listener → Bool) : InOrder calls c (ls.filter p) :=
  ⟨fun l hl => h.added l (List.mem_filter.1 hl).1, h.pairwise.filter p⟩

/-- A call that adds none of them anew leaves the order as it is. -/
theorem concat (h : InOrder calls c ls) {k : Call}
    (hk : ∀ l ∈ ls, k = .add c l → l ∈ (callAll {} calls).listeners c) : InOrder (calls ++ [k]) c ls := by
  constructor
  · intro l hl
    obtain ⟨i, hi⟩ := h.added l hl
    exact ⟨i, hi.concat (hk l hl)⟩
  · refine h.pairwise.imp_of_mem ?_
    rintro l m hl hm ⟨i, j, hi, hj, hij⟩
    exact ⟨i, j, hi.concat (hk l hl), hj.concat (hk m hm), hij⟩

/-- A listener that is new comes last. -/
theorem append (h : InOrder calls c ls) (hls : ∀ m ∈ ls, m ≠ l)
    (new : l ∉ (callAll {} calls).listeners c) : InOrder (calls ++ [.add c l]) c (ls ++ [l]) := by
  have hstay : InOrder (calls ++ [.add c l]) c ls := by
    refine h.concat ?_
    rintro m hm ⟨⟩
    exact absurd rfl (hls _ hm)
  have hlast := lastAdded_concat new
  constructor
  · intro m hm
    rcases List.mem_append.1 hm with hm | hm
    · exact hstay.added m hm
    · rw [List.mem_singleton.1 hm]
      exact ⟨_, hlast⟩
  · refine List.pairwise_append.2 ⟨hstay.pairwise, List.pairwise_singleton _ _, ?_⟩
    intro m hm l' hl'
    rw [List.mem_singleton.1 hl']
    obtain ⟨i, hi⟩ := h.added m hm
    refine ⟨i, calls.length, hi.concat ?_, hlast, hi.added.lt⟩
    rintro ⟨⟩
    exact absurd rfl (hls _ hm)

end InOrder

theorem listeners_inOrder (calls : List Call) (c : Channel) :
    InOrder calls c ((callAll {} calls).listeners c) := by
  induction calls using List.reverseRecOn with
  | nil => cases c <;> exact ⟨nofun, List.Pairwise.nil⟩
  | append_singleton calls k ih =>
    rw [callAll_concat]
    rcases call_cases (callAll {} calls) c k with
      ⟨l, rfl, hnew, hlisteners⟩ | ⟨l, rfl, hlisteners⟩ | ⟨hadd, -, hlisteners⟩
    · rw [hlisteners]
      exact ih.append (fun m hm heq => hnew (heq ▸ hm)) hnew
    · rw [hlisteners]
      refine InOrder.filter (ih.concat ?_) _
      rintro m - ⟨⟩
    · rw [hlisteners]
      exact ih.concat fun m _ hm => hadd m hm

end CallAll

/-- After any calls a registry holds exactly those whose last call was to add them, each once, in the order in
which they were added for the last time; to add and to remove tells whether it was needed, what can be asked
of a registry agrees with that list, and a call on one registry is none of another's concern. -/
theorem registries_follow_calls (calls : List Call) (c : Channel) :
    let h := callAll {} calls
    let ls := (h.registry c).listeners
    ls.Nodup ∧
      (∀ l, l ∈ ls ↔ (callsAbout c l calls).getLast? = some (.add c l)) ∧
      (∀ l ∈ ls, ∃ i, LastAdded calls c l i) ∧
      ls.Pairwise (fun l m => ∃ i j, LastAdded calls c l i ∧ LastAdded calls c m j ∧ i < j) ∧
      (∀ l, ((h.call (.add c l)).2 = true ↔ l ∉ ls) ∧ ((h.call (.remove c l)).2 = true ↔ l ∈ ls)) ∧
      (∀ l, (h.registry c).contains l = true ↔ l ∈ ls) ∧
      (h.registry c).size = ls.length ∧
      ((h.registry c).isEmpty = true ↔ ls = []) ∧
      (∀ n, n.channel = c → h.audience n = ls) ∧
      ∀ k, k.channel ≠ c → (h.call k).1.registry c = h.registry c := by
  intro h ls
  have horder := listeners_inOrder calls c
  refine ⟨callAll_lawful calls c, mem_callAll calls c, horder.added, horder.pairwise, ?_, ?_, rfl, ?_, ?_, ?_⟩
  · intro l
    exact ⟨add_eq_true_iff h c l, remove_eq_true_iff h c l⟩
  · intro l
    exact decide_eq_true_iff
  · exact List.isEmpty_iff
  · rintro n rfl
    rfl
  · intro k hk
    exact registry_call_of_ne h c hk

end Roster.Hub
