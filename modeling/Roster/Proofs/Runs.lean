import Roster.Proofs.News
import Roster.Session.Assembly
import Mathlib.Data.List.Nodup

/-! Whole runs. A run is a path of turns, changes of the list, and changes of who listens or decides; a
session that has just been built is sound, and stays so. -/

namespace Roster

namespace Session

/-- A turn, a change of the list, or one of who listens or decides. -/
inductive Stride : Session → Session → Prop
  | turn {s s' : Session} (turn : Turn s s') : Stride s s'
  | edit {s s' : Session} {x : String} (quiet : Quiet x s s') : Stride s s'
  | parties (s : Session) (hub : Hub) (desk : Desk) : Stride s { s with hub := hub, desk := desk }

abbrev Path : Session → Session → Prop := Relation.ReflTransGen Stride

theorem Course.path {s s' : Session} (h : Course s s') : Path s s' :=
  Relation.ReflTransGen.mono (fun _ _ => Stride.turn) _ _ h

theorem Deed.path {s t : Session} {step : Step} (h : Deed s step t) : Path s t := by
  cases h with
  | course course => exact course.path
  | edit _ quiet _ => exact .single (.edit quiet)
  | parties => exact .single (.parties s _ _)

theorem Deed.sound {s t : Session} {step : Step} (h : Deed s step t) (hs : s.Sound) : t.Sound := by
  cases h with
  | course course => exact course.sound hs
  | edit _ quiet _ => exact quiet.sound hs
  | parties => exact ⟨hs.numbered, hs.awaited⟩

theorem Deed.settings {s t : Session} {step : Step} (h : Deed s step t) : t.settings = s.settings := by
  cases h with
  | course course => exact course.frame.settings
  | edit _ quiet _ => exact quiet.settings
  | parties => rfl

theorem act_sound {s : Session} (hs : s.Sound) (step : Step) : (s.act step).1.Sound :=
  (act_deed hs step).sound hs

theorem perform_sound {s : Session} (hs : s.Sound) (step : Step) : (s.perform step).1.Sound :=
  (settle_course (act_sound hs step)).sound (act_sound hs step)

theorem perform_settings {s : Session} (hs : s.Sound) (step : Step) :
    (s.perform step).1.settings = s.settings :=
  (settle_course (act_sound hs step)).frame.settings.trans (act_deed hs step).settings

theorem perform_path {s : Session} (hs : s.Sound) (step : Step) : Path s (s.perform step).1 :=
  (act_deed hs step).path.trans (settle_course (act_sound hs step)).path

@[simp] theorem run_nil (s : Session) : s.run [] = s := rfl

@[simp] theorem run_cons (s : Session) (step : Step) (steps : List Step) :
    s.run (step :: steps) = (s.perform step).1.run steps := rfl

theorem run_append (s : Session) (steps more : List Step) :
    s.run (steps ++ more) = (s.run steps).run more := List.foldl_append

/-- Something holds all the way: before every step, and after the last. -/
def Throughout (P : Session → Prop) (s : Session) (steps : List Step) : Prop :=
  ∀ before, before <+: steps → P (s.run before)

/-- Something is true of no step where it is taken. -/
def Never (q : Session → Step → Bool) (s : Session) (steps : List Step) : Prop :=
  ∀ before step, before ++ [step] <+: steps → q (s.run before) step = false

section Throughout

variable {P : Session → Prop} {q : Session → Step → Bool} {s : Session} {step : Step}
  {steps : List Step}

theorem throughout_nil : s.Throughout P [] ↔ P s := by
  constructor
  · exact fun h => h [] (List.prefix_refl _)
  · intro h before hb
    rw [List.prefix_nil.1 hb]
    exact h

theorem throughout_cons :
    s.Throughout P (step :: steps) ↔ P s ∧ (s.perform step).1.Throughout P steps := by
  constructor
  · intro h
    exact ⟨h [] List.nil_prefix, fun before hb => h (step :: before) (by simpa using hb)⟩
  · rintro ⟨hnow, hlater⟩ before hb
    rcases List.prefix_cons_iff.1 hb with rfl | ⟨rest, rfl, hrest⟩
    · exact hnow
    · exact hlater rest hrest

theorem never_nil (q : Session → Step → Bool) (s : Session) : s.Never q [] :=
  fun before step hb => by simp at hb

theorem never_cons :
    s.Never q (step :: steps) ↔ q s step = false ∧ (s.perform step).1.Never q steps := by
  constructor
  · intro h
    exact ⟨h [] step (by simp), fun before next hb => h (step :: before) next (by simpa using hb)⟩
  · rintro ⟨hnow, hlater⟩ before next hb
    rcases before with _ | ⟨first, rest⟩
    · obtain rfl : next = step := by simpa using hb
      exact hnow
    · obtain ⟨rfl, hrest⟩ : first = step ∧ rest ++ [next] <+: steps := by simpa using hb
      exact hlater rest next hrest

/-- Where an invariant rules something out, and is kept, it never happens. -/
theorem never_of_kept {I : Session → Prop}
    (kept : ∀ s, ∀ step ∈ steps, I s → q s step = false ∧ I (s.perform step).1) :
    ∀ {s : Session}, I s → s.Never q steps := by
  induction steps with
  | nil => exact fun {s} _ => never_nil q s
  | cons step steps ih =>
    intro s h
    obtain ⟨hstep, hnext⟩ := kept s step List.mem_cons_self h
    exact never_cons.2 ⟨hstep, ih (fun s step' h' => kept s step' (List.mem_cons_of_mem _ h')) hnext⟩

/-- What an invariant gives holds exactly up to the first step that breaks the invariant, if it is
lost right after that. -/
theorem throughout_iff_never {I : Session → Prop} (holds : ∀ s, I s → P s)
    (kept : ∀ s, ∀ step ∈ steps, I s → q s step = false → I (s.perform step).1)
    (lost : ∀ s, ∀ step ∈ steps, I s → q s step = true → ¬P (s.perform step).1) :
    ∀ {s : Session}, I s →
      (s.Throughout P steps ↔ s.Never q steps) ∧ (s.Never q steps → I (s.run steps)) := by
  induction steps with
  | nil =>
    intro s h
    refine ⟨iff_of_true (fun before hb => ?_) (never_nil q s), fun _ => h⟩
    rw [List.prefix_nil.1 hb]
    exact holds s h
  | cons step steps ih =>
    intro s h
    have hrest (hi : I (s.perform step).1) :=
      ih (fun s step' h' => kept s step' (List.mem_cons_of_mem _ h'))
        (fun s step' h' => lost s step' (List.mem_cons_of_mem _ h')) hi
    rw [throughout_cons, never_cons, run_cons]
    cases hstep : q s step with
    | false =>
      obtain ⟨hiff, hinvariant⟩ := hrest (kept s step List.mem_cons_self h hstep)
      exact ⟨by simp [holds s h, hiff], fun hnever => hinvariant hnever.2⟩
    | true =>
      have hlost := lost s step List.mem_cons_self h hstep
      refine ⟨iff_of_false (fun hall => ?_) fun hnone => Bool.noConfusion hnone.1,
        fun hnone => Bool.noConfusion hnone.1⟩
      exact hlost (hall.2 [] List.nil_prefix)

end Throughout

theorem run_sound {s : Session} (hs : s.Sound) (steps : List Step) : (s.run steps).Sound := by
  induction steps generalizing s with
  | nil => exact hs
  | cons step steps ih => exact ih (perform_sound hs step)

theorem run_path {s : Session} (hs : s.Sound) (steps : List Step) : Path s (s.run steps) := by
  induction steps generalizing s with
  | nil => exact .refl
  | cons step steps ih => exact (perform_path hs step).trans (ih (perform_sound hs step))

end Session

/-- A session in which nothing has happened. -/
structure Session.Fresh (s : Session) : Prop where
  trace : s.trace = []
  seen : s.seen = []
  queries : s.queries = []
  tasks : s.tasks = []
  poller : s.poller = none

theorem Assembly.fresh_of_build {a : Assembly} {s : Session} (h : a.build = .ok s) : s.Fresh := by
  unfold build at h
  split at h
  · cases h
  · cases h
  · cases h
    exact ⟨rfl, rfl, rfl, rfl, rfl⟩

theorem Session.Fresh.sound {s : Session} (h : s.Fresh) : s.Sound where
  numbered := by rw [h.queries, asked, h.trace]; rfl
  awaited p hp := by rw [polls, h.tasks, h.poller] at hp; cases hp

/-- Every listener is registered once. -/
def Hub.Lawful (h : Hub) : Prop := ∀ c, (h.registry c).listeners.Nodup

theorem Registry.nodup_add {r : Registry} (h : r.listeners.Nodup) (l : Listener) :
    (r.add l).1.listeners.Nodup := by
  rw [add_listeners]
  split
  · exact h
  · next hl =>
    rw [← List.concat_eq_append]
    exact List.Nodup.concat hl h

theorem Hub.Lawful.add {h : Hub} (hh : h.Lawful) (c : Channel) (l : Listener) :
    (h.add c l).1.Lawful := by
  intro d
  simp only [Hub.add, registry_setRegistry]
  split
  · exact Registry.nodup_add (hh c) l
  · exact hh d

theorem Hub.Lawful.remove {h : Hub} (hh : h.Lawful) (c : Channel) (l : Listener) :
    (h.remove c l).1.Lawful := by
  intro d
  simp only [Hub.remove, registry_setRegistry]
  split
  · exact (hh c).filter _
  · exact hh d

theorem Step.rehub_lawful (step : Step) {h : Hub} (hh : h.Lawful) : (step.rehub h).Lawful := by
  unfold rehub
  split
  · next l channels =>
    induction channels generalizing h with
    | nil => exact hh
    | cons c channels ih => exact ih (hh.add c l)
  · next l channels =>
    induction channels generalizing h with
    | nil => exact hh
    | cons c channels ih => exact ih (hh.remove c l)
  · exact hh

theorem Assembly.lawful_of_build {a : Assembly} {s : Session} (h : a.build = .ok s) :
    s.hub.Lawful := by
  have hfold (ls : List Listener) (r : Registry) (hr : r.listeners.Nodup) :
      (ls.foldl (fun r l => (r.add l).1) r).listeners.Nodup := by
    induction ls generalizing r with
    | nil => exact hr
    | cons l ls ih => exact ih _ (Registry.nodup_add hr l)
  have hlawful : a.hub.Lawful := by
    intro c
    cases c <;> exact hfold a.listeners {} List.nodup_nil
  unfold build at h
  split at h
  · cases h
  · cases h
  · cases h
    exact hlawful

/-- Takes a listener off a channel. -/
def Step.unregisters (l : Listener) (c : Channel) : Step → Bool
  | .removeListener l' channels => l' = l ∧ c ∈ channels
  | _ => false

theorem Hub.mem_add {h : Hub} {l : Listener} {c : Channel} (hl : l ∈ (h.registry c).listeners)
    (d : Channel) (l' : Listener) : l ∈ ((h.add d l').1.registry c).listeners := by
  simp only [Hub.add, registry_setRegistry]
  split
  · next hcd =>
    rw [Registry.add_listeners, ← hcd]
    split
    · exact hl
    · exact List.mem_append_left _ hl
  · exact hl

theorem Hub.mem_remove {h : Hub} {l l' : Listener} {c d : Channel}
    (hl : l ∈ (h.registry c).listeners) (hne : ¬(l' = l ∧ c = d)) :
    l ∈ ((h.remove d l').1.registry c).listeners := by
  simp only [Hub.remove, registry_setRegistry]
  split
  · next hcd =>
    rw [Registry.remove_listeners, ← hcd]
    exact List.mem_filter.2 ⟨hl, by simpa using fun hll => hne ⟨hll.symm, hcd⟩⟩
  · exact hl

theorem Step.mem_rehub {step : Step} {l : Listener} {c : Channel} {h : Hub}
    (hstep : step.unregisters l c = false) (hl : l ∈ (h.registry c).listeners) :
    l ∈ ((step.rehub h).registry c).listeners := by
  cases step with
  | addListener l' channels =>
    clear hstep
    simp only [rehub]
    induction channels generalizing h with
    | nil => exact hl
    | cons d channels ih => exact ih (Hub.mem_add hl d l')
  | removeListener l' channels =>
    simp only [unregisters, decide_eq_false_iff_not] at hstep
    simp only [rehub]
    induction channels generalizing h with
    | nil => exact hl
    | cons d channels ih =>
      refine ih (Hub.mem_remove hl fun hd => hstep ⟨hd.1, by simp [hd.2]⟩) fun hc => ?_
      exact hstep ⟨hc.1, List.mem_cons_of_mem _ hc.2⟩
  | _ => exact hl

namespace Session

/-- A step leaves the registries alone, or does nothing else. -/
theorem Deed.hub {s t : Session} {step : Step} (h : Deed s step t) :
    t.hub = s.hub ∨ t.hub = step.rehub s.hub := by
  cases h with
  | course course => exact .inl course.frame.hub
  | edit _ quiet _ => exact .inl quiet.hub
  | parties => exact .inr rfl

theorem perform_hub {s : Session} (hs : s.Sound) (step : Step) :
    (s.perform step).1.hub = s.hub ∨ (s.perform step).1.hub = step.rehub s.hub := by
  rw [perform, (settle_course (act_sound hs step)).frame.hub]
  exact (act_deed hs step).hub

theorem run_lawful {s : Session} (hs : s.Sound) (hh : s.hub.Lawful) (steps : List Step) :
    (s.run steps).hub.Lawful := by
  induction steps generalizing s with
  | nil => exact hh
  | cons step steps ih =>
    refine ih (perform_sound hs step) ?_
    rcases perform_hub hs step with h | h <;> rw [h]
    · exact hh
    · exact step.rehub_lawful hh

/-- Some steps have led here from a session that has just been built. -/
def Reachable (s : Session) : Prop :=
  ∃ (a : Assembly) (s₀ : Session) (steps : List Step), a.build = .ok s₀ ∧ s = s₀.run steps

theorem Reachable.sound {s : Session} (h : s.Reachable) : s.Sound := by
  obtain ⟨a, s₀, steps, built, rfl⟩ := h
  exact run_sound (Assembly.fresh_of_build built).sound steps

theorem Reachable.lawful {s : Session} (h : s.Reachable) : s.hub.Lawful := by
  obtain ⟨a, s₀, steps, built, rfl⟩ := h
  exact run_lawful (Assembly.fresh_of_build built).sound (Assembly.lawful_of_build built) steps

end Session

end Roster
