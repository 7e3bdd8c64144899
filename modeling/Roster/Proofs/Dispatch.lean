import Roster.Listener.Script
import Roster.Proofs.Runs

/-! Firing from inside a delivery. The agenda of a stage is worked off as if every fire were a call of its
own: a round through the listeners registered when it began, in which whatever a listener does is done
before the next one is told. What is added or removed on the way does not change a round that has begun,
and counts for every one that begins after it. -/

namespace Roster

/-- What an action makes of the registries. -/
def Action.rehub (h : Hub) : Action → Hub
  | .add c l => (h.add c l).1
  | .remove c l => (h.remove c l).1
  | _ => h

def Action.isFire : Action → Bool
  | .fire _ => true
  | _ => false

theorem Action.rehub_lawful {h : Hub} (hh : h.Lawful) (a : Action) : (a.rehub h).Lawful := by
  cases a with
  | add c l => exact hh.add c l
  | remove c l => exact hh.remove c l
  | _ => exact hh

namespace Stage

def Entry.depth : Entry → Nat
  | .heard d _ _ | .ignored d _ _ | .did d _ _ _ => d

/-- Who is told what at a depth, whether it listens or not. -/
def Entry.telling? (d : Nat) : Entry → Option (Listener × Notice)
  | .heard d' l n | .ignored d' l n => if d' = d then some (l, n) else none
  | .did .. => none

/-- The deliveries at a depth, in order. -/
def tellings (d : Nat) (log : List Entry) : List (Listener × Notice) :=
  log.filterMap (Entry.telling? d)

def Entry.rehub (h : Hub) : Entry → Hub
  | .did _ _ a _ => a.rehub h
  | _ => h

/-- The registries after everything in a log. -/
def replay (h : Hub) (log : List Entry) : Hub := log.foldl Entry.rehub h

/-- A round of deliveries, or a script of a listener. -/
inductive Part
  | round (notice : Notice) (listeners : List Listener)
  | script (listener : Listener) (actions : List Action)

/-- A part is played at a depth, from one state of the stage to another. A listener that is told something
plays the script it takes up, and a fire plays a round of its own, before anything else goes on. -/
inductive Plays : Nat → Part → Stage → List Entry → Stage → Prop
  | told (d : Nat) (n : Notice) (s : Stage) : Plays d (.round n []) s [] s
  | ignored {d : Nat} {l : Listener} {n : Notice} {ls : List Listener} {s t : Stage}
      {log : List Entry} (deaf : l.hears n = false) (rest : Plays d (.round n ls) s log t) :
      Plays d (.round n (l :: ls)) s (.ignored d l n :: log) t
  | heard {d : Nat} {l : Listener} {n : Notice} {ls : List Listener} {s t : Stage}
      {log : List Entry} (hears : l.hears n = true) (idle : takeScript l s.scripts = none)
      (rest : Plays d (.round n ls) s log t) :
      Plays d (.round n (l :: ls)) s (.heard d l n :: log) t
  | acted {d : Nat} {l : Listener} {n : Notice} {ls : List Listener} {s t u : Stage}
      {actions : List Action} {scripts : List (Listener × List Action)} {inner log : List Entry}
      (hears : l.hears n = true) (taken : takeScript l s.scripts = some (actions, scripts))
      (acts : Plays d (.script l actions) { s with scripts } inner t)
      (rest : Plays d (.round n ls) t log u) :
      Plays d (.round n (l :: ls)) s (.heard d l n :: (inner ++ log)) u
  | done (d : Nat) (l : Listener) (s : Stage) : Plays d (.script l []) s [] s
  | did {d : Nat} {l : Listener} {a : Action} {actions : List Action} {s t : Stage}
      {log : List Entry} (plain : a.isFire = false)
      (rest : Plays d (.script l actions) (s.apply a).1 log t) :
      Plays d (.script l (a :: actions)) s (.did d l a (s.apply a).2 :: log) t
  | fired {d : Nat} {l : Listener} {n : Notice} {actions : List Action} {s t u : Stage}
      {inner log : List Entry} (round : Plays (d + 1) (.round n (s.hub.audience n)) s inner t)
      (rest : Plays d (.script l actions) t log u) :
      Plays d (.script l (.fire n :: actions)) s
        (inner ++ .did d l (.fire n) (.count (s.hub.audience n).length) :: log) u

/-- A part as it stands on an agenda. -/
def Part.items (d : Nat) : Part → List Item
  | .round n ls => ls.map (Item.tell d · n)
  | .script l actions => actions.map (Item.act d l)

def Part.length : Part → Nat
  | .round _ ls => ls.length
  | .script _ actions => actions.length

@[simp] theorem agendaWeight_round (d : Nat) (n : Notice) (ls : List Listener) :
    agendaWeight ((Part.round n ls).items d) = 0 := agendaWeight_tell d n ls

@[simp] theorem agendaWeight_script (d : Nat) (l : Listener) (actions : List Action) :
    agendaWeight ((Part.script l actions).items d) = Action.weights actions :=
  agendaWeight_act d l actions

section Agenda

variable {d : Nat} {l : Listener} {n : Notice} {s : Stage} {rest : List Item}

theorem items_round_cons {ls : List Listener} : (Part.round n (l :: ls)).items d ++ rest =
    .tell d l n :: ((Part.round n ls).items d ++ rest) := rfl

theorem items_script_cons {a : Action} {actions : List Action} :
    (Part.script l (a :: actions)).items d ++ rest =
      .act d l a :: ((Part.script l actions).items d ++ rest) := rfl

theorem run_tell_of_deaf (deaf : l.hears n = false) : s.run (.tell d l n :: rest) =
    ((s.run rest).1, .ignored d l n :: (s.run rest).2) := by
  rw [run, if_neg (by simp [deaf])]

theorem run_tell_of_idle (hears : l.hears n = true) (idle : takeScript l s.scripts = none) :
    s.run (.tell d l n :: rest) = ((s.run rest).1, .heard d l n :: (s.run rest).2) := by
  rw [run, if_pos hears]
  split
  · next h => cases idle.symm.trans h
  · rfl

theorem run_tell_of_taken {actions : List Action} {scripts : List (Listener × List Action)}
    (hears : l.hears n = true) (taken : takeScript l s.scripts = some (actions, scripts)) :
    s.run (.tell d l n :: rest) =
      let after := run { s with scripts } ((Part.script l actions).items d ++ rest)
      (after.1, .heard d l n :: after.2) := by
  rw [run, if_pos hears]
  split
  · next h =>
    cases taken.symm.trans h
    rfl
  · next h => cases taken.symm.trans h

theorem run_act {a : Action} (plain : a.isFire = false) : s.run (.act d l a :: rest) =
    (((s.apply a).1.run rest).1, .did d l a (s.apply a).2 :: ((s.apply a).1.run rest).2) := by
  rw [run]
  rintro n rfl
  cases plain

theorem run_fire : s.run (.act d l (.fire n) :: rest) =
    s.run ((Part.round n (s.hub.audience n)).items (d + 1) ++
      .report d l (.fire n) (.count (s.hub.audience n).length) :: rest) := by
  rw [run]
  rfl

theorem run_report {a : Action} {r : Reply} : s.run (.report d l a r :: rest) =
    ((s.run rest).1, .did d l a r :: (s.run rest).2) := by
  rw [run]

end Agenda

/-- An agenda is worked off part by part, and a part as if it were called. -/
theorem exists_plays (d : Nat) (p : Part) (s : Stage) : ∃ t log, Plays d p s log t ∧
    queueWeight t.scripts ≤ queueWeight s.scripts + agendaWeight (p.items d) ∧
    ∀ rest, s.run (p.items d ++ rest) = ((t.run rest).1, log ++ (t.run rest).2) := by
  match p with
  | .round n [] => exact ⟨s, [], .told d n s, by simp, fun _ => rfl⟩
  | .round n (l :: ls) =>
    cases hears : l.hears n with
    | false =>
      obtain ⟨t, log, hplays, hweight, hrun⟩ := exists_plays d (.round n ls) s
      refine ⟨t, _, .ignored hears hplays, by simpa using hweight, fun rest => ?_⟩
      rw [items_round_cons, run_tell_of_deaf hears, hrun, List.cons_append]
    | true =>
      cases taken : takeScript l s.scripts with
      | none =>
        obtain ⟨t, log, hplays, hweight, hrun⟩ := exists_plays d (.round n ls) s
        refine ⟨t, _, .heard hears taken hplays, by simpa using hweight, fun rest => ?_⟩
        rw [items_round_cons, run_tell_of_idle hears taken, hrun, List.cons_append]
      | some script =>
        obtain ⟨actions, scripts⟩ := script
        have hless := queueWeight_takeScript taken
        obtain ⟨t, inner, hacts, hweight, hinner⟩ :=
          exists_plays d (.script l actions) { s with scripts }
        have hsmaller : queueWeight t.scripts < queueWeight s.scripts := by
          rw [agendaWeight_script] at hweight
          exact Nat.lt_of_le_of_lt hweight hless
        obtain ⟨u, log, hplays, hweight', hrun⟩ := exists_plays d (.round n ls) t
        rw [agendaWeight_round] at hweight'
        refine ⟨u, _, .acted hears taken hacts hplays, by simp; omega, fun rest => ?_⟩
        rw [items_round_cons, run_tell_of_taken hears taken, hinner, hrun, List.cons_append,
          List.append_assoc]
  | .script l [] => exact ⟨s, [], .done d l s, by simp, fun _ => rfl⟩
  | .script l (a :: actions) =>
    cases plain : a.isFire with
    | false =>
      have hless := queueWeight_apply s a
      obtain ⟨t, log, hplays, hweight, hrun⟩ := exists_plays d (.script l actions) (s.apply a).1
      rw [agendaWeight_script] at hweight
      refine ⟨t, _, .did plain hplays, by simp [Action.weights]; omega, fun rest => ?_⟩
      rw [items_script_cons, run_act plain, hrun, List.cons_append]
    | true =>
      cases a with
      | fire n =>
        obtain ⟨t, inner, hround, hweight, hinner⟩ :=
          exists_plays (d + 1) (.round n (s.hub.audience n)) s
        have hsmaller : queueWeight t.scripts ≤ queueWeight s.scripts := by
          rwa [agendaWeight_round] at hweight
        obtain ⟨u, log, hplays, hweight', hrun⟩ := exists_plays d (.script l actions) t
        rw [agendaWeight_script] at hweight'
        refine ⟨u, _, .fired hround hplays, by simp [Action.weights]; omega, fun rest => ?_⟩
        rw [items_script_cons, run_fire, hinner, run_report, hrun, List.append_assoc,
          List.cons_append]
      | _ => cases plain
termination_by (queueWeight s.scripts + agendaWeight (p.items d), p.length)
decreasing_by
  -- a round that goes on takes up no script and gets shorter; all else takes something off
  iterate 2 exact Prod.Lex.right' _ (by simp) (by simp [Part.length])
  all_goals
    apply Prod.Lex.left
    simp only [agendaWeight_round, agendaWeight_script, Action.weights, Action.weight]
    omega

theorem apply_hub (s : Stage) (a : Action) : (s.apply a).1.hub = a.rehub s.hub := by
  cases a <;> rfl

theorem replay_append (h : Hub) (log more : List Entry) :
    replay h (log ++ more) = replay (replay h log) more := List.foldl_append

theorem replay_lawful {h : Hub} (hh : h.Lawful) (log : List Entry) : (replay h log).Lawful := by
  induction log generalizing h with
  | nil => exact hh
  | cons e log ih =>
    refine ih ?_
    cases e with
    | did d l a r => exact a.rehub_lawful hh
    | _ => exact hh

theorem tellings_append (d : Nat) (log more : List Entry) :
    tellings d (log ++ more) = tellings d log ++ tellings d more := List.filterMap_append

theorem tellings_cons (d : Nat) (e : Entry) (log : List Entry) :
    tellings d (e :: log) = (e.telling? d).toList ++ tellings d log := by
  cases h : e.telling? d <;> simp [tellings, h]

theorem tellings_of_deeper {d : Nat} {log : List Entry} (h : ∀ e ∈ log, d < e.depth) :
    tellings d log = [] := by
  refine List.filterMap_eq_nil_iff.2 fun e he => ?_
  have hdepth : e.depth ≠ d := Nat.ne_of_gt (h e he)
  cases e with
  | did => rfl
  | _ => exact if_neg hdepth

/-- The deliveries that a part makes itself. -/
def Part.tellings : Part → List (Listener × Notice)
  | .round n ls => ls.map (·, n)
  | .script .. => []

def Part.isScript : Part → Bool
  | .script .. => true
  | .round .. => false

namespace Plays

variable {d : Nat} {p : Part} {s t : Stage} {log : List Entry}

theorem depth_le (h : Plays d p s log t) : ∀ e ∈ log, d ≤ e.depth := by
  induction h with
  | told | done => exact List.forall_mem_nil _
  | ignored _ _ ih | heard _ _ _ ih | did _ _ ih =>
    exact List.forall_mem_cons.2 ⟨Nat.le_refl _, ih⟩
  | acted _ _ _ _ ihacts ihrest =>
    exact List.forall_mem_cons.2 ⟨Nat.le_refl _, List.forall_mem_append.2 ⟨ihacts, ihrest⟩⟩
  | fired _ _ ihround ihrest =>
    refine List.forall_mem_append.2 ⟨fun e he => ?_, List.forall_mem_cons.2 ⟨Nat.le_refl _, ihrest⟩⟩
    exact Nat.le_of_succ_le (ihround e he)

/-- The deliveries at its own depth are those of the part itself. -/
theorem tellings (h : Plays d p s log t) : tellings d log = p.tellings := by
  induction h with
  | told | done => rfl
  | ignored _ _ ih | heard _ _ _ ih => rw [tellings_cons, ih, Entry.telling?, if_pos rfl]; rfl
  | acted _ _ _ _ ihacts ihrest =>
    rw [tellings_cons, tellings_append, ihacts, ihrest, Entry.telling?, if_pos rfl]
    rfl
  | did _ _ ih => exact ih
  | fired round _ _ ih => rw [tellings_append, tellings_of_deeper round.depth_le, tellings_cons, ih]; rfl

/-- Only what is put down has happened to the registries. -/
theorem hub (h : Plays d p s log t) : t.hub = replay s.hub log := by
  induction h with
  | told | done => rfl
  | ignored _ _ ih | heard _ _ _ ih => exact ih
  | acted _ _ _ _ ihacts ihrest =>
    rw [ihrest, ihacts, ← replay_append]
    rfl
  | @did _ _ _ _ s _ _ _ _ ih =>
    rw [ih, apply_hub]
    rfl
  | fired _ _ ihround ihrest =>
    rw [ihrest, ihround, replay_append]
    rfl

end Plays

/-- A fire from inside a delivery at a depth. What was put down before it is `outer`, which has come to
the script that the fire is in; `inner` is all of its own, and nothing else. -/
structure Nested (h : Hub) (d : Nat) (n : Notice) (r : Reply) (outer inner : List Entry) : Prop where
  begun : outer.getLast?.map Entry.depth = some d
  inside : ∀ e ∈ inner, d < e.depth
  told : tellings (d + 1) inner = ((replay h outer).audience n).map (·, n)
  reply : r = .count ((replay h outer).audience n).length

/-- Every fire in a log is nested in what was put down before it, earlier or in the log. -/
def Nests (h : Hub) (earlier log : List Entry) : Prop :=
  ∀ before after d l n r, log = before ++ .did d l (.fire n) r :: after →
    ∃ outer inner, earlier ++ before = outer ++ inner ∧ Nested h d n r outer inner

namespace Nests

variable {h : Hub} {earlier log more : List Entry}

theorem nil : Nests h earlier [] := fun before after d l n r hlog => by simp at hlog

theorem append (hlog : Nests h earlier log) (hmore : Nests h (earlier ++ log) more) :
    Nests h earlier (log ++ more) := by
  intro before after d l n r heq
  rcases split_append heq with ⟨rest, hsplit, -⟩ | ⟨skipped, rfl, hsplit⟩
  · exact hlog before rest d l n r hsplit
  · rw [← List.append_assoc]
    exact hmore skipped after d l n r hsplit

/-- An entry that is about no fire. -/
theorem cons {e : Entry} (he : ∀ d l n r, e ≠ .did d l (.fire n) r)
    (hlog : Nests h (earlier ++ [e]) log) : Nests h earlier (e :: log) := by
  have hfirst : Nests h earlier [e] := by
    intro before after d l n r heq
    rcases List.cons_eq_append_iff.1 heq with ⟨-, hhead⟩ | ⟨rest, -, hrest⟩
    · exact absurd (List.cons.inj hhead).1.symm (he d l n r)
    · simp at hrest
  exact hfirst.append hlog

theorem fire {d : Nat} {l : Listener} {n : Notice} {r : Reply} {outer inner : List Entry}
    (heq : earlier = outer ++ inner) (nested : Nested h d n r outer inner)
    (hlog : Nests h (earlier ++ [.did d l (.fire n) r]) log) :
    Nests h earlier (.did d l (.fire n) r :: log) := by
  have hfirst : Nests h earlier [.did d l (.fire n) r] := by
    intro before after d' l' n' r' hsplit
    rcases List.cons_eq_append_iff.1 hsplit with ⟨rfl, hhead⟩ | ⟨rest, -, hrest⟩
    · cases (List.cons.inj hhead).1
      exact ⟨outer, inner, by rw [List.append_nil, heq], nested⟩
    · simp at hrest
  exact hfirst.append hlog

end Nests

/-- Every fire of a script is nested in it, wherever the script has come to. -/
theorem Plays.nests {h : Hub} {d : Nat} {p : Part} {s t : Stage} {log : List Entry}
    (plays : Plays d p s log t) : ∀ {earlier : List Entry}, s.hub = replay h earlier →
    (p.isScript = true → earlier.getLast?.map Entry.depth = some d) → Nests h earlier log := by
  induction plays with
  | told | done => exact fun _ _ => .nil
  | @ignored d l n _ _ _ _ _ _ ih | @heard d l n _ _ _ _ _ _ _ ih =>
    intro earlier hhub _
    refine .cons (fun _ _ _ _ => Entry.noConfusion) (ih ?_ nofun)
    rw [hhub, replay_append]
    rfl
  | @acted d l n _ s _ _ _ _ inner _ _ _ acts _ ihacts ihrest =>
    intro earlier hhub _
    have hhub' : s.hub = replay h (earlier ++ [.heard d l n]) := by
      rw [hhub, replay_append]
      rfl
    refine .cons (fun _ _ _ _ => Entry.noConfusion) (.append (ihacts hhub' ?_) (ihrest ?_ nofun))
    · simp [Entry.depth]
    · rw [acts.hub, replay_append _ (earlier ++ _), ← hhub']
  | @did d l a _ s _ _ plain _ ih =>
    intro earlier hhub _
    refine .cons ?_ (ih ?_ ?_)
    · rintro _ _ n _ ⟨⟩
      cases plain
    · rw [apply_hub, hhub, replay_append]
      rfl
    · simp [Entry.depth]
  | @fired d l n _ s _ _ inner _ round _ ihround ihrest =>
    intro earlier hhub hlast
    refine .append (ihround hhub nofun) (.fire rfl ⟨hlast rfl, round.depth_le, ?_, ?_⟩ (ihrest ?_ ?_))
    · rw [← hhub]
      exact round.tellings
    · rw [← hhub]
    · rw [round.hub, hhub, replay_append, replay_append]
      rfl
    · simp [Entry.depth]

/-- A fire tells those who were registered when it began, each once and in order, and returns their number,
whatever they do meanwhile. So does every fire that one of them makes: nothing comes between it and the
action it belongs to but what is its own, and it goes to those whom all that was done before has left
registered. -/
theorem fire_tells_who_was_registered {s : Stage} (lawful : s.hub.Lawful) (n : Notice) :
    let (t, log, reply) := s.perform (.fire n)
    reply = .count (s.hub.audience n).length ∧
      tellings 0 log = (s.hub.audience n).map (·, n) ∧
      Plays 0 (.round n (s.hub.audience n)) s log t ∧
      (∀ before after d l n' r, log = before ++ .did d l (.fire n') r :: after →
        ∃ outer inner, before = outer ++ inner ∧ Nested s.hub d n' r outer inner) ∧
      t.hub = replay s.hub log ∧
      ∀ before n', ((replay s.hub before).audience n').Nodup := by
  obtain ⟨t, log, plays, -, hrun⟩ := exists_plays 0 (.round n (s.hub.audience n)) s
  have hperform : s.perform (.fire n) = (t, log, .count (s.hub.audience n).length) := by
    have h := hrun []
    rw [List.append_nil, run, List.append_nil] at h
    rw [perform, deliveries, ← Part.items, h]
    rfl
  rw [hperform]
  have hnests : Nests s.hub [] log := plays.nests rfl fun hscript => Bool.noConfusion hscript
  exact ⟨rfl, plays.tellings, plays, hnests, plays.hub, fun before n' =>
    replay_lawful lawful before _⟩

/-- The first of two listeners removes the second, fires again, and adds a third. -/
theorem fire_tells_removed_listener :
    let a : Listener := .named "a" .full
    let b : Listener := .named "b" .full
    let c : Listener := .named "c" .full
    let n : Notice := .ownStatus ⟨.offline, .online⟩
    let s : Stage :=
      { hub := { provider := ⟨[a, b]⟩ }
        scripts := [(a, [.remove .provider b, .fire n, .add .provider c])] }
    s.hub.Lawful ∧ tellings 0 (s.perform (.fire n)).2.1 = [(a, n), (b, n)] := by
  intro a b c n s
  have lawful : s.hub.Lawful := by
    intro channel
    cases channel <;> decide
  exact ⟨lawful, (fire_tells_who_was_registered lawful n).2.1⟩

end Stage

end Roster
