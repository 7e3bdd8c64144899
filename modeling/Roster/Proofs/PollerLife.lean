import Mathlib.Data.List.Chain
import Roster.Proofs.Chronicle

/-! The life of the poller. It is there from a login to the next logout, if the account polls at all; it
goes through one poll after another, and never too early. All that it does is in the chronicle. -/

namespace Roster

/-- A login, or a logout. -/
def Entry.transition? : Entry → Option Bool
  | .login _ => some true
  | .logout _ => some false
  | .stretch _ => none

def Step.transition? : Step → Option Bool
  | .registrationChanged new =>
    if new = .registered then some true else if new.isDisconnect then some false else none
  | _ => none

namespace Entry

def login? : Entry → Option Nat
  | .login moment => some moment
  | _ => none

/-- Since when we are logged in, if at all, once this has been entered. -/
def since (before : Option Nat) : Entry → Option Nat
  | .login moment => some moment
  | .logout _ => none
  | .stretch _ => before

/-- About the poller. -/
def isPollers : Entry → Bool
  | .stretch x => x.byPoller
  | _ => true

/-- A login, a logout, or the beginning of a poll by the poller. -/
def isMark : Entry → Bool
  | .stretch x => x.byPoller && x.resumed.isNone
  | _ => true

/-- What the poller does next: it begins a poll where it has none, or else goes on with the one it has. -/
def Continues : Entry → Entry → Prop
  | .logout _, .stretch _ => False
  | .login _, .stretch y => y.resumed = none
  | .stretch x, .stretch y => y.resumed = x.result.getRight?
  | _, _ => True

/-- When the poller begins a poll: the first after the delay, and any other a period after the one before,
up to the tolerance of a tick. -/
def Paced (settings : Settings) : Entry → Entry → Prop
  | .logout _, .stretch _ => False
  | .login t, .stretch y => y.before.now = t + 1000 * settings.pollInitialDelaySecs
  | .stretch x, .stretch y =>
    x.before.now + 1000 * settings.pollIntervalSecs ≤ y.before.now + Session.tickTolerance
  | _, _ => True

end Entry

namespace Session

/-- The account polls after a login at this moment: authorization is extended and somebody re-sends requests,
there is a period, and the clock can hold the moment of the first poll. -/
structure Polls (s : Session) (login : Nat) : Prop where
  extended : s.settings.mode.hasExtendedAuthorization = true
  reRequests : s.reRequests = true
  period : 0 < s.settings.pollIntervalSecs
  delay : login + 1000 * s.settings.pollInitialDelaySecs < clockCapacity

variable {s t : Session} {entries : List Entry}

/-- Where the poller is, by the latest entry about it, the latest mark, and since when we are logged in. -/
inductive Standing (s : Session) : Entry → Entry → Option Nat → Prop
  | out (moment : Nat) (poller : s.poller = none) : Standing s (.logout moment) (.logout moment) none
  | idle (login : Nat) (quiet : ¬s.Polls login) (poller : s.poller = none) :
      Standing s (.login login) (.login login) (some login)
  | delayed (login : Nat) (polls : s.Polls login)
      (poller : s.poller = some ⟨login + 1000 * s.settings.pollInitialDelaySecs, none⟩)
      (early : s.now ≤ login + 1000 * s.settings.pollInitialDelaySecs) :
      Standing s (.login login) (.login login) (some login)
  | polling (x first : Stretch) (due login : Nat) (polls : s.Polls login)
      (poller : s.poller = some (.after due x.result))
      (pace : first.before.now + 1000 * s.settings.pollIntervalSecs ≤ due + tickTolerance) :
      Standing s (.stretch x) (.stretch first) (some login)

theorem polls_iff_of_same {login : Nat} (settings : t.settings = s.settings)
    (reRequests : t.reRequests = s.reRequests) : t.Polls login ↔ s.Polls login := by
  constructor
  · rintro ⟨hextended, hreRequests, hperiod, hdelay⟩
    rw [settings] at hextended hperiod hdelay
    rw [reRequests] at hreRequests
    exact ⟨hextended, hreRequests, hperiod, hdelay⟩
  · rintro ⟨hextended, hreRequests, hperiod, hdelay⟩
    rw [← settings] at hextended hperiod hdelay
    rw [← reRequests] at hreRequests
    exact ⟨hextended, hreRequests, hperiod, hdelay⟩

theorem Keeps.polls (h : s.Keeps t) {login : Nat} : t.Polls login ↔ s.Polls login :=
  polls_iff_of_same h.settings h.reRequests

section Standing

variable {latest mark : Entry} {online : Option Nat}

theorem Standing.isPolling_iff (h : Standing s latest mark online) :
    s.isPolling = true ↔ ∃ login, online = some login ∧ s.Polls login := by
  cases h with
  | out moment poller => simp [isPolling, poller]
  | idle login hnone poller => simp [isPolling, poller, hnone]
  | delayed login polls poller early => simp [isPolling, poller, polls]
  | polling x first due login polls poller pace => simp [isPolling, poller, polls]

/-- Nothing about the poller changes. -/
theorem Standing.keeps (h : Standing s latest mark online) (keeps : s.Keeps t)
    (poller : t.poller = s.poller) : Standing t latest mark online := by
  cases h with
  | out moment hpoller => exact .out moment (poller.trans hpoller)
  | idle login hnone hpoller => exact .idle login (mt keeps.polls.1 hnone) (poller.trans hpoller)
  | delayed login polls hpoller early =>
    refine .delayed login (keeps.polls.2 polls) ?_ ?_
    · rw [poller, hpoller, keeps.settings]
    · rw [keeps.now, keeps.settings]
      exact early
  | polling x first due login polls hpoller pace =>
    refine .polling x first due login (keeps.polls.2 polls) (poller.trans hpoller) ?_
    rw [keeps.settings]
    exact pace

/-- Time passes, but not over a tick. -/
theorem Standing.time (h : Standing s latest mark online) {moment : Nat}
    (early : ∀ due, s.poller = some ⟨due, none⟩ → moment ≤ due) :
    Standing { s with now := moment } latest mark online := by
  have hpolls (login : Nat) : ({ s with now := moment } : Session).Polls login ↔ s.Polls login :=
    polls_iff_of_same rfl rfl
  cases h with
  | out moment' hpoller => exact .out moment' hpoller
  | idle login hquiet hpoller => exact .idle login (mt (hpolls login).1 hquiet) hpoller
  | delayed login polls hpoller _ =>
    exact .delayed login ((hpolls login).2 polls) hpoller (early _ hpoller)
  | polling x first due login polls hpoller pace =>
    exact .polling x first due login ((hpolls login).2 polls) hpoller pace

/-- A tick comes on time for the first poll, and not too early for the others. -/
theorem Standing.tick (h : Standing s latest mark online) {due : Nat}
    (poller : s.poller = some ⟨due, none⟩) (come : due ≤ s.now) (keeps : s.Keeps t)
    (next : t.poller = some (.after (s.nextTick due) (Stretch.result ⟨true, none, s⟩))) :
    latest.Continues (.stretch ⟨true, none, s⟩) ∧ mark.Paced s.settings (.stretch ⟨true, none, s⟩) ∧
      Standing t (.stretch ⟨true, none, s⟩) (.stretch ⟨true, none, s⟩) online := by
  have hpace : s.now + 1000 * s.settings.pollIntervalSecs ≤ s.nextTick due + tickTolerance := by
    unfold nextTick tickTolerance
    dsimp only
    split <;> omega
  have hstanding {login : Nat} (polls : s.Polls login) :
      Standing t (.stretch ⟨true, none, s⟩) (.stretch ⟨true, none, s⟩) (some login) := by
    refine .polling _ _ _ login (keeps.polls.2 polls) next ?_
    rw [keeps.settings]
    exact hpace
  cases h with
  | out moment hpoller => rw [hpoller] at poller; cases poller
  | idle login hnone hpoller => rw [hpoller] at poller; cases poller
  | delayed login polls hpoller early =>
    rw [hpoller] at poller
    cases poller
    exact ⟨rfl, Nat.le_antisymm early come, hstanding polls⟩
  | polling x first due' login polls hpoller pace =>
    rw [hpoller] at poller
    have hafter := Option.some.inj poller
    obtain rfl : due' = due := by rw [← due_after due' x.result, hafter]
    have hover : x.result.getRight? = none := by rw [← poll_after_eq due' x.result, hafter]
    -- the tick may be late, but it was armed a period after the beginning of the poll before
    refine ⟨hover.symm, ?_, hstanding polls⟩
    change first.before.now + 1000 * s.settings.pollIntervalSecs ≤ s.now + tickTolerance
    omega

/-- The poller goes on where it has waited. -/
theorem Standing.goesOn (h : Standing s latest mark online) {due : Nat} {p : SuspendedPoll}
    (poller : s.poller = some ⟨due, some p⟩) (keeps : s.Keeps t)
    (next : t.poller = some (.after due (Stretch.result ⟨true, some p, s⟩))) :
    latest.Continues (.stretch ⟨true, some p, s⟩) ∧
      Standing t (.stretch ⟨true, some p, s⟩) mark online := by
  cases h with
  | out moment hpoller => rw [hpoller] at poller; cases poller
  | idle login hnone hpoller => rw [hpoller] at poller; cases poller
  | delayed login polls hpoller early => rw [hpoller] at poller; cases poller
  | polling x first due' login polls hpoller pace =>
    rw [hpoller] at poller
    have hafter := Option.some.inj poller
    obtain rfl : due' = due := by rw [← due_after due' x.result, hafter]
    have hwaits : x.result.getRight? = some p := by rw [← poll_after_eq due' x.result, hafter]
    refine ⟨hwaits.symm, .polling _ _ _ login (keeps.polls.2 polls) next ?_⟩
    rw [keeps.settings]
    exact pace

theorem Standing.login (h : Standing s latest mark online) (keeps : s.Keeps t)
    (next : t.poller = if s.settings.mode.hasExtendedAuthorization && s.reRequests then
      s.startPolling.poller else s.poller) : Standing t (.login s.now) (.login s.now) (some s.now) := by
  by_cases hpolls : s.Polls s.now
  · refine .delayed s.now (keeps.polls.2 hpolls) ?_ ?_
    · rw [next, if_pos (by simp [hpolls.extended, hpolls.reRequests]), keeps.settings]
      unfold startPolling
      exact if_pos ⟨hpolls.period, hpolls.delay⟩
    · rw [keeps.now]
      exact Nat.le_add_right ..
  · refine .idle s.now (mt keeps.polls.1 hpolls) ?_
    rw [next]
    split
    · next hauthorizes =>
      obtain ⟨hextended, hreRequests⟩ := (Bool.and_eq_true _ _).mp hauthorizes
      unfold startPolling
      exact if_neg fun hruns => hpolls ⟨hextended, hreRequests, hruns.1, hruns.2⟩
    · next hsilent =>
      have hnone : ¬s.isPolling = true := by
        intro hpolling
        obtain ⟨login, -, hruns⟩ := h.isPolling_iff.1 hpolling
        exact hsilent (by simp [hruns.extended, hruns.reRequests])
      simpa [isPolling] using hnone

end Standing

/-- The entries about the poller, after a logout: no session has begun with a login. -/
def diary (entries : List Entry) : List Entry := .logout 0 :: entries.filter Entry.isPollers

/-- The logins, the logouts and the polls that the poller has begun. -/
def marks (entries : List Entry) : List Entry := .logout 0 :: entries.filter Entry.isMark

/-- A chain of some entries grows by one if that is of them. -/
theorem isChain_filter_concat {R : Entry → Entry → Prop} {p : Entry → Bool} {start latest e : Entry}
    (h : (start :: entries.filter p).IsChain R)
    (last : (start :: entries.filter p).getLast? = some latest) (next : p e = true → R latest e) :
    (start :: (entries ++ [e]).filter p).IsChain R ∧
      (start :: (entries ++ [e]).filter p).getLast? = some (if p e then e else latest) := by
  cases hp : p e with
  | false =>
    have hsame : (entries ++ [e]).filter p = entries.filter p := by simp [hp]
    rw [hsame]
    exact ⟨h, last⟩
  | true =>
    have hmore : start :: (entries ++ [e]).filter p = (start :: entries.filter p) ++ [e] := by simp [hp]
    rw [hmore]
    refine ⟨?_, List.getLast?_concat⟩
    rw [List.isChain_append]
    refine ⟨h, List.isChain_singleton e, ?_⟩
    rintro b hb c hc
    rw [last] at hb
    cases hb
    cases hc
    exact next hp

/-- By the entries so far we are logged in since this moment, or not at all. -/
structure Online (entries : List Entry) (online : Option Nat) : Prop where
  transition : (entries.filterMap Entry.transition?).getLast? = some true ↔ online.isSome = true
  login : ∀ login ∈ online, (entries.filterMap Entry.login?).getLast? = some login

theorem Online.concat {online : Option Nat} (h : Online entries online) (e : Entry) :
    Online (entries ++ [e]) (e.since online) := by
  cases e with
  | login moment => exact ⟨by simp [Entry.transition?, Entry.since], by simp [Entry.login?, Entry.since]⟩
  | logout moment => exact ⟨by simp [Entry.transition?, Entry.since], nofun⟩
  | stretch x =>
    exact ⟨by simpa [Entry.transition?, Entry.since] using h.transition,
      by simpa [Entry.login?, Entry.since] using h.login⟩

/-- What holds of the entries so far, and of the poller because of them. -/
structure Regular (s : Session) (entries : List Entry) (t : Session) : Prop where
  settings : t.settings = s.settings
  reRequests : t.reRequests = s.reRequests
  diary : (diary entries).IsChain Entry.Continues
  marks : (marks entries).IsChain (Entry.Paced s.settings)
  standing : ∃ latest mark online, (Session.diary entries).getLast? = some latest ∧
    (Session.marks entries).getLast? = some mark ∧ Online entries online ∧ t.Standing latest mark online

section Regular

variable {u : Session} {e : Entry}

/-- Nothing is entered about the poller. -/
theorem Regular.aside (h : Regular s entries t) (keeps : t.Keeps u) (poller : u.poller = t.poller) :
    Regular s entries u := by
  obtain ⟨latest, mark, online, hlatest, hmark, honline, hstanding⟩ := h.standing
  exact ⟨keeps.settings.trans h.settings, keeps.reRequests.trans h.reRequests, h.diary, h.marks,
    latest, mark, online, hlatest, hmark, honline, hstanding.keeps keeps poller⟩

/-- Something is entered. It is the latest about the poller if it is about it, and the latest mark if it is
one. -/
theorem Regular.enter (h : Regular s entries t) (keeps : t.Keeps u)
    (next : ∀ latest mark online, t.Standing latest mark online →
      (e.isPollers = true → latest.Continues e) ∧ (e.isMark = true → mark.Paced t.settings e) ∧
        u.Standing (if e.isPollers then e else latest) (if e.isMark then e else mark)
          (e.since online)) : Regular s (entries ++ [e]) u := by
  obtain ⟨latest, mark, online, hlatest, hmark, honline, hstanding⟩ := h.standing
  obtain ⟨hcontinues, hpaced, hnext⟩ := next latest mark online hstanding
  rw [h.settings] at hpaced
  obtain ⟨hdiary, hlatest⟩ := isChain_filter_concat h.diary hlatest hcontinues
  obtain ⟨hmarks, hmark⟩ := isChain_filter_concat h.marks hmark hpaced
  exact ⟨keeps.settings.trans h.settings, keeps.reRequests.trans h.reRequests, hdiary, hmarks,
    _, _, _, hlatest, hmark, honline.concat e, hnext⟩

theorem Regular.beat {more : List Entry} (h : Regular s entries t) (beat : Beat t more u) :
    Regular s (entries ++ more) u := by
  cases beat with
  | aside keeps poller _ _ => simpa using h.aside keeps poller
  | time _ early =>
    obtain ⟨latest, mark, online, hlatest, hmark, honline, hstanding⟩ := h.standing
    rw [List.append_nil]
    exact ⟨h.settings, h.reRequests, h.diary, h.marks,
      latest, mark, online, hlatest, hmark, honline, hstanding.time early⟩
  | task resumed _ keeps poller _ _ =>
    refine h.enter keeps fun latest mark online hstanding => ⟨nofun, nofun, ?_⟩
    exact hstanding.keeps keeps poller
  | tick poller come keeps next _ _ =>
    refine h.enter keeps fun latest mark online hstanding => ?_
    obtain ⟨hcontinues, hpaced, hticked⟩ := hstanding.tick poller come keeps next
    exact ⟨fun _ => hcontinues, fun _ => hpaced, hticked⟩
  | goesOn poller keeps next _ _ =>
    refine h.enter keeps fun latest mark online hstanding => ?_
    obtain ⟨hcontinues, hgone⟩ := hstanding.goesOn poller keeps next
    exact ⟨fun _ => hcontinues, nofun, hgone⟩
  | login keeps next _ _ =>
    refine h.enter keeps fun latest mark online hstanding => ⟨fun _ => ?_, fun _ => ?_, ?_⟩
    · cases latest <;> trivial
    · cases mark <;> trivial
    · exact hstanding.login keeps next
  | logout keeps poller _ _ =>
    refine h.enter keeps fun latest mark online hstanding => ⟨fun _ => ?_, fun _ => ?_, .out _ poller⟩
    · cases latest <;> trivial
    · cases mark <;> trivial

theorem Beats.regular (h : Beats s entries t) (fresh : s.poller = none) : Regular s entries t := by
  induction h with
  | refl =>
    exact ⟨rfl, rfl, List.isChain_singleton _, List.isChain_singleton _,
      .logout 0, .logout 0, none, rfl, rfl, ⟨by simp, nofun⟩, .out 0 fresh⟩
  | tail _ beat ih => exact ih.beat beat

end Regular

end Session

-- Only a step that tells of a login or a logout enters one.
namespace Chronicle

theorem along_stretches {α : Type} {f : Session → α → Session} {entries : Session → α → List Entry}
    (h : ∀ s a, (entries s a).filterMap Entry.transition? = []) (s : Session) (as : List α) :
    (along f entries s as).filterMap Entry.transition? = [] := by
  induction as generalizing s with
  | nil => rfl
  | cons a as ih => rw [along, List.filterMap_append, h, ih, List.append_nil]

theorem wakeWaiter_stretches (s : Session) (q : Nat) :
    (wakeWaiter s q).filterMap Entry.transition? = [] := by
  unfold wakeWaiter
  split
  · next w _ => cases w <;> rfl
  · rfl
  · split
    · split <;> rfl
    · rfl

theorem tick_stretches (s : Session) : (tick s).filterMap Entry.transition? = [] := by
  unfold tick
  split
  · split <;> rfl
  · rfl

theorem settle_stretches (s : Session) : (settle s).filterMap Entry.transition? = [] := by
  have hexpired := along_stretches (fun s q => wakeWaiter_stretches (s.signal q .expiry) q)
    (f := Session.expire) s s.overdue
  rw [settle, List.filterMap_append, tick_stretches, List.append_nil]
  exact hexpired

theorem passUntil_stretches (stop : Session → Bool) (moment : Nat) (s : Session) :
    (passUntil stop moment s).filterMap Entry.transition? = [] := by
  fun_induction passUntil stop moment s with
  | case2 s hstop next hnext hlater ih =>
    rw [List.filterMap_append, ih, List.append_nil]
    exact settle_stretches _
  | _ => rfl

theorem await_stretches (s : Session) (name : TaskName) :
    (await s name).filterMap Entry.transition? = [] := by
  unfold await
  split
  · exact passUntil_stretches _ _ s
  · rfl

theorem act_transitions (s : Session) (step : Step) :
    (act s step).filterMap Entry.transition? = step.transition?.toList := by
  cases step with
  | deliver response => exact along_stretches wakeWaiter_stretches _ _
  | registrationChanged new =>
    simp only [act, registrationChanged, Step.transition?]
    split
    · rfl
    · split <;> rfl
  | publish | query | queryMask | poll | join => exact await_stretches _ _
  | advance ms =>
    change (passUntil _ _ s ++ arrive _ _).filterMap Entry.transition? = []
    rw [List.filterMap_append, passUntil_stretches, List.nil_append]
    exact settle_stretches _
  | _ => rfl

end Chronicle

namespace Session

variable {s : Session}

theorem chronicle_transitions (s : Session) (steps : List Step) :
    (s.chronicle steps).filterMap Entry.transition? = steps.filterMap Step.transition? := by
  induction steps generalizing s with
  | nil => rfl
  | cons step steps ih =>
    have hperform : (Chronicle.perform s step).filterMap Entry.transition? = step.transition?.toList := by
      rw [Chronicle.perform, List.filterMap_append, Chronicle.act_transitions, Chronicle.settle_stretches,
        List.append_nil]
    change (Chronicle.perform s step ++ (s.perform step).1.chronicle steps).filterMap _ = _
    rw [List.filterMap_append, hperform, ih, List.filterMap_cons]
    cases step.transition? <;> rfl

/-- Nobody acts for a poller that is gone: no tick comes, and an answer that nobody else waits for is dropped. -/
theorem idle_of_not_isPolling (h : s.isPolling = false) : s.tick = s ∧
    ∀ q, (∀ task ∈ s.tasks, ∀ w ∈ task.wait?, w.query ≠ q) → s.wakeWaiter q = s := by
  have hnone : s.poller = none := by simpa [isPolling] using h
  refine ⟨by simp only [tick, hnone], fun q hnobody => wakeWaiter_of_nobody fun w hw => ?_⟩
  rw [waits, hnone] at hw
  obtain ⟨task, htask, hwait⟩ := List.mem_filterMap.1 (by simpa using hw)
  exact hnobody task htask w hwait

/-- The poller is there from a login to the next logout, if the account polls after that login. While it is
there it goes through one poll after another, none before the one before is over; after a logout it does
nothing until the next login, and nothing is done for it. The first poll begins when the delay after the
latest login is over, and any other a period after the one before, up to the tolerance of a tick. -/
theorem poller_follows_registration {a : Assembly} {s₀ : Session} (built : a.build = .ok s₀)
    (steps : List Step) :
    let s := s₀.run steps
    let entries := s₀.chronicle steps
    (s.isPolling = true ↔ (steps.filterMap Step.transition?).getLast? = some true ∧
      ∃ login, (entries.filterMap Entry.login?).getLast? = some login ∧ s₀.Polls login) ∧
      entries.filterMap Entry.transition? = steps.filterMap Step.transition? ∧
      (diary entries).IsChain Entry.Continues ∧
      (marks entries).IsChain (Entry.Paced s₀.settings) ∧
      (∀ login, s.isPolling = true → (marks entries).getLast? = some (.login login) →
        s.now < login + 1000 * s₀.settings.pollInitialDelaySecs) ∧
      (s.isPolling = false → s.tick = s ∧
        ∀ q, (∀ task ∈ s.tasks, ∀ w ∈ task.wait?, w.query ≠ q) → s.wakeWaiter q = s) := by
  intro s entries
  have hstart : s₀.Reachable := ⟨a, s₀, [], built, rfl⟩
  have hend : s.Reachable := ⟨a, s₀, steps, built, rfl⟩
  have hbeats := run_beats hstart.settles.1 hstart.settles.2 steps
  have hregular := hbeats.regular (Assembly.fresh_of_build built).poller
  have htransitions : entries.filterMap Entry.transition? = steps.filterMap Step.transition? :=
    chronicle_transitions s₀ steps
  obtain ⟨latest, mark, online, -, hmark, honline, hstanding⟩ := hregular.standing
  have hpolls (login : Nat) : s.Polls login ↔ s₀.Polls login :=
    polls_iff_of_same hregular.settings hregular.reRequests
  refine ⟨?_, htransitions, hregular.diary, hregular.marks, ?_, idle_of_not_isPolling⟩
  · rw [hstanding.isPolling_iff, ← htransitions, honline.transition]
    constructor
    · rintro ⟨login, rfl, hruns⟩
      exact ⟨rfl, login, honline.login login rfl, (hpolls login).1 hruns⟩
    · rintro ⟨hsome, login, hlogin, hruns⟩
      obtain ⟨login', rfl⟩ := Option.isSome_iff_exists.1 hsome
      obtain rfl := Option.some.inj (hlogin.symm.trans (honline.login login' rfl))
      exact ⟨login, rfl, (hpolls login).2 hruns⟩
  · intro login hpolling hlogin
    rw [hmark] at hlogin
    cases hlogin
    obtain ⟨login', honline', hruns⟩ := hstanding.isPolling_iff.1 hpolling
    cases hstanding with
    | idle login hquiet poller =>
      cases honline'
      exact absurd hruns hquiet
    | delayed login polls poller early =>
      -- nothing is due at the end of a run
      have hdue := hend.settles.2.poller _ poller
      rwa [hregular.settings] at hdue

/-- The poller waits for the status of a parked contact when we log out. The answer that comes then is nobody's,
and nothing is told of the contact. -/
theorem poller_stops_in_query :
    let list : ContactList := ⟨"Contacts", [⟨.root "Contacts", none⟩], []⟩
    let settings : Settings := { pollInitialDelaySecs := 0 }
    let a : Assembly := { connection := some ⟨"12345", true⟩, list := some list, hasPolicy := true,
                          reRequests := true, settings := settings }
    let s₀ : Session :=
      { settings := settings, localIdentifier := "12345", reRequests := true, list := list }
    let login : List Step := [.authorizationRequired "777" none, .setAnswer (some "777") .silence,
      .registrationChanged .registered]
    let logout : List Step := login ++ [.registrationChanged .unregistered]
    let late : List Step := logout ++ [.deliver (.userInfo (.plain "777" .online))]
    a.build = .ok s₀ ∧ (s₀.run login).isPolling = true ∧ (s₀.run late).isPolling = false ∧
      (s₀.run logout).server.unanswered.length = 1 ∧ (s₀.run late).server.unanswered = [] ∧
      (s₀.run late).list = (s₀.run logout).list ∧ (s₀.run late).trace = (s₀.run logout).trace := by
  intro list settings a s₀ login logout late
  have built : a.build = .ok s₀ := rfl
  have hpolls : s₀.Polls 0 := ⟨rfl, rfl, by decide, by decide⟩
  have hmoment : ((s₀.chronicle login).filterMap Entry.login?).getLast? = some 0 := by decide +kernel
  obtain ⟨hafterLogin, -⟩ := poller_follows_registration built login
  obtain ⟨hafterLogout, -⟩ := poller_follows_registration built late
  refine ⟨built, hafterLogin.2 ⟨rfl, 0, hmoment, hpolls⟩, ?_, by decide +kernel, by decide +kernel, by decide +kernel,
    by decide +kernel⟩
  have hlogout : (late.filterMap Step.transition?).getLast? = some false := by decide
  rw [← Bool.not_eq_true, hafterLogout, hlogout]
  simp

/-- Settings that pass the check can hold a delay beyond the clock, and then there is no poller after a
login. -/
theorem no_poller_beyond_the_clock :
    ¬∀ (a : Assembly) (s₀ : Session) (steps : List Step), a.build = .ok s₀ →
      a.settings.validate = .ok a.settings → 1 ≤ s₀.settings.pollIntervalSecs →
      ((s₀.run steps).isPolling = true ↔ s₀.settings.mode.hasExtendedAuthorization = true ∧
        s₀.reRequests = true ∧ (steps.filterMap Step.transition?).getLast? = some true) := by
  intro h
  let list : ContactList := ⟨"Contacts", [⟨.root "Contacts", none⟩], []⟩
  let settings : Settings := { pollInitialDelaySecs := Word.bound - 1 }
  let a : Assembly :=
    { connection := some ⟨"12345", true⟩, list := some list, hasPolicy := true, reRequests := true,
      settings := settings }
  have hpolling := (h a _ [.registrationChanged .registered] rfl (by decide +kernel) (by decide)).2
    ⟨rfl, rfl, rfl⟩
  revert hpolling
  decide +kernel

end Session

end Roster
