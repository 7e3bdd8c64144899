import Roster.Proofs.Inquiry

/-! What the receiver of a correlator finds, whatever is done with the correlator and in whatever order. The
first signal completes it and decides what there is to receive; of all that comes after it, only what the
receiver does itself matters. -/

namespace Roster

/-- A signal that is no expiry lets the receiver have a mask. -/
structure Signal.Tells (s : Signal) (m : Mask) : Prop where
  known : ∀ info, s = .response (.userInfo info) → info.mask ≠ .unknown → m = info.mask
  unknown : ∀ info, s = .response (.userInfo info) → info.mask = .unknown → m = .online
  failed : m = .unknown ↔ s = .timeout ∨ ∃ code text, s = .response (.error code text)

theorem Signal.exists_mask {s : Signal} (h : s ≠ .expiry) : ∃ m, s.mask? = some m ∧ s.Tells m := by
  cases s with
  | expiry => exact absurd rfl h
  | timeout => exact ⟨.unknown, rfl, nofun, nofun, by simp⟩
  | response r =>
    cases r with
    | error code text => exact ⟨.unknown, rfl, nofun, nofun, by simp⟩
    | userInfo info =>
      refine ⟨_, rfl, ?_, ?_, ?_⟩
      · intro info' hsame hknown
        cases hsame
        exact if_neg (by simpa [Mask.isUnknown] using hknown)
      · intro info' hsame hunknown
        cases hsame
        exact if_pos (by simpa [Mask.isUnknown] using hunknown)
      · have hconnected : (if info.mask.isUnknown then Mask.online else info.mask) ≠ .unknown := by
          split
          · decide
          · next hknown => simpa [Mask.isUnknown] using hknown
        simpa using hconnected

namespace Correlator

/-- What is done with a correlator. -/
inductive Call
  | signal (signal : Signal)
  | receive
  | dropReceiver
  deriving DecidableEq, Repr

def Call.isSignal : Call → Bool
  | .signal _ => true
  | _ => false

def call (c : Correlator) : Call → Correlator
  | .signal s => c.signal s
  | .receive => c.receive.1
  | .dropReceiver => c.dropReceiver

def callAll (c : Correlator) (calls : List Call) : Correlator := calls.foldl call c

theorem callAll_cons (c : Correlator) (k : Call) (calls : List Call) :
    c.callAll (k :: calls) = (c.call k).callAll calls := rfl

theorem callAll_append (c : Correlator) (calls more : List Call) :
    c.callAll (calls ++ more) = (c.callAll calls).callAll more := List.foldl_append

theorem completed_receive (c : Correlator) : c.receive.1.completed = c.completed := by
  unfold receive
  split
  · rfl
  · split <;> rfl

/-- A signal does nothing to what is completed. -/
theorem callAll_filter {c : Correlator} (done : c.completed = true) (calls : List Call) :
    c.callAll (calls.filter (!·.isSignal)) = c.callAll calls := by
  induction calls generalizing c with
  | nil => rfl
  | cons k calls ih =>
    cases k with
    | signal s =>
      have hsame : c.call (.signal s) = c := signal_of_completed done s
      rw [callAll_cons, hsame, ← ih done]
      rfl
    | receive => exact ih ((completed_receive c).trans done)
    | dropReceiver => exact ih done

/-- As long as there is no signal, nothing changes but that the receiver may go. -/
theorem call_quiet {k : Call} (quiet : k.isSignal = false) (gone : Bool) :
    call { receiverGone := gone } k = { receiverGone := gone || decide (.dropReceiver = k) } := by
  cases k with
  | signal s => cases quiet
  | receive => cases gone <;> rfl
  | dropReceiver => cases gone <;> rfl

theorem callAll_quiet {calls : List Call} (quiet : ∀ k ∈ calls, k.isSignal = false) (gone : Bool) :
    callAll { receiverGone := gone } calls =
      { receiverGone := gone || decide (.dropReceiver ∈ calls) } := by
  induction calls generalizing gone with
  | nil => simp [callAll]
  | cons k calls ih =>
    rcases List.forall_mem_cons.1 quiet with ⟨hk, hcalls⟩
    have hrest := ih hcalls (gone || decide (.dropReceiver = k))
    rw [callAll_cons, call_quiet hk, hrest]
    simp [Bool.or_assoc]

/-- A completed correlator keeps its letter until the receiver takes it or goes. -/
theorem call_completed (k : Call) {letter : Option Mask} {gone : Bool} (kept : gone = true → letter = none) :
    call ⟨true, letter, gone⟩ k =
      ⟨true, if k.isSignal then letter else none, gone || decide (.dropReceiver = k)⟩ := by
  cases k with
  | signal s => simp [call, signal, Call.isSignal]
  | receive =>
    cases gone with
    | true => simp [call, receive, Call.isSignal, kept rfl]
    | false => cases letter <;> rfl
  | dropReceiver => cases gone <;> rfl

theorem callAll_completed (calls : List Call) {letter : Option Mask} {gone : Bool}
    (kept : gone = true → letter = none) :
    callAll ⟨true, letter, gone⟩ calls =
      ⟨true, if calls.all Call.isSignal then letter else none, gone || decide (.dropReceiver ∈ calls)⟩ := by
  induction calls generalizing letter gone with
  | nil => simp [callAll]
  | cons k calls ih =>
    have hkept : (gone || decide (.dropReceiver = k)) = true → (if k.isSignal then letter else none) = none := by
      intro hgone
      rcases Bool.or_eq_true_iff.1 hgone with h | h
      · rw [kept h, ite_self]
      · rw [← of_decide_eq_true h]
        rfl
    rw [callAll_cons, call_completed k kept, ih hkept]
    cases hk : k.isSignal <;> simp [hk, Bool.or_assoc]

/-- What has become of a correlator that had a signal. -/
theorem callAll_signalled {quiet : List Call} (before : ∀ k ∈ quiet, k.isSignal = false) (s : Signal)
    (rest : List Call) :
    callAll {} (quiet ++ .signal s :: rest) =
      { completed := true
        letter := if rest.all Call.isSignal then if .dropReceiver ∈ quiet then none else s.mask? else none
        receiverGone := decide (.dropReceiver ∈ quiet) || decide (.dropReceiver ∈ rest) } := by
  have hsignal : call { receiverGone := decide (.dropReceiver ∈ quiet) } (.signal s) =
      ⟨true, if .dropReceiver ∈ quiet then none else s.mask?, decide (.dropReceiver ∈ quiet)⟩ := by
    simp [call, signal]
  have hkept : decide (Call.dropReceiver ∈ quiet) = true →
      (if .dropReceiver ∈ quiet then none else s.mask?) = none := by
    intro hgone
    exact if_pos (of_decide_eq_true hgone)
  rw [callAll_append, callAll_cons, callAll_quiet before false, Bool.false_or, hsignal,
    callAll_completed rest hkept]

/-- What a receiver that is there finds once there was a signal. -/
theorem receive_completed (letter : Option Mask) :
    (receive ⟨true, letter, false⟩).2 = letter.elim .closed .mask := by
  cases letter <;> rfl

theorem receive_ne_mask {c : Correlator} (h : c.letter = none) (m : Mask) : c.receive.2 ≠ .mask m := by
  unfold receive
  split
  · nofun
  · rw [h]
    cases c.completed <;> nofun

/-- Of the calls that are no signals, one that is no receipt is the last. -/
theorem all_isSignal_iff {calls : List Call} (stays : .dropReceiver ∉ calls) :
    calls.all Call.isSignal = true ↔ .receive ∉ calls := by
  induction calls with
  | nil => simp
  | cons k calls ih =>
    rcases not_or.1 (List.mem_cons.not.1 stays) with ⟨hk, hcalls⟩
    cases k with
    | signal s => simpa [Call.isSignal] using ih hcalls
    | receive => simp [Call.isSignal]
    | dropReceiver => exact absurd rfl hk

/-- A correlator is completed from its first signal on, and that decides what is received: nothing yet before
it; then its mask, once, and nothing more, if it is a response or a timeout; never a mask, if the asker gave
up first. Signals that come later change nothing. -/
theorem first_signal_wins {quiet rest : List Call} {s : Signal}
    (before : ∀ k ∈ quiet, k.isSignal = false) :
    let fresh : Correlator := {}
    let calls := quiet ++ .signal s :: rest
    (fresh.callAll quiet).completed = false ∧
      (fresh.callAll calls).completed = true ∧
      (.dropReceiver ∉ quiet → (fresh.callAll quiet).receive.2 = .empty) ∧
      (s ≠ .expiry → .dropReceiver ∉ calls → ∃ m, s.Tells m ∧
        (fresh.callAll calls).receive.2 = if .receive ∈ rest then .closed else .mask m) ∧
      (s = .expiry → ∀ m,
        (fresh.callAll quiet).receive.2 ≠ .mask m ∧ (fresh.callAll calls).receive.2 ≠ .mask m) ∧
      ∀ rest', rest'.filter (!·.isSignal) = rest.filter (!·.isSignal) →
        fresh.callAll (quiet ++ .signal s :: rest') = fresh.callAll calls := by
  intro fresh calls
  have hquiet : fresh.callAll quiet = { receiverGone := decide (.dropReceiver ∈ quiet) } :=
    callAll_quiet before false
  refine ⟨?_, ?_, ?_, ?_, ?_, ?_⟩
  · rw [hquiet]
  · rw [callAll_signalled before]
  · intro hstays
    rw [hquiet, decide_eq_false hstays]
    rfl
  · intro hanswer hstays
    obtain ⟨m, hm, htells⟩ := Signal.exists_mask hanswer
    have hbefore : .dropReceiver ∉ quiet := fun h => hstays (List.mem_append_left _ h)
    have hafter : .dropReceiver ∉ rest := fun h =>
      hstays (List.mem_append_right _ (List.mem_cons_of_mem _ h))
    refine ⟨m, htells, ?_⟩
    rw [callAll_signalled before, decide_eq_false hbefore, decide_eq_false hafter, if_neg hbefore, hm,
      Bool.or_false, receive_completed]
    by_cases hreceived : .receive ∈ rest
    · have hall : rest.all Call.isSignal ≠ true := fun h => (all_isSignal_iff hafter).1 h hreceived
      rw [if_neg hall, if_pos hreceived]
      rfl
    · rw [if_pos ((all_isSignal_iff hafter).2 hreceived), if_neg hreceived]
      rfl
  · intro hexpiry m
    constructor
    · apply receive_ne_mask
      rw [hquiet]
    · apply receive_ne_mask
      rw [callAll_signalled before, hexpiry]
      simp [Signal.mask?]
  · intro rest' hsame
    have hdone : ((fresh.callAll quiet).call (.signal s)).completed = true := completed_signal _ s
    rw [callAll_append, callAll_append, callAll_cons, callAll_cons, ← callAll_filter hdone rest', hsame,
      callAll_filter hdone rest]

/-- The receiver looks too early, and the stack gives up after the answer. -/
theorem answer_kept_after_timeout :
    let info : UserInfo := ⟨"5", .ofFlag .away, none, none⟩
    (∀ k ∈ [Call.receive], k.isSignal = false) ∧
      (callAll {} [.receive, .signal (.response (.userInfo info)), .signal .timeout]).receive.2 =
        .mask (.ofFlag .away) := by
  intro info
  have before : ∀ k ∈ [Call.receive], k.isSignal = false := by decide
  obtain ⟨-, -, -, hreceived, -⟩ :=
    @first_signal_wins [.receive] [.signal .timeout] (.response (.userInfo info)) before
  obtain ⟨m, htells, hmask⟩ := hreceived (by decide) (by decide)
  have hm : m = .ofFlag .away := htells.known info rfl (by decide)
  rw [hm] at hmask
  exact ⟨before, hmask⟩

end Correlator

end Roster
