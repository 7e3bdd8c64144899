import Roster.Message

/-! The meeting point of one request and its answer. Whichever signal comes first completes it;
what comes later is ignored. The answer, a mask, waits to be received once. -/

namespace Roster

/-- What can end a request. -/
inductive Signal
  | response (response : Response)
  | timeout
  /-- The asker stops waiting. -/
  | expiry
  deriving DecidableEq, Repr

namespace Signal

/-- The mask that a signal delivers. A user the server has information on is connected, whatever
the mask in it; an error or a timeout leaves the status unknown. -/
def mask? : Signal → Option Mask
  | response (.userInfo info) => some (if info.mask.isUnknown then .online else info.mask)
  | response (.error ..) => some .unknown
  | timeout => some .unknown
  | expiry => none

end Signal

/-- What the asker finds when it looks. -/
inductive Receipt
  | mask (mask : Mask)
  /-- Nothing yet. -/
  | empty
  /-- Nothing will come any more. -/
  | closed
  /-- Nobody is there to receive. -/
  | gone
  deriving DecidableEq, Repr

structure Correlator where
  completed : Bool := false
  /-- Delivered and not received. -/
  letter : Option Mask := none
  receiverGone : Bool := false
  deriving DecidableEq, Repr

namespace Correlator

def signal (c : Correlator) (s : Signal) : Correlator :=
  if c.completed then c
  else { c with completed := true, letter := if c.receiverGone then none else s.mask? }

def receive (c : Correlator) : Correlator × Receipt :=
  if c.receiverGone then (c, .gone)
  else match c.letter with
    | some m => ({ c with letter := none }, .mask m)
    | none => (c, if c.completed then .closed else .empty)

def dropReceiver (c : Correlator) : Correlator := { c with letter := none, receiverGone := true }

theorem signal_of_completed {c : Correlator} (h : c.completed = true) (s : Signal) :
    c.signal s = c := by
  simp [signal, h]

theorem completed_signal (c : Correlator) (s : Signal) : (c.signal s).completed = true := by
  unfold signal; split <;> simp_all

end Correlator

end Roster
