import Roster.Session.Poll

/-! Time and the tasks that wait in it. A task runs until it waits for a query; it goes on when the
query is answered, or at its deadline. Time moves from one moment at which something is due to the
next, and at each such moment everything due is done. -/

namespace Roster

/-- A moment by which a task has finished, with nobody answering. -/
def Work.horizon (timeout : Nat) : Work → Nat
  | .poll p => p.wait.deadline + p.rest.length * timeout
  | w => w.wait.deadline

namespace Task

def wait? (t : Task) : Option Wait :=
  match t.state with
  | .working w => some w.wait
  | .finished _ => none

def outcome? (t : Task) : Option Outcome :=
  match t.state with
  | .working _ => none
  | .finished o => some o

end Task

/-- The result of running a task, as its state. -/
def TaskState.ofResult : Outcome ⊕ Work → TaskState
  | .inl o => .finished o
  | .inr w => .working w

/-- The result of a poll, as what the poller does next. -/
def Poller.after (due : Nat) : PollReport ⊕ SuspendedPoll → Poller
  | .inl _ => ⟨due, none⟩
  | .inr p => ⟨due, some p⟩

namespace Session

/-- What becomes of a task whose query is over. -/
def resume (s : Session) (w : Work) : Session × (Outcome ⊕ Work) :=
  let (s, mask) := s.receive w.wait.query
  match w with
  | .query _ => (s, .inl (.status mask.status))
  | .queryMask _ => (s, .inl (.mask mask))
  | .publish _ => (s, .inl .done)
  | .poll p =>
    match s.resumePoll p mask with
    | (s, .inl report) => (s, .inl (.report report))
    | (s, .inr p) => (s, .inr (.poll p))

/-- Adds a task that has run as far as it could. The newest comes first. -/
def addTask (name : TaskName) (begun : Session × (Outcome ⊕ Work)) : Session :=
  let (s, result) := begun
  { s with tasks := ⟨name, TaskState.ofResult result⟩ :: s.tasks }

def task? (s : Session) (name : TaskName) : Option Task := s.tasks.find? (·.name = name)

def outcome? (s : Session) (name : TaskName) : Option Outcome := (s.task? name).bind Task.outcome?

/-- A poll as an operation. -/
def beginPoll (s : Session) : Session × (Outcome ⊕ Work) :=
  match s.poll with
  | (s, .inl report) => (s, .inl (.report report))
  | (s, .inr p) => (s, .inr (.poll p))

/-- Lets the one that waits for a query go on. -/
def wakeWaiter (s : Session) (query : Nat) : Session :=
  match s.tasks.findIdx? (fun t => t.wait?.any (·.query = query)) with
  | some i =>
    match s.tasks[i]? with
    | some ⟨name, .working w⟩ =>
      let (s, result) := s.resume w
      { s with tasks := s.tasks.set i ⟨name, TaskState.ofResult result⟩ }
    | _ => s
  | none =>
    match s.poller with
    | some ⟨due, some p⟩ =>
      if p.wait.query = query then
        let (s, mask) := s.receive query
        let (s, result) := s.resumePoll p mask
        { s with poller := some (Poller.after due result) }
      else s
    | _ => s

/-- Everything that is waited for. -/
def waits (s : Session) : List Wait :=
  s.tasks.filterMap Task.wait? ++
    ((s.poller.bind Poller.poll).map SuspendedPoll.wait).toList

/-- A tick that is more than this late moves the ticks after it. -/
def tickTolerance : Nat := 5

/-- When the tick after one is due that should have come at `due`. -/
def nextTick (s : Session) (due : Nat) : Nat :=
  let period := 1000 * s.settings.pollIntervalSecs
  if s.now > due + tickTolerance then s.now + period else due + period

/-- Polls if that is due. -/
def tick (s : Session) : Session :=
  match s.poller with
  | some ⟨due, none⟩ =>
    if due ≤ s.now then
      let next := s.nextTick due
      let (s, result) := s.poll
      { s with poller := some (Poller.after next result) }
    else s
  | _ => s

def expire (s : Session) (query : Nat) : Session := (s.signal query .expiry).wakeWaiter query

/-- The queries whose deadline has come, in the order in which they were sent. -/
def overdue (s : Session) : List Nat :=
  ((s.waits.filter (·.deadline ≤ s.now)).map Wait.query).mergeSort

/-- Does everything that is due now. -/
def settle (s : Session) : Session := (s.overdue.foldl expire s).tick

/-- The next moment at which something is due. -/
def nextMoment? (s : Session) : Option Nat :=
  (s.waits.map Wait.deadline ++
    ((s.poller.filter (·.poll.isNone)).map Poller.due).toList).min?

/-- Comes to a moment and does everything that is due then. -/
def arrive (s : Session) (moment : Nat) : Session :=
  { settle { s with now := moment } with now := moment }

/-- Lets time pass up to a moment, or until something holds. -/
def passUntil (stop : Session → Bool) (moment : Nat) (s : Session) : Session :=
  if stop s then s
  else
    match s.nextMoment? with
    | some next =>
      if s.now < next ∧ next ≤ moment then passUntil stop moment (s.arrive next) else s
    | none => s
termination_by moment - s.now
decreasing_by simp [arrive]; omega

/-- Lets time pass. -/
def advance (s : Session) (ms : Nat) : Session :=
  let target := s.now + ms
  (passUntil (fun _ => false) target s).arrive target

/-- Waits for a task to finish. -/
def await (s : Session) (name : TaskName) : Session :=
  match s.task? name with
  | some ⟨_, .working w⟩ =>
    passUntil (fun s => (s.outcome? name).isSome) (w.horizon s.settings.queryTimeoutMs) s
  | _ => s

/-- Runs an operation and waits for what it comes to. -/
def complete (begun : Session × (Outcome ⊕ Work)) : Session × Outcome :=
  let s := (addTask .foreground begun).await .foreground
  ({ s with tasks := s.tasks.filter (·.name ≠ .foreground) },
    (s.outcome? .foreground).getD .nothing)

/-- Answers every query that has not been answered, in order, and tells how many there were. -/
def deliver (s : Session) (response : Response) : Session × Nat :=
  let queries := s.server.unanswered
  let s := { s with server := { s.server with unanswered := [] } }
  let s := queries.foldl (fun s q => s.signal q (.response response)) s
  (queries.foldl wakeWaiter s, queries.length)

end Session

end Roster
