import Roster.Account
import Roster.Text.Blank

/-! The settings of an account, and what makes them usable. -/

namespace Roster

structure Settings where
  mode : AccountMode := .extended
  /-- How long a status query waits for its answer. -/
  queryTimeoutMs : Nat := 10000
  awaitingGroup : String := "Awaiting authorization"
  pollIntervalSecs : Nat := 120
  /-- From the registration to the first poll. -/
  pollInitialDelaySecs : Nat := 15
  reRequestReason : String := "I'm resending my request. Please authorize me!"
  deriving DecidableEq, Repr

/-- Where a value comes from, or a text that holds values. A text given as such has no origin. -/
inductive Origin
  | file
  | environment
  deriving DecidableEq, Repr

/-- A file is named by its path, which is not kept here. -/
def Origin.words : Origin → String
  | file => "the file"
  | environment => "the environment"

/-- Why settings cannot be read: a value that is wrong, under its key, or a text that is none, without a
key. -/
structure Misreading where
  key : List String
  complaint : String
  origin : Option Origin
  deriving DecidableEq, Repr

/-- The library tells so much of a value of the wrong type; of a mode that there is not it may tell less. -/
def Misreading.words (m : Misreading) : String :=
  m.complaint ++ (if m.key = [] then "" else " for key `" ++ ".".intercalate m.key ++ "`") ++
    m.origin.elim "" fun origin => " in " ++ origin.words

inductive SettingsFault
  | invalid (item problem : String)
  /-- All that is wrong. One of the causes is told, and which one depends on how a hash table lies. -/
  | unreadable {causes : List Misreading}
  deriving DecidableEq, Repr

/-- The message; of several causes the first is told here. -/
def SettingsFault.message : SettingsFault → String
  | invalid item problem => s!"Invalid value for {item}: {problem}"
  | @unreadable causes =>
    "Failed to load configuration: " ++ causes.head?.elim "" Misreading.words

namespace Settings

/-- Settings that an account can run with. -/
def validate (s : Settings) : Except SettingsFault Settings :=
  if s.pollIntervalSecs = 0 then
    .error (.invalid "authorization.poll_interval_secs" "must be greater than zero")
  else if s.awaitingGroup.toList.all Text.isBlank then
    .error (.invalid "authorization.awaiting_group_name" "must not be empty")
  else .ok s

theorem validate_ok {s settings : Settings} (h : s.validate = .ok settings) : s = settings := by
  rw [validate] at h
  split at h
  · exact absurd h nofun
  · split at h
    · exact absurd h nofun
    · exact Except.ok.inj h

/-- The poll interval comes first. -/
theorem validate_error_iff {s : Settings} {fault : SettingsFault} : s.validate = .error fault ↔
    s.pollIntervalSecs = 0 ∧ fault = .invalid "authorization.poll_interval_secs" "must be greater than zero" ∨
      s.pollIntervalSecs ≠ 0 ∧ s.awaitingGroup.toList.all Text.isBlank = true ∧
        fault = .invalid "authorization.awaiting_group_name" "must not be empty" := by
  rw [validate]
  split
  · next hzero => simp [hzero, @eq_comm _ fault]
  · next hpos => split <;> simp [*, @eq_comm _ fault]

def queryTimeoutNs (s : Settings) : Nat := s.queryTimeoutMs * 1000000

def pollIntervalNs (s : Settings) : Nat := s.pollIntervalSecs * 1000000000

def pollInitialDelayNs (s : Settings) : Nat := s.pollInitialDelaySecs * 1000000000

end Settings

end Roster
