import Roster.Settings
import Roster.Text.Decimal

/-! Settings from environment variables. A variable that is absent leaves the default. -/

namespace Roster

/-- Environment variables. -/
abbrev Variables := List (String × String)

namespace Settings

/-- A number, blanks around it not counting. The complaint quotes the value as it was given. -/
def wordVariable (vars : Variables) (name : String) (fallback : Nat) :
    Except SettingsFault Nat :=
  match vars.lookup name with
  | none => .ok fallback
  | some text =>
    match Decimal.word? (Text.trim text.toList) with
    | some n => .ok n
    | none => .error (.invalid name text)

def modeVariable (vars : Variables) (name : String) (fallback : AccountMode) :
    Except SettingsFault AccountMode :=
  match vars.lookup name with
  | none => .ok fallback
  | some text =>
    match AccountMode.parse? text with
    | some m => .ok m
    | none => .error (.invalid name text)

def textVariable (vars : Variables) (name : String) (fallback : String) : String :=
  (vars.lookup name).getD fallback

def ofVariables (vars : Variables) : Except SettingsFault Settings := do
  let base : Settings := {}
  let mode ← modeVariable vars "PRESENCE_ACCOUNT_MODE" base.mode
  let timeout ← wordVariable vars "PRESENCE_QUERY_TIMEOUT_MS" base.queryTimeoutMs
  let interval ← wordVariable vars "PRESENCE_POLL_INTERVAL_SECS" base.pollIntervalSecs
  let delay ← wordVariable vars "PRESENCE_POLL_INITIAL_DELAY_SECS" base.pollInitialDelaySecs
  validate {
    mode := mode
    queryTimeoutMs := timeout
    awaitingGroup := textVariable vars "PRESENCE_AWAITING_GROUP_NAME" base.awaitingGroup
    pollIntervalSecs := interval
    pollInitialDelaySecs := delay
    reRequestReason := textVariable vars "PRESENCE_RE_REQUEST_REASON" base.reRequestReason }

end Settings

end Roster
