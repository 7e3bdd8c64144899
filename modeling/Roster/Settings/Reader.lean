import Roster.Settings
import Roster.Settings.Tree
import Roster.Text.Quoted

/-! Settings understood from a tree. A value of another type is taken for what it plainly means:
truth values are numbers, numbers are texts, and texts that spell a number or a truth value are
numbers. -/

namespace Roster

namespace Tree

/-- The truth values in words. -/
def truthWords : List (String × Nat) :=
  [("true", 1), ("on", 1), ("yes", 1), ("false", 0), ("off", 0), ("no", 0)]

/-- A number of 64 bits without sign. -/
def word? : Tree → Option Nat
  | int i => if i < 0 then none else some i.toNat
  | bool b => some b.toNat
  | float x => some x.toWord
  | text s =>
    match truthWords.lookup (fold s) with
    | some n => some n
    | none => Decimal.word? s.toList
  | _ => none

def text? : Tree → Option String
  | text s => some s
  | bool b => some (toString b)
  | int i => some (String.ofList (Decimal.intDigits i))
  | float x => some x.text
  | _ => none

/-- A mode by its name, also as the one member of a table. -/
def mode? : Tree → Option AccountMode
  | text s => byName s
  | table [(k, _)] => byName k
  | _ => none
where
  byName (s : String) : Option AccountMode :=
    [AccountMode.extended, AccountMode.basic].find? fun m => m.key == fold s

/-- The part of a section that a setting is: a member by its name, or an item by its place. A
section may be absent; if it is neither table nor list it is unreadable. -/
def part? (sections : Tree) (name : String) (place : Nat) (item : String) : Option (Option Tree) :=
  match sections.get? name with
  | none => some none
  | some (table ms) => some (ms.lookup item)
  | some (list xs) => some xs[place]?
  | some _ => none

/-- Reads a setting, or takes the default if there is none. -/
def setting? {α : Type} (t : Tree) (read : Tree → Option α) (fallback : α) (name : String)
    (place : Nat) (item : String) : Option α := do
  match ← t.part? name place item with
  | none => some fallback
  | some value => read value

/-- What a value is, in words. -/
def found : Tree → String
  | nothing => "unit value"
  | bool b => s!"boolean `{b}`"
  | int i => "64-bit integer `" ++ String.ofList (Decimal.intDigits i) ++ "`"
  | float x => "floating point `" ++ x.text ++ "`"
  | text s => "string " ++ Text.quoted s
  | list _ => "sequence"
  | table _ => "map"

def mistyped (expected : String) (t : Tree) : String :=
  "invalid type: " ++ t.found ++ ", expected " ++ expected

/-- A number is only refused for its sign. -/
def wordComplaint : Tree → String
  | int i => mistyped "an unsigned 64 bit or less integer" (int i)
  | t => mistyped "an integer" t

def textComplaint : Tree → String := mistyped "a string"

def modeComplaint : Tree → String
  | text s => unknown s
  | table [(k, _)] => unknown k
  | _ => "value of enum AccountMode should be represented by either string or table with exactly one key"
where
  unknown (s : String) : String := "enum AccountMode does not have variant constructor " ++ s

def sectionComplaint (name : String) : Tree → String :=
  match name with
  | "account" => mistyped "struct AccountSettings"
  | "status_query" => mistyped "struct StatusQueryConfig"
  | _ => mistyped "struct AuthorizationConfig"

/-- Why a setting cannot be read: what is wrong, under its key. If its section cannot be read, the key
is that of the section. -/
def misfit? {α : Type} (t : Tree) (read : Tree → Option α) (complaint : Tree → String)
    (name : String) (place : Nat) (item : String) : Option (List String × String) :=
  match t.part? name place item with
  | none => some ([name], sectionComplaint name ((t.get? name).getD nothing))
  | some none => none
  | some (some value) => if (read value).isSome then none else some ([name, item], complaint value)

end Tree

namespace Settings

/-- The settings in a tree. What the tree has beside them does not count. -/
def ofTree? (t : Tree) : Option Settings := do
  let base : Settings := {}
  let mode ← t.setting? Tree.mode? base.mode "account" 0 "mode"
  let timeout ← t.setting? Tree.word? base.queryTimeoutMs "status_query" 0 "timeout_ms"
  let group ← t.setting? Tree.text? base.awaitingGroup "authorization" 0 "awaiting_group_name"
  let interval ← t.setting? Tree.word? base.pollIntervalSecs "authorization" 1 "poll_interval_secs"
  let delay ←
    t.setting? Tree.word? base.pollInitialDelaySecs "authorization" 2 "poll_initial_delay_secs"
  let reason ← t.setting? Tree.text? base.reRequestReason "authorization" 3 "re_request_reason"
  return {
    mode := mode
    queryTimeoutMs := timeout
    awaitingGroup := group
    pollIntervalSecs := interval
    pollInitialDelaySecs := delay
    reRequestReason := reason }

/-- What is wrong in a tree, setting by setting. -/
def misfits (t : Tree) : List (List String × String) :=
  [t.misfit? Tree.mode? Tree.modeComplaint "account" 0 "mode",
    t.misfit? Tree.word? Tree.wordComplaint "status_query" 0 "timeout_ms",
    t.misfit? Tree.text? Tree.textComplaint "authorization" 0 "awaiting_group_name",
    t.misfit? Tree.word? Tree.wordComplaint "authorization" 1 "poll_interval_secs",
    t.misfit? Tree.word? Tree.wordComplaint "authorization" 2 "poll_initial_delay_secs",
    t.misfit? Tree.text? Tree.textComplaint "authorization" 3 "re_request_reason"].filterMap id

end Settings

end Roster
