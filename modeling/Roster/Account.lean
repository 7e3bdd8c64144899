import Roster.Failure
import Roster.Message

/-! The two account modes. Both speak the same masks; they differ in the statuses they can
express and in the commands that change a status. -/

namespace Roster

inductive AccountMode
  /-- Numeric accounts with every status and authorization re-requests. -/
  | extended
  /-- Screen-name accounts, which know online, away and invisible. -/
  | basic
  deriving DecidableEq, Repr

namespace AccountMode

instance : Inhabited AccountMode := ⟨extended⟩

def key : AccountMode → String
  | extended => "extended"
  | basic => "basic"

/-- Reads a mode by any of its names. The letters of the names have no capitals outside ASCII, so
folding ASCII alone loses nothing. -/
def parse? (text : String) : Option AccountMode :=
  [("extended", extended), ("icq", extended), ("basic", basic), ("aim", basic)].lookup
    (text.map Char.toLower)

/-- The statuses an account of this mode can be in, in the order they are offered. -/
def supported : AccountMode → List Status
  | extended =>
    [.online, .doNotDisturb, .freeForChat, .notAvailable, .occupied, .away, .invisible, .offline]
  | basic => [.online, .away, .invisible, .offline]

def hasExtendedAuthorization : AccountMode → Bool
  | extended => true
  | basic => false

/-- The mask of a supported status. -/
def encode (mode : AccountMode) (s : Status) : Except Failure Mask :=
  if s ∈ mode.supported then
    match Mask.ofStatus? s with
    | some m => .ok m
    | none => .error (.unsupportedStatus s)
  else .error (.unsupportedStatus s)

/-- What a report about our own account says of our status. We are connected, or there would be no
report. -/
def ownMask (mode : AccountMode) (info : UserInfo) : Mask :=
  match mode with
  | extended => if info.mask.isUnknown then .online else info.mask
  | basic =>
    if info.away = some true then .ofFlag .away
    else if info.mask.isUnknown then .online
    else info.mask

/-- What a pushed report says of a buddy's status. -/
def buddyStatus (mode : AccountMode) (info : UserInfo) : Status :=
  match mode with
  | extended => info.mask.status
  | basic => if info.away = some true then .away else .online

/-- The away message of a basic account that goes away without a text. -/
def defaultAwayMessage : String := "I'm away!"

/-- The commands that lead from one status to another. A basic account says away with an away
message and invisible with a switch, so it first undoes the one to do the other. -/
def publishCommands (mode : AccountMode) (requested current : Status) (message : String) :
    Except Failure (List Command) := do
  let mask ← mode.encode requested
  match mode with
  | extended => return [.setExtendedStatus mask, .setStatusMessage message]
  | basic =>
    match requested with
    | .away =>
      let reveal := if current = .invisible then [Command.setVisibility true] else []
      let text := if message.isEmpty then defaultAwayMessage else message
      return reveal ++ [.setAwayMessage (some text)]
    | .invisible =>
      let comeBack := if current = .away then [Command.setAwayMessage none] else []
      return comeBack ++ [.setVisibility false]
    | .online =>
      if current = .invisible then return [.setVisibility true]
      else if current = .away then return [.setAwayMessage none]
      else return []
    | other => throw (.unsupportedStatus other)

end AccountMode

end Roster
