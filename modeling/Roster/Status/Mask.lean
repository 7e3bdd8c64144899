import Roster.Status

/-! Status masks: the bit field a server reports presence with. The flags overlap, so reading a
mask goes by priority; the mask with every bit set is the sentinel for an unknown status, which
is also what an absent user looks like. -/

namespace Roster

/-- A flag of a status mask. -/
inductive Flag
  | away
  | doNotDisturb
  | notAvailable
  | occupied
  | freeForChat
  | invisible
  | online
  deriving DecidableEq, Repr

namespace Flag

def all : List Flag :=
  [away, doNotDisturb, notAvailable, occupied, freeForChat, invisible, online]

def bit : Flag → Nat
  | away => 0
  | doNotDisturb => 1
  | notAvailable => 2
  | occupied => 4
  | freeForChat => 5
  | invisible => 8
  | online => 24

def key : Flag → String
  | away => "AWAY"
  | doNotDisturb => "DND"
  | notAvailable => "NA"
  | occupied => "OCCUPIED"
  | freeForChat => "FREE_FOR_CHAT"
  | invisible => "INVISIBLE"
  | online => "ONLINE"

end Flag

/-- A signed word of flags. -/
structure Mask where
  word : BitVec 64
  deriving DecidableEq, Repr

namespace Mask

/-- Nothing is known: the user is not connected, or the server gave no answer. -/
def unknown : Mask := ⟨BitVec.allOnes 64⟩

instance : Inhabited Mask := ⟨unknown⟩

def ofInt (i : Int) : Mask := ⟨BitVec.ofInt 64 i⟩

def toInt (m : Mask) : Int := m.word.toInt

def union (m n : Mask) : Mask := ⟨m.word ||| n.word⟩

def ofFlag (f : Flag) : Mask := ⟨BitVec.twoPow 64 f.bit⟩

def ofFlags (fs : List Flag) : Mask := fs.foldl (fun m f => m.union (ofFlag f)) ⟨0⟩

def online : Mask := ofFlag .online

def isUnknown (m : Mask) : Bool := m == unknown

/-- The low half of the word, which holds the flags; the sentinel has none. -/
def flagWord? (m : Mask) : Option Nat :=
  if m.isUnknown then none else some (m.word.setWidth 32).toNat

def has (m : Mask) (f : Flag) : Bool := !m.isUnknown && m.word.getLsbD f.bit

/-- What each flag says, the strongest first. -/
def priority : List (Flag × Status) :=
  [(.invisible, .invisible), (.doNotDisturb, .doNotDisturb), (.occupied, .occupied),
    (.notAvailable, .notAvailable), (.away, .away), (.freeForChat, .freeForChat)]

/-- A server answers only for users that are connected, so a mask without a telling flag reads as
online. -/
def status (m : Mask) : Status :=
  if m.isUnknown then .offline
  else match priority.find? (fun p => m.has p.1) with
    | some p => p.2
    | none => .online

/-- The flag that stands for a status. Being offline cannot be said with a flag. -/
def flagOf? : Status → Option Flag
  | .offline => none
  | .invisible => some .invisible
  | .doNotDisturb => some .doNotDisturb
  | .occupied => some .occupied
  | .notAvailable => some .notAvailable
  | .away => some .away
  | .freeForChat => some .freeForChat
  | .online => some .online

def ofStatus? (s : Status) : Option Mask := (flagOf? s).map ofFlag

theorem status_unknown : unknown.status = .offline := by decide

theorem status_ofStatus? {s : Status} {m : Mask} (h : ofStatus? s = some m) : m.status = s := by
  cases s <;> simp_all [ofStatus?, flagOf?] <;> subst h <;> decide

/-- Two's complement in hexadecimal, with at least eight digits. -/
def display (m : Mask) : String :=
  if m.isUnknown then "unknown"
  else
    let ds := Nat.toDigits 16 m.word.toNat
    String.ofList ('0' :: 'x' :: (List.replicate (8 - ds.length) '0' ++ ds))

end Mask

end Roster
