import Roster.Json.Doc

/-! Reading documents as values. A reader goes through a document in the order of its text and
stops at the first fault, so that of two faults the earlier one counts. -/

namespace Roster

/-- What is wrong with a text: it is not JSON, or it is JSON of the wrong shape. -/
inductive Fault
  | malformed
  | misshapen
  deriving DecidableEq, Repr

abbrev Reading (α : Type) := Except Fault α

namespace Doc

/-- The fault of a document found where another kind of value has to be. -/
def wrongKind : Doc → Fault
  | broken => .malformed
  | str none => .malformed
  | num n => if n.overflows then .malformed else .misshapen
  | _ => .misshapen

def readString : Doc → Reading String
  | str (some s) => .ok s
  | d => .error d.wrongKind

def readBool : Doc → Reading Bool
  | bool b => .ok b
  | d => .error d.wrongKind

/-- An integer from `low` to `high`. -/
def readInt (low high : Int) : Doc → Reading Int
  | num n =>
    match n.toInt? with
    | some i => if low ≤ i ∧ i ≤ high then .ok i else .error .misshapen
    | none => .error (num n).wrongKind
  | d => .error d.wrongKind

def readUInt8 (d : Doc) : Reading UInt8 := do return UInt8.ofNat (← d.readInt 0 255).toNat

def readUInt16 (d : Doc) : Reading UInt16 := do return UInt16.ofNat (← d.readInt 0 65535).toNat

def readOption {α : Type} (read : Doc → Reading α) : Doc → Reading (Option α)
  | null => .ok none
  | d => (read d).map some

def readItems {α : Type} (read : Doc → Reading α) : List Doc → Reading (List α)
  | [] => .ok []
  | x :: xs => do
    let a ← read x
    return a :: (← readItems read xs)

def readList {α : Type} (read : Doc → Reading α) : Doc → Reading (List α)
  | arr xs closed => do
    let as ← readItems read xs
    if closed then return as else throw .malformed
  | d => .error d.wrongKind

/-- One of some names: as a text, or as the only member of an object, with nothing in it. -/
def readName {α : Type} (names : List (String × α)) : Doc → Reading α
  | str (some s) =>
    match names.lookup s with
    | some a => .ok a
    | none => .error .misshapen
  | obj ((some k, x) :: ms) closed =>
    match names.lookup k, x with
    | none, _ => .error .misshapen
    | some a, null => if ms.isEmpty && closed then .ok a else .error .malformed
    | _, x => .error x.wrongKind
  | _ => .error .malformed

end Doc

/-- A member that a record knows. -/
structure Field where
  name : String
  check : Doc → Reading Unit

/-- How a record is read: its fields in order, and what is made of those that were found. -/
structure Shape (α : Type) where
  fields : List Field
  build : List (String × Doc) → Reading α

namespace Shape

variable {α : Type}

/-- A record without fields. -/
def unit (a : α) : Shape α := ⟨[], fun _ => .ok a⟩

def required (name : String) (read : Doc → Reading α) : Shape α where
  fields := [⟨name, fun d => (read d).map fun _ => ()⟩]
  build got :=
    match got.lookup name with
    | some d => read d
    | none => .error .misshapen

/-- A field that may be missing, or null. -/
def optional (name : String) (read : Doc → Reading α) : Shape (Option α) where
  fields := [⟨name, fun d => (d.readOption read).map fun _ => ()⟩]
  build got :=
    match got.lookup name with
    | some d => d.readOption read
    | none => .ok none

instance : Functor Shape where
  map f s := ⟨s.fields, fun got => (s.build got).map f⟩

/-- The fields of both parts, in order. -/
instance : Seq Shape where
  seq f s := ⟨f.fields ++ (s ()).fields, fun got => do return (← f.build got) (← (s ()).build got)⟩

/-- Goes through the members and keeps those the record knows. Members it does not know are passed
over. -/
def collect (fields : List Field) (got : List (String × Doc)) :
    List (Option String × Doc) → Reading (List (String × Doc))
  | [] => .ok got
  | (none, _) :: _ => .error .malformed
  | (some k, d) :: rest =>
    match fields.find? (fun f => f.name == k) with
    | some f =>
      if got.any (fun p => p.1 == k) then .error .misshapen
      else do
        f.check d
        collect fields ((k, d) :: got) rest
    | none => if d.isWhole then collect fields got rest else .error .malformed

/-- Gives the items to the fields in order. Items too many are the fault `extra`. -/
def deal (extra : Fault) (closed : Bool) : List Field → List Doc → Reading (List (String × Doc))
  | [], [] => if closed then .ok [] else .error .malformed
  | [], _ :: _ => .error extra
  | _ :: _, [] => .error (if closed then .misshapen else .malformed)
  | f :: fs, x :: xs => do
    f.check x
    return (f.name, x) :: (← deal extra closed fs xs)

/-- A record, as an object or as the list of its fields. -/
def readAs (extra : Fault) (s : Shape α) : Doc → Reading α
  | .obj ms closed => do
    let got ← collect s.fields [] ms
    if closed then s.build got else throw .malformed
  | .arr xs closed => do s.build (← deal extra closed s.fields xs)
  | d => .error d.wrongKind

def read (s : Shape α) : Doc → Reading α := s.readAs .malformed

end Shape

/-- A document that is set aside until the tag of its record is known, inside `around` other
containers. -/
def Doc.isBufferable (around : Nat) (d : Doc) : Bool :=
  d.isSound && decide (d.depth + around ≤ Doc.maxDepth)

/-- A record whose shape one member, its tag, decides. As long as the tag may still come, the other
members are set aside; they are read when the record is over. -/
structure Tagged (α : Type) where
  tag : String
  variants : List (String × Shape α)

namespace Tagged

variable {α : Type}

def readTag (t : Tagged α) (d : Doc) : Reading String := do
  let name ← d.readString
  if (t.variants.lookup name).isSome then return name else throw .misshapen

/-- The tag and the other members, in order. -/
def split (t : Tagged α) (around : Nat) : Option String → List (Option String × Doc) →
    Reading (Option String × List (Option String × Doc))
  | found, [] => .ok (found, [])
  | _, (none, _) :: _ => .error .malformed
  | found, (some k, d) :: rest =>
    if k = t.tag then
      if found.isSome then .error .misshapen
      else do
        let name ← t.readTag d
        t.split around (some name) rest
    else if d.isBufferable around then do
      let (name, others) ← t.split around found rest
      return (name, (some k, d) :: others)
    else .error .malformed

def finish (t : Tagged α) (name : String) (d : Doc) : Reading α :=
  match t.variants.lookup name with
  | some s => s.readAs .misshapen d
  | none => .error .misshapen

/-- Reads a tagged record inside `around - 1` other containers: as an object, or as a list with the
tag in front. -/
def read (t : Tagged α) (around : Nat) : Doc → Reading α
  | .obj ms closed => do
    let (found, others) ← t.split around none ms
    if !closed then throw .malformed
    match found with
    | some name => t.finish name (.obj others true)
    | none => throw .misshapen
  | .arr [] closed => .error (if closed then .misshapen else .malformed)
  | .arr (x :: xs) closed => do
    let name ← t.readTag x
    if xs.all (Doc.isBufferable around) && closed then t.finish name (.arr xs true)
    else throw .malformed
  | d => .error d.wrongKind

end Tagged

/-- Values with a JSON form. -/
class Wire (α : Type) where
  toJson : α → Json
  read : Doc → Reading α

namespace Wire

variable {α : Type} [Wire α]

def serialize (a : α) : String := (toJson a).render

def deserialize (text : String) : Reading α :=
  match Doc.ofText text with
  | (d, clean) =>
    match read d with
    | .ok a => if clean then .ok a else .error .malformed
    | .error fault => .error fault

end Wire

end Roster
