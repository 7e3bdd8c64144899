import Roster.Toml.Value

/-! TOML documents, read into a tree. -/

namespace Roster.Toml

/-- A document so far: its tables, and the header under which keys are added. -/
structure Draft where
  tables : Outline := []
  header : List String := []

/-- The rest of a line behind what stands on it: blanks and a comment. -/
def lineEnd? (cs : List Char) : Option (List Char) :=
  let cs := match skipSpaces cs with
    | '#' :: r => r.dropWhile isPlain
    | r => r
  match cs with
  | [] => some []
  | '\n' :: r => some r
  | '\r' :: '\n' :: r => some r
  | _ => none

namespace Draft

def define (d : Draft) (key : List String) (x : Tree) : Option Draft := do
  return { d with tables := ← Outline.within (Outline.define x true key) d.header d.tables }

/-- Opens a table by one of the two ways to open the last part of its key. -/
def openBy (start : String → Outline → Option Outline) (d : Draft) (key : List String) :
    Option Draft := do
  return ⟨← Outline.within (start (← key.getLast?)) key.dropLast d.tables, key⟩

/-- Reads lines to the end of the text. -/
def lines : Nat → Draft → List Char → Option Draft
  | 0, _, _ => none
  | fuel + 1, d, cs =>
    match skipSpaces cs with
    | [] => some d
    | '[' :: '[' :: r => do
      let (k, r) ← key? r
      match r with
      | ']' :: ']' :: r => lines fuel (← d.openBy Outline.openNext k) (← lineEnd? r)
      | _ => none
    | '[' :: r => do
      let (k, r) ← key? r
      match r with
      | ']' :: r => lines fuel (← d.openBy Outline.openTable k) (← lineEnd? r)
      | _ => none
    | c :: r =>
      if c = '#' ∨ c = '\n' ∨ c = '\r' then do lines fuel d (← lineEnd? (c :: r))
      else do
        let (k, r) ← key? (c :: r)
        match r with
        | '=' :: r => do
          let (x, r) ← value? (skipSpaces r)
          lines fuel (← d.define k x) (← lineEnd? r)
        | _ => none

end Draft

/-- The members of the document's root. A byte order mark may stand before everything. -/
def parse? (text : String) : Option (List (String × Tree)) :=
  let cs := match text.toList with
    | '\uFEFF' :: r => r
    | cs => cs
  (Draft.lines (cs.length + 1) {} cs).map fun d => Outline.toMembers d.tables

end Roster.Toml
