import Roster.Json.Doc
import Roster.Settings.Tree

/-! JSON documents as trees of settings. -/

namespace Roster

namespace Doc

/-- Integers beyond the signed ones of 64 bits count as fractions. -/
def numberTree (n : Numeral) : Tree :=
  match n.toInt? with
  | some i => if Word.isSigned i then .int i else .float (.nearest false i.toNat 1)
  | none => .float n.toDouble

mutual

/-- The tree of a sound document. Of members with one name the last counts. -/
def toTree : Doc → Tree
  | null => .nothing
  | bool b => .bool b
  | num n => numberTree n
  | str s => .text (s.getD "")
  | arr xs _ => .list (itemTrees xs)
  | obj ms _ => .table (memberTrees [] ms)
  | broken => .nothing

def itemTrees : List Doc → List Tree
  | [] => []
  | x :: xs => x.toTree :: itemTrees xs

def memberTrees (before : List (String × Tree)) :
    List (Option String × Doc) → List (String × Tree)
  | [] => before
  | (k, x) :: ms => memberTrees (Tree.put (k.getD "") x.toTree before) ms

end

/-- The members of the object that a text holds. -/
def table? (text : String) : Option (List (String × Tree)) :=
  match ofText text with
  | (obj ms closed, true) =>
    let d := obj ms closed
    if d.isSound && decide (d.depth ≤ maxDepth) then some (memberTrees [] ms) else none
  | _ => none

end Doc

end Roster
