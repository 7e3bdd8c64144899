import Roster.Settings.Tree

/-! The tables of a TOML document while it is read. How a table came about decides what may still be
added to it: no table is opened twice, and a dotted key adds only to what dotted keys have made. -/

namespace Roster.Toml

inductive Origin
  /-- By a header of its own. -/
  | opened
  /-- On the way to the table of some header. -/
  | passed
  /-- On the way to the value of a dotted key. -/
  | dotted
  deriving DecidableEq, Repr

inductive Node
  | leaf (value : Tree)
  | table (origin : Origin) (members : List (String × Node))
  /-- The tables of one repeated header, the latest first. -/
  | tables (items : List (List (String × Node)))

/-- The members of a table that is being read. -/
abbrev Outline := List (String × Node)

namespace Outline

/-- Adds a value under a dotted key. The flag tells whether the table at hand takes keys; the last
table on the way must. -/
def define (value : Tree) : Bool → List String → Outline → Option Outline
  | _, [], _ => none
  | takesKeys, [k], ms =>
    if takesKeys && (ms.lookup k).isNone then some (ms ++ [(k, .leaf value)]) else none
  | _, k :: path, ms =>
    match ms.lookup k with
    | none => do return ms ++ [(k, .table .dotted (← define value true path []))]
    | some (.table .dotted inner) => do
      return Tree.put k (.table .dotted (← define value true path inner)) ms
    | some (.table .passed inner) => do
      return Tree.put k (.table .passed (← define value false path inner)) ms
    | some (.tables (inner :: earlier)) => do
      return Tree.put k (.tables ((← define value false path inner) :: earlier)) ms
    | some _ => none

/-- Opens a table. -/
def openTable (k : String) (ms : Outline) : Option Outline :=
  match ms.lookup k with
  | none => some (ms ++ [(k, .table .opened [])])
  | some (.table .passed inner) => some (Tree.put k (.table .opened inner) ms)
  | some _ => none

/-- Opens one more table of those that share a header. -/
def openNext (k : String) (ms : Outline) : Option Outline :=
  match ms.lookup k with
  | none => some (ms ++ [(k, .tables [[]])])
  | some (.tables items) => some (Tree.put k (.tables ([] :: items)) ms)
  | some _ => none

/-- Changes the table that a header leads to, making the tables that are missing on the way. -/
def within (change : Outline → Option Outline) : List String → Outline → Option Outline
  | [], ms => change ms
  | k :: path, ms =>
    match ms.lookup k with
    | none => do return ms ++ [(k, .table .passed (← within change path []))]
    | some (.table origin inner) => do
      return Tree.put k (.table origin (← within change path inner)) ms
    | some (.tables (inner :: earlier)) => do
      return Tree.put k (.tables ((← within change path inner) :: earlier)) ms
    | some _ => none

end Outline

mutual

def Node.toTree : Node → Tree
  | .leaf value => value
  | .table _ ms => .table (Outline.toMembers ms)
  | .tables items => .list (Outline.toTables items).reverse

def Outline.toMembers : List (String × Node) → List (String × Tree)
  | [] => []
  | (k, n) :: ms => (k, n.toTree) :: Outline.toMembers ms

def Outline.toTables : List (List (String × Node)) → List Tree
  | [] => []
  | ms :: items => .table (Outline.toMembers ms) :: Outline.toTables items

end

end Roster.Toml
