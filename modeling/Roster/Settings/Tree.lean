import Roster.Double

/-! Settings before they are understood: a tree of tables, as files and variables spell it. Letter
case does not count in the names of members, and folding ASCII alone is enough, for no letter
outside ASCII occurs in the name of a setting. -/

namespace Roster

inductive Tree
  | nothing
  | bool (value : Bool)
  | int (value : Int)
  | float (value : Double)
  | text (value : String)
  | list (items : List Tree)
  | table (members : List (String × Tree))

namespace Tree

instance : Inhabited Tree := ⟨nothing⟩

/-- The members of a table; nothing else has any. -/
def members : Tree → List (String × Tree)
  | table ms => ms
  | _ => []

def get? (t : Tree) (name : String) : Option Tree := t.members.lookup name

/-- Sets a member, in place if there is one of that name. -/
def put {α : Type} (name : String) (a : α) : List (String × α) → List (String × α)
  | [] => [(name, a)]
  | (k, b) :: ms => if k = name then (k, a) :: ms else (k, b) :: put name a ms

theorem lookup_put_self {α : Type} (name : String) (a : α) (ms : List (String × α)) :
    (put name a ms).lookup name = some a := by
  induction ms with
  | nil => simp [put]
  | cons p ms ih =>
    obtain ⟨k, b⟩ := p
    simp only [put]
    split
    · simp_all
    · next h => simp [List.lookup_cons, beq_eq_false_iff_ne.2 (Ne.symm h), ih]

theorem lookup_put_of_ne {α : Type} {name other : String} (h : other ≠ name) (a : α)
    (ms : List (String × α)) : (put name a ms).lookup other = ms.lookup other := by
  induction ms with
  | nil => simp [put, List.lookup_cons, beq_eq_false_iff_ne.2 h]
  | cons p ms ih =>
    obtain ⟨k, b⟩ := p
    simp only [put]
    split
    · next hk => subst hk; simp [List.lookup_cons, beq_eq_false_iff_ne.2 h]
    · simp [List.lookup_cons, ih]

def fold (name : String) : String := name.map Char.toLower

mutual

/-- A tree laid over what was there: tables are joined member by member, all else is replaced. -/
def overlay (old : Tree) : Tree → Tree
  | table ms => table (membersOver old.members ms)
  | t => t

def membersOver (old : List (String × Tree)) : List (String × Tree) → List (String × Tree)
  | [] => old
  | (k, t) :: ms =>
    membersOver (put (fold k) (overlay ((old.lookup (fold k)).getD nothing) t) old) ms

end

/-- Lays a tree over the place that a path leads to. What stands in the way of the path and is no
table becomes one. -/
def setAt (new : Tree) : List String → Tree → Tree
  | [], old => overlay old new
  | k :: path, old =>
    table (put (fold k) (setAt new path ((old.get? (fold k)).getD nothing)) old.members)

/-- Characters of the names that a path is made of. -/
def isNameChar (c : Char) : Bool := c.isAlphanum || c == '_' || c == '-'

/-- The parts of a text between points. -/
def pieces : List Char → List (List Char)
  | [] => [[]]
  | c :: r =>
    match c, pieces r with
    | '.', ps => [] :: ps
    | c, p :: ps => (c :: p) :: ps
    | c, [] => [[c]]

/-- The path that a name spells: names between points. What spells no path is one name. -/
def path (name : String) : List String :=
  let ps := pieces name.toList
  if ps.all fun p => !p.isEmpty && p.all isNameChar then ps.map String.ofList else [name]

/-- Lays the members of a source over a tree, each where its name leads to. -/
def layer (base : Tree) (source : List (String × Tree)) : Tree :=
  source.foldl (fun t m => setAt m.2 (path m.1) t) base

end Tree

end Roster
