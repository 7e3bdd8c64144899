import Roster.Json.Tree
import Roster.Settings.Reader
import Roster.Settings.Variables
import Roster.Toml

/-! Settings from a file under environment variables. A variable `PRESENCE__SECTION__KEY` overrides
what the file says. -/

namespace Roster

namespace Settings

inductive Format
  | toml
  | json
  deriving DecidableEq, Repr

/-- What settings are read from: no file, a text that is given, or what a file holds. -/
inductive Source
  | missing
  | toml (text : String)
  | file (format : Format) (text : String)
  deriving DecidableEq, Repr

namespace Source

/-- Text without the byte order mark that may stand before it. -/
def unmarked (text : String) : String :=
  match text.toList with
  | '\uFEFF' :: r => String.ofList r
  | _ => text

/-- A file by its extension. One that tells of no known format counts as missing. -/
def ofFile (extension text : String) : Source :=
  match extension with
  | "toml" => file .toml (unmarked text)
  | "json" => file .json (unmarked text)
  | _ => missing

def members? : Source → Option (List (String × Tree))
  | missing => some []
  | toml text | file .toml text => Toml.parse? text
  | file .json text => Doc.table? text

def origin? : Source → Option Origin
  | file .. => some .file
  | _ => none

/-- A text that is none. What the parser says of it is left out. -/
def malformed (source : Source) : Misreading := ⟨[], "malformed text", source.origin?⟩

end Source

/-- What the name of every overriding variable begins with, letter case aside. -/
def variableStem : List Char := "presence__".toList

/-- Two underscores part the names of a path. -/
def pointed : List Char → List Char
  | '_' :: '_' :: r => '.' :: pointed r
  | c :: r => c :: pointed r
  | [] => []

/-- The member that a variable overrides. -/
def override? (v : String × String) : Option (String × Tree) :=
  let name := (Tree.fold v.1).toList
  if variableStem.isPrefixOf name then
    some (String.ofList (pointed (name.drop variableStem.length)), .text v.2)
  else none

/-- The tree of a file under variables. -/
def tree (file : List (String × Tree)) (vars : Variables) : Tree :=
  Tree.layer (Tree.layer (.table []) file) (vars.filterMap override?)

/-- Where the value under a key comes from. -/
def origin? (source : Source) (vars : Variables) (key : List String) : Option Origin :=
  if (vars.filterMap override?).any fun e => (Tree.path e.1).map Tree.fold == key then
    some .environment
  else source.origin?

/-- What is wrong in a tree, with where it comes from. -/
def misreadings (t : Tree) (origin : List String → Option Origin) : List Misreading :=
  (misfits t).map fun m => ⟨m.1, m.2, origin m.1⟩

def ofSource (source : Source) (vars : Variables) : Except SettingsFault Settings :=
  match source.members? with
  | none => .error (@SettingsFault.unreadable [source.malformed])
  | some file =>
    let t := tree file vars
    match ofTree? t with
    | none => .error (@SettingsFault.unreadable (misreadings t (origin? source vars)))
    | some s => s.validate

end Settings

end Roster
