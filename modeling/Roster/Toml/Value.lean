import Roster.Toml.Outline
import Roster.Toml.Scalar

/-! TOML values that hold others. Arrays may run over lines and hold comments; a table that is
written as a value stays on one line. -/

namespace Roster.Toml

/-- Skips blanks, line ends and comments; the flag is set inside a comment. A comment that no line
end closes is nothing to skip. -/
def skipLines : Bool → List Char → Option (List Char)
  | false, [] => some []
  | true, [] => none
  | _, '\n' :: r => skipLines false r
  | _, '\r' :: '\n' :: r => skipLines false r
  | false, '#' :: r => skipLines true r
  | false, c :: r => if isSpace c then skipLines false r else some (c :: r)
  | true, c :: r => if isPlain c then skipLines true r else none

mutual

/-- A value that may nest so deep. -/
def value (depth : Nat) : Nat → List Char → Option (Tree × List Char)
  | 0, _ => none
  | fuel + 1, cs =>
    match depth, cs with
    | 0, '[' :: _ => none
    | 0, '\x7b' :: _ => none
    | depth + 1, '[' :: r => do
      let (xs, r) ← items depth fuel r
      return (.list xs, r)
    | depth + 1, '\x7b' :: r =>
      match skipSpaces r with
      | '\x7d' :: r => some (.table [], r)
      | r => do
        let (ms, r) ← pairs depth fuel [] r
        return (.table (Outline.toMembers ms), r)
    | _, cs => scalar? cs

/-- The items of an array up to its bracket. A comma may follow the last. -/
def items (depth : Nat) : Nat → List Char → Option (List Tree × List Char)
  | 0, _ => none
  | fuel + 1, cs => do
    match ← skipLines false cs with
    | ']' :: r => return ([], r)
    | cs => do
      let (x, r) ← value depth fuel cs
      match ← skipLines false r with
      | ']' :: r => return ([x], r)
      | ',' :: r => do
        let (xs, r) ← items depth fuel r
        return (x :: xs, r)
      | _ => none

/-- The keys and values of a table up to its brace, added to those before them. -/
def pairs (depth : Nat) : Nat → Outline → List Char → Option (Outline × List Char)
  | 0, _, _ => none
  | fuel + 1, ms, cs => do
    let (k, r) ← key? cs
    match r with
    | '=' :: r => do
      let (x, r) ← value depth fuel (skipSpaces r)
      let ms ← Outline.define x true k ms
      match skipSpaces r with
      | '\x7d' :: r => return (ms, r)
      | ',' :: r => pairs depth fuel ms r
      | _ => none
    | _ => none

end

/-- A value of a document. -/
def value? (cs : List Char) : Option (Tree × List Char) :=
  value (depthLimit - 1) (2 * cs.length + 2) cs

end Roster.Toml
