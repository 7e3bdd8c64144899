import Roster.Text.Decimal

/-! JSON values as they are written. Numbers are integers; members keep their order. -/

namespace Roster

inductive Json
  | null
  | bool (value : Bool)
  | int (value : Int)
  | str (value : String)
  | arr (items : List Json)
  | obj (members : List (String × Json))

namespace Json

def ofOption {α : Type} (f : α → Json) : Option α → Json
  | some a => f a
  | none => null

def nat (n : Nat) : Json := int n

def strOrNull : Option String → Json := ofOption str

def hexDigit (d : Nat) : Char := if d < 10 then Char.ofNat (48 + d) else Char.ofNat (87 + d)

/-- The letter that an escape puts for a character, if there is one. -/
def shorthand? (c : Char) : Option Char :=
  match c with
  | '"' => some '"'
  | '\\' => some '\\'
  | '\x08' => some 'b'
  | '\t' => some 't'
  | '\n' => some 'n'
  | '\x0c' => some 'f'
  | '\r' => some 'r'
  | _ => none

/-- A quote, a backslash and the control characters are escaped; all else stands for itself. -/
def escape (c : Char) : List Char :=
  match shorthand? c with
  | some e => ['\\', e]
  | none =>
    if c.toNat < 32 then
      ['\\', 'u', '0', '0', hexDigit (c.toNat / 16), hexDigit (c.toNat % 16)]
    else [c]

def quote (s : String) : List Char := '"' :: (s.toList.flatMap escape ++ ['"'])

mutual

def chars : Json → List Char
  | null => "null".toList
  | bool true => "true".toList
  | bool false => "false".toList
  | int i => Decimal.intDigits i
  | str s => quote s
  | arr [] => ['[', ']']
  | arr (x :: xs) => '[' :: (x.chars ++ itemChars xs)
  | obj [] => ['\x7b', '\x7d']
  | obj ((k, x) :: ms) => '\x7b' :: (quote k ++ ':' :: (x.chars ++ memberChars ms))

/-- The items after the first, and the closing bracket. -/
def itemChars : List Json → List Char
  | [] => [']']
  | x :: xs => ',' :: (x.chars ++ itemChars xs)

/-- The members after the first, and the closing brace. -/
def memberChars : List (String × Json) → List Char
  | [] => ['\x7d']
  | (k, x) :: ms => ',' :: (quote k ++ ':' :: (x.chars ++ memberChars ms))

end

def render (j : Json) : String := String.ofList j.chars

end Json

end Roster
