import Roster.Double
import Roster.Json
import Roster.Text.Hex

/-! JSON text as it is read. A `Doc` keeps what the text says, repeated members and the spelling
of numbers included, and where the text stops being JSON: there stands `broken`, or a container
that is not closed. A reader that goes through a document in order thus meets a value of the wrong
kind first if it comes first. -/

namespace Roster

/-- A number as it is spelled: the significand times a power of ten. -/
structure Numeral where
  negative : Bool
  significand : Nat
  exponent : Int
  /-- Written without a fraction and without an exponent. -/
  isPlain : Bool
  deriving DecidableEq, Repr

namespace Numeral

def ofInt : Int → Numeral
  | .ofNat n => ⟨false, n, 0, true⟩
  | .negSucc n => ⟨true, n + 1, 0, true⟩

/-- The integer that a plain numeral spells, if 64 bits hold it, signed or not. Minus zero is not
an integer. -/
def toInt? (n : Numeral) : Option Int :=
  if !n.isPlain then none
  else if n.negative then
    if n.significand = 0 ∨ n.significand > Word.half then none else some (-n.significand)
  else if n.significand < Word.bound then some n.significand else none

/-- A significand of at most 64 bits; a longer one loses its last digits. -/
def shorten (significand : Nat) (exponent : Int) : Nat × Int :=
  if significand < Word.bound then (significand, exponent)
  else shorten (significand / 10) (exponent + 1)
termination_by significand
decreasing_by simp [Word.bound] at *; omega

/-- The number that a numeral is read as when it is no integer. The shortened significand and the
power of ten are rounded each on its own; a division by more than the greatest power is done in
two steps. -/
def toDouble (n : Numeral) : Double :=
  let (significand, exponent) := shorten n.significand n.exponent
  let x := Double.nearest n.negative significand 1
  if exponent ≥ -308 then x.timesTen exponent
  else (x.timesTen (-308)).timesTen (exponent + 308)

/-- Beyond the range of floating point a numeral has no value, unless it is an integer. -/
def overflows (n : Numeral) : Bool :=
  n.toInt?.isNone && match n.toDouble with
    | .infinite _ => true
    | _ => false

end Numeral

inductive Doc
  | null
  | bool (value : Bool)
  | num (value : Numeral)
  /-- No text when an escape names half a surrogate pair. -/
  | str (value : Option String)
  | arr (items : List Doc) (closed : Bool)
  | obj (members : List (Option String × Doc)) (closed : Bool)
  | broken

namespace Doc

mutual

/-- The document that a written value is read as. -/
def ofJson : Json → Doc
  | .null => .null
  | .bool b => .bool b
  | .int i => .num (Numeral.ofInt i)
  | .str s => .str (some s)
  | .arr xs => .arr (ofItems xs) true
  | .obj ms => .obj (ofMembers ms) true

def ofItems : List Json → List Doc
  | [] => []
  | x :: xs => ofJson x :: ofItems xs

def ofMembers : List (String × Json) → List (Option String × Doc)
  | [] => []
  | (k, x) :: ms => (some k, ofJson x) :: ofMembers ms

end

def isBlank (c : Char) : Bool := c = ' ' || c = '\n' || c = '\r' || c = '\t'

def skipBlanks : List Char → List Char
  | [] => []
  | c :: r => if isBlank c then skipBlanks r else c :: r

/-- What a one-letter escape stands for. -/
def shortEscape? : Char → Option Char
  | '"' => some '"'
  | '\\' => some '\\'
  | '/' => some '/'
  | 'b' => some '\x08'
  | 'f' => some '\x0c'
  | 'n' => some '\n'
  | 'r' => some '\r'
  | 't' => some '\t'
  | _ => none

/-- The units of a quoted text up to its closing quote, and what follows it. A unit is a code
point, or half a surrogate pair. -/
def units : List Char → Option (List Nat × List Char)
  | [] => none
  | '"' :: r => some ([], r)
  | '\\' :: 'u' :: a :: b :: c :: d :: r =>
    match Hex.value? [a, b, c, d] with
    | some n => (units r).map fun p => (n :: p.1, p.2)
    | none => none
  | '\\' :: e :: r =>
    match shortEscape? e with
    | some c => (units r).map fun p => (c.toNat :: p.1, p.2)
    | none => none
  | c :: r => if c.toNat < 32 then none else (units r).map fun p => (c.toNat :: p.1, p.2)

def isHighSurrogate (n : Nat) : Bool := 0xD800 ≤ n && n < 0xDC00

def isLowSurrogate (n : Nat) : Bool := 0xDC00 ≤ n && n < 0xE000

/-- The characters that units spell, unless half a pair stands alone. -/
def joinUnits : List Nat → Option (List Char)
  | [] => some []
  | n :: r =>
    if isHighSurrogate n then
      match r with
      | m :: r =>
        if isLowSurrogate m then
          (joinUnits r).map (Char.ofNat (0x10000 + (n - 0xD800) * 0x400 + (m - 0xDC00)) :: ·)
        else none
      | [] => none
    else if isLowSurrogate n then none
    else (joinUnits r).map (Char.ofNat n :: ·)

/-- A quoted text after its opening quote. -/
def text? (cs : List Char) : Option (Option String × List Char) :=
  (units cs).map fun p => ((joinUnits p.1).map String.ofList, p.2)

/-- The digits at the front, and the rest. -/
def digits (cs : List Char) : List Char × List Char := cs.span Char.isDigit

/-- The digits after the point; none without one. A point needs digits. -/
def fraction? : List Char → Option (List Char × List Char)
  | '.' :: r => if (digits r).1.isEmpty then none else some (digits r)
  | cs => some ([], cs)

/-- The exponent; none if there is no letter for it. A letter needs digits. -/
def exponent? : List Char → Option (Option Int × List Char)
  | c :: r =>
    if c = 'e' ∨ c = 'E' then
      let (sign, r) : Int × List Char := match r with
        | '-' :: r => (-1, r)
        | '+' :: r => (1, r)
        | _ => (1, r)
      if (digits r).1.isEmpty then none
      else some (some (sign * Decimal.value (digits r).1), (digits r).2)
    else some (none, c :: r)
  | [] => some (none, [])

/-- A number; a whole part of several digits does not start with zero. -/
def numeral? (cs : List Char) : Option (Numeral × List Char) := do
  let (negative, cs) := match cs with
    | '-' :: r => (true, r)
    | _ => (false, cs)
  let (whole, cs) := digits cs
  if whole.isEmpty || (whole.head? == some '0' && whole.length > 1) then none
  else
    let (frac, cs) ← fraction? cs
    let (exp, cs) ← exponent? cs
    return (⟨negative, Decimal.value (whole ++ frac), exp.getD 0 - frac.length,
      frac.isEmpty && exp.isNone⟩, cs)

mutual

/-- A value, and the text after it if there was nothing wrong with it. -/
def value : Nat → List Char → Doc × Option (List Char)
  | 0, _ => (broken, none)
  | fuel + 1, cs =>
    match skipBlanks cs with
    | 'n' :: 'u' :: 'l' :: 'l' :: r => (null, some r)
    | 't' :: 'r' :: 'u' :: 'e' :: r => (bool true, some r)
    | 'f' :: 'a' :: 'l' :: 's' :: 'e' :: r => (bool false, some r)
    | '"' :: r =>
      match text? r with
      | some (s, r) => (str s, some r)
      | none => (broken, none)
    | '[' :: r =>
      match skipBlanks r with
      | ']' :: r => (arr [] true, some r)
      | r => let p := items fuel r; (arr p.1 p.2.isSome, p.2)
    | '\x7b' :: r =>
      match skipBlanks r with
      | '\x7d' :: r => (obj [] true, some r)
      | r => let p := members fuel r; (obj p.1 p.2.isSome, p.2)
    | cs =>
      match numeral? cs with
      | some (n, r) => (num n, some r)
      | none => (broken, none)

/-- One item or more, and the text after the closing bracket. -/
def items : Nat → List Char → List Doc × Option (List Char)
  | 0, _ => ([broken], none)
  | fuel + 1, cs =>
    match value fuel cs with
    | (x, none) => ([x], none)
    | (x, some r) =>
      match skipBlanks r with
      | ']' :: r => ([x], some r)
      | ',' :: r => let p := items fuel r; (x :: p.1, p.2)
      | _ => ([x], none)

/-- One member or more, and the text after the closing brace. -/
def members : Nat → List Char → List (Option String × Doc) × Option (List Char)
  | 0, _ => ([], none)
  | fuel + 1, cs =>
    match skipBlanks cs with
    | '"' :: r =>
      match text? r with
      | none => ([], none)
      | some (k, r) =>
        match skipBlanks r with
        | ':' :: r =>
          match value fuel r with
          | (x, none) => ([(k, x)], none)
          | (x, some r) =>
            match skipBlanks r with
            | '\x7d' :: r => ([(k, x)], some r)
            | ',' :: r => let p := members fuel r; ((k, x) :: p.1, p.2)
            | _ => ([(k, x)], none)
        | _ => ([(k, broken)], none)
    | _ => ([], none)

end

/-- Reads a text. The flag tells whether it holds one value and nothing else. -/
def ofText (text : String) : Doc × Bool :=
  let cs := text.toList
  match value (2 * cs.length + 2) cs with
  | (d, some r) => (d, (skipBlanks r).isEmpty)
  | (d, none) => (d, false)

mutual

/-- Holds no break and nothing that has no value. -/
def isSound : Doc → Bool
  | broken => false
  | num n => !n.overflows
  | str s => s.isSome
  | arr xs closed => itemsSound xs && closed
  | obj ms closed => membersSound ms && closed
  | _ => true

def itemsSound : List Doc → Bool
  | [] => true
  | x :: xs => x.isSound && itemsSound xs

def membersSound : List (Option String × Doc) → Bool
  | [] => true
  | (k, x) :: ms => k.isSome && x.isSound && membersSound ms

end

mutual

/-- Holds no break. What has no value may still be passed over. -/
def isWhole : Doc → Bool
  | broken => false
  | arr xs closed => itemsWhole xs && closed
  | obj ms closed => membersWhole ms && closed
  | _ => true

def itemsWhole : List Doc → Bool
  | [] => true
  | x :: xs => x.isWhole && itemsWhole xs

def membersWhole : List (Option String × Doc) → Bool
  | [] => true
  | (_, x) :: ms => x.isWhole && membersWhole ms

end

mutual

/-- How many containers lie inside one another. -/
def depth : Doc → Nat
  | arr xs _ => 1 + itemsDepth xs
  | obj ms _ => 1 + membersDepth ms
  | _ => 0

def itemsDepth : List Doc → Nat
  | [] => 0
  | x :: xs => max x.depth (itemsDepth xs)

def membersDepth : List (Option String × Doc) → Nat
  | [] => 0
  | (_, x) :: ms => max x.depth (membersDepth ms)

end

/-- How many containers inside one another are kept. -/
def maxDepth : Nat := 127

mutual

/-- The value of a sound document whose numbers are all integers. -/
def toJson? : Doc → Option Json
  | null => some .null
  | bool b => some (.bool b)
  | num n => n.toInt?.map .int
  | str s => s.map .str
  | arr xs true => (itemsJson? xs).map .arr
  | obj ms true => (membersJson? ms).map .obj
  | _ => none

def itemsJson? : List Doc → Option (List Json)
  | [] => some []
  | x :: xs => do return (← x.toJson?) :: (← itemsJson? xs)

def membersJson? : List (Option String × Doc) → Option (List (String × Json))
  | [] => some []
  | (k, x) :: ms => do return (← k, ← x.toJson?) :: (← membersJson? ms)

end

end Doc

/-- The value that a text spells, integers being its only numbers. -/
def Json.parse? (text : String) : Option Json :=
  match Doc.ofText text with
  | (d, true) => d.toJson?
  | _ => none

end Roster
