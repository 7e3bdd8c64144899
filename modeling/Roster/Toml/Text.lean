import Roster.Text.Hex

/-! The quoted texts and the keys of TOML. A reader takes the characters from the place where its
thing may begin, and gives what it read and the characters after it; it gives nothing if the thing
is malformed. -/

namespace Roster.Toml

def isSpace (c : Char) : Bool := c = ' ' || c = '\t'

def skipSpaces (cs : List Char) : List Char := cs.dropWhile isSpace

/-- Control characters but for the tab stand in no text and in no comment. -/
def isPlain (c : Char) : Bool := c = '\t' || (32 ≤ c.toNat && c.toNat != 127)

/-- What an escape of one letter stands for. -/
def shortEscape? : Char → Option Char
  | '"' => some '"'
  | '\\' => some '\\'
  | 'b' => some '\x08'
  | 'f' => some '\x0c'
  | 'n' => some '\n'
  | 'r' => some '\r'
  | 't' => some '\t'
  | _ => none

/-- The character of a number that is one. -/
def char? (digits : List Char) : Option Char :=
  (Hex.value? digits).bind fun n => if n.isValidChar then some (Char.ofNat n) else none

def cons (c : Char) (p : List Char × List Char) : List Char × List Char := (c :: p.1, p.2)

/-- A text in double quotes, from behind the first. -/
def basic : List Char → Option (List Char × List Char)
  | [] => none
  | '"' :: r => some ([], r)
  | '\\' :: 'u' :: a :: b :: c :: d :: r => do return cons (← char? [a, b, c, d]) (← basic r)
  | '\\' :: 'U' :: a :: b :: c :: d :: e :: f :: g :: h :: r => do
    return cons (← char? [a, b, c, d, e, f, g, h]) (← basic r)
  | '\\' :: e :: r => do return cons (← shortEscape? e) (← basic r)
  | c :: r => if isPlain c then (basic r).map (cons c) else none

/-- A text in apostrophes, from behind the first. -/
def literal : List Char → Option (List Char × List Char)
  | [] => none
  | '\x27' :: r => some ([], r)
  | c :: r => if isPlain c then (literal r).map (cons c) else none

/-- A text of several lines ends at three quotes; one or two more before them belong to it. -/
def closing (quote : Char) (cs : List Char) : List Char × List Char :=
  let extra := (cs.takeWhile (· == quote)).take 2
  (extra, cs.drop extra.length)

/-- Whether a line ends here, but for blanks. -/
def endsLine (cs : List Char) : Bool :=
  match skipSpaces cs with
  | '\n' :: _ => true
  | '\r' :: '\n' :: _ => true
  | _ => false

/-- A text of several lines in double quotes, from behind the first three. A backslash at the end of
a line takes away all blanks and line ends after it; `joining` is set while it does. -/
def longBasic : Bool → List Char → Option (List Char × List Char)
  | _, [] => none
  | _, '"' :: '"' :: '"' :: r => some (closing '"' r)
  | _, '\\' :: 'u' :: a :: b :: c :: d :: r => do
    return cons (← char? [a, b, c, d]) (← longBasic false r)
  | _, '\\' :: 'U' :: a :: b :: c :: d :: e :: f :: g :: h :: r => do
    return cons (← char? [a, b, c, d, e, f, g, h]) (← longBasic false r)
  | _, '\\' :: e :: r =>
    match shortEscape? e with
    | some c => (longBasic false r).map (cons c)
    | none => if endsLine (e :: r) then longBasic true (e :: r) else none
  | joining, '\r' :: '\n' :: r =>
    if joining then longBasic true r else (longBasic false r).map (cons '\n')
  | joining, c :: r =>
    if joining && (isSpace c || c == '\n') then longBasic true r
    else if c = '\n' || isPlain c then (longBasic false r).map (cons c)
    else none

/-- A text of several lines in apostrophes, from behind the first three. -/
def longLiteral : List Char → Option (List Char × List Char)
  | [] => none
  | '\x27' :: '\x27' :: '\x27' :: r => some (closing '\x27' r)
  | '\r' :: '\n' :: r => (longLiteral r).map (cons '\n')
  | c :: r => if c = '\n' || isPlain c then (longLiteral r).map (cons c) else none

/-- A line end right behind the opening quotes does not count. -/
def skipLineEnd : List Char → List Char
  | '\n' :: r => r
  | '\r' :: '\n' :: r => r
  | cs => cs

def text? (cs : List Char) : Option (String × List Char) :=
  let chars := match cs with
    | '"' :: '"' :: '"' :: r => longBasic false (skipLineEnd r)
    | '"' :: r => basic r
    | '\x27' :: '\x27' :: '\x27' :: r => longLiteral (skipLineEnd r)
    | '\x27' :: r => literal r
    | _ => none
  chars.map fun p => (String.ofList p.1, p.2)

def isBare (c : Char) : Bool := c.isAlphanum || c == '_' || c == '-'

/-- One part of a key. -/
def part? (cs : List Char) : Option (String × List Char) :=
  let chars := match cs with
    | '"' :: r => basic r
    | '\x27' :: r => literal r
    | _ => if (cs.takeWhile isBare).isEmpty then none else some (cs.span isBare)
  chars.map fun p => (String.ofList p.1, p.2)

/-- The parts of a key, points between them and blanks around them. -/
def parts : Nat → List Char → Option (List String × List Char)
  | 0, _ => none
  | fuel + 1, cs => do
    let (k, r) ← part? (skipSpaces cs)
    match skipSpaces r with
    | '.' :: r => do
      let (ks, r) ← parts fuel r
      return (k :: ks, r)
    | r => return ([k], r)

/-- Keys lead less deep than this, and values nest less deep. -/
def depthLimit : Nat := 80

def key? (cs : List Char) : Option (List String × List Char) :=
  (parts cs.length cs).filter fun p => p.1.length < depthLimit

end Roster.Toml
