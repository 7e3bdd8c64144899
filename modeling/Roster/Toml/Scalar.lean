import Roster.Settings.Tree
import Roster.Timestamp
import Roster.Toml.Text

/-! Numbers, dates and truth values of TOML. A date is kept as its text. -/

namespace Roster.Toml

def isBinary (c : Char) : Bool := c = '0' || c = '1'

def isOctal (c : Char) : Bool := '0' ≤ c && c ≤ '7'

def isHex (c : Char) : Bool := (Hex.digit? c).isSome

/-- Underscores stand between digits only. -/
def isSpaced : List Char → Bool
  | [] => false
  | ['_'] => false
  | '_' :: _ => false
  | [_] => true
  | _ :: '_' :: r => isSpaced r
  | _ :: r => isSpaced r

/-- A run of digits, and the digits without the underscores between them. -/
def run? (isDigit : Char → Bool) (cs : List Char) : Option (List Char × List Char) :=
  let (ds, r) := cs.span fun c => isDigit c || c == '_'
  if isSpaced ds then some (ds.filter (· ≠ '_'), r) else none

/-- The number that digits spell to a base of at most sixteen. -/
def valueIn (base : Nat) (ds : List Char) : Nat :=
  ds.foldl (fun n c => base * n + (Hex.digit? c).getD 0) 0

/-- Integers have 64 bits. -/
def int? (i : Int) : Option Tree := if Word.isSigned i then some (.int i) else none

def based? (base : Nat) (isDigit : Char → Bool) (cs : List Char) : Option (Tree × List Char) := do
  let (ds, r) ← run? isDigit cs
  return (← int? (valueIn base ds), r)

/-- What lies above the range is no number; what lies below it is minus infinity. -/
def float? (negative : Bool) (significand : Nat) (exponent : Int) : Option Tree :=
  match Double.ofDecimal negative significand exponent with
  | .infinite false => none
  | x => some (.float x)

def sign? : List Char → Option Bool × List Char
  | '+' :: r => (some false, r)
  | '-' :: r => (some true, r)
  | cs => (none, cs)

/-- The digits behind a point, if there is one. -/
def fraction? : List Char → Option (List Char × List Char)
  | '.' :: r => run? Char.isDigit r
  | cs => some ([], cs)

/-- The exponent, if there is one. -/
def exponent? : List Char → Option (Option Int × List Char)
  | c :: r =>
    if c = 'e' ∨ c = 'E' then do
      let (sign, r) := sign? r
      let (ds, r) ← run? Char.isDigit r
      let n : Int := Decimal.value ds
      return (some (if sign = some true then -n else n), r)
    else some (none, c :: r)
  | [] => some (none, [])

/-- A number in decimal digits. Several digits before the point do not start with zero. -/
def decimal? (negative : Bool) (cs : List Char) : Option (Tree × List Char) := do
  let (whole, r) ← run? Char.isDigit cs
  if whole.head? = some '0' ∧ whole.length > 1 then none
  else
    let (frac, r) ← fraction? r
    let (exp, r) ← exponent? r
    let n := Decimal.value (whole ++ frac)
    if frac.isEmpty && exp.isNone then return (← int? (if negative then -n else n), r)
    else return (← float? negative n (exp.getD 0 - frac.length), r)

def number? (cs : List Char) : Option (Tree × List Char) :=
  match cs with
  | '0' :: 'x' :: r => based? 16 isHex r
  | '0' :: 'o' :: r => based? 8 isOctal r
  | '0' :: 'b' :: r => based? 2 isBinary r
  | _ =>
    let (sign, r) := sign? cs
    let negative := sign = some true
    match r with
    | 'i' :: 'n' :: 'f' :: r => some (.float (.infinite negative), r)
    | 'n' :: 'a' :: 'n' :: r => some (.float .nan, r)
    | r => decimal? negative r

/-- A number of exactly so many digits within bounds. -/
def fixed? (width low high : Nat) (cs : List Char) : Option (Nat × List Char) :=
  let ds := cs.take width
  let n := Decimal.value ds
  if ds.length = width ∧ ds.all Char.isDigit ∧ low ≤ n ∧ n ≤ high then some (n, cs.drop width)
  else none

def expect? (c : Char) : List Char → Option (List Char)
  | d :: r => if d = c then some r else none
  | [] => none

def date? (cs : List Char) : Option (List Char × List Char) := do
  let (year, r) ← fixed? 4 0 9999 cs
  let (month, r) ← fixed? 2 1 12 (← expect? '-' r)
  let (day, r) ← fixed? 2 1 (Moment.daysIn year month) (← expect? '-' r)
  return (Moment.two (year / 100) ++ Moment.two (year % 100) ++ '-' :: Moment.two month ++
    '-' :: Moment.two day, r)

/-- The fraction of a second counts to the ninth digit, and zeros at its end are left out. -/
def secondFraction : List Char → List Char × List Char
  | '.' :: r =>
    let ds := r.takeWhile Char.isDigit
    let kept := ((ds.take 9).reverse.dropWhile (· == '0')).reverse
    if ds.isEmpty then ([], '.' :: r)
    else (if kept.isEmpty then [] else '.' :: kept, r.drop ds.length)
  | cs => ([], cs)

def clock? (cs : List Char) : Option (List Char × List Char) := do
  let (hour, r) ← fixed? 2 0 23 cs
  let (minute, r) ← fixed? 2 0 59 (← expect? ':' r)
  let (second, r) ← fixed? 2 0 60 (← expect? ':' r)
  let (frac, r) := secondFraction r
  return (Moment.two hour ++ ':' :: Moment.two minute ++ ':' :: Moment.two second ++ frac, r)

/-- The distance from universal time; minus zero is written plus zero. -/
def offset? : List Char → Option (List Char × List Char)
  | 'Z' :: r => some (['Z'], r)
  | 'z' :: r => some (['Z'], r)
  | c :: r =>
    if c = '+' ∨ c = '-' then do
      let (hour, r) ← fixed? 2 0 23 r
      let (minute, r) ← fixed? 2 0 59 (← expect? ':' r)
      let sign := if hour + minute = 0 then '+' else c
      return (sign :: Moment.two hour ++ ':' :: Moment.two minute, r)
    else some ([], c :: r)
  | [] => some ([], [])

/-- A date, a time of day, or both with or without an offset. -/
def moment? (cs : List Char) : Option (List Char × List Char) :=
  match date? cs with
  | none => clock? cs
  | some (date, r) =>
    match r with
    | c :: s =>
      if c = 'T' ∨ c = 't' ∨ c = ' ' then
        match clock? s with
        | none => some (date, r)
        | some (time, s) => (offset? s).map fun p => (date ++ 'T' :: time ++ p.1, p.2)
      else some (date, r)
    | [] => some (date, r)

/-- Whether digits and the mark behind them announce a date or a time, which is then no number. -/
def announcesMoment (cs : List Char) : Bool :=
  let ds := cs.takeWhile Char.isDigit
  match cs.drop ds.length with
  | '-' :: _ => ds.length == 4
  | ':' :: _ => ds.length == 2
  | _ => false

/-- Any value that holds no other. -/
def scalar? (cs : List Char) : Option (Tree × List Char) :=
  match cs with
  | 't' :: 'r' :: 'u' :: 'e' :: r => some (.bool true, r)
  | 'f' :: 'a' :: 'l' :: 's' :: 'e' :: r => some (.bool false, r)
  | '"' :: _ => (text? cs).map fun p => (.text p.1, p.2)
  | '\x27' :: _ => (text? cs).map fun p => (.text p.1, p.2)
  | _ =>
    if announcesMoment cs then (moment? cs).map fun p => (.text (String.ofList p.1), p.2)
    else number? cs

end Roster.Toml
