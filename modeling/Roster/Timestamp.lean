import Roster.Text.Decimal

/-! Moments in universal time, to the second. A timestamp is a moment that the calendar has. -/

namespace Roster

structure Moment where
  year : Nat
  month : Nat
  day : Nat
  hour : Nat
  minute : Nat
  second : Nat
  deriving DecidableEq, Repr

namespace Moment

def isLeap (year : Nat) : Bool := year % 4 == 0 && (year % 100 != 0 || year % 400 == 0)

def daysIn (year month : Nat) : Nat :=
  match month with
  | 2 => if isLeap year then 29 else 28
  | 4 | 6 | 9 | 11 => 30
  | _ => 31

/-- A moment that the calendar has, of a year that four digits can write. -/
def isValid (t : Moment) : Bool :=
  decide (t.year < 10000 ∧ 1 ≤ t.month ∧ t.month ≤ 12 ∧ 1 ≤ t.day ∧ t.day ≤ daysIn t.year t.month ∧
    t.hour < 24 ∧ t.minute < 60 ∧ t.second < 60)

def two (n : Nat) : List Char := [Decimal.digit (n / 10), Decimal.digit (n % 10)]

def chars (t : Moment) : List Char :=
  two (t.year / 100) ++ two (t.year % 100) ++ '-' :: two t.month ++ '-' :: two t.day ++
    'T' :: two t.hour ++ ':' :: two t.minute ++ ':' :: two t.second ++ ['Z']

def number? (cs : List Char) : Option Nat :=
  if cs.all Char.isDigit then some (Decimal.value cs) else none

/-- Reads the form that `chars` writes. -/
def ofChars? : List Char → Option Moment
  | [y1, y2, y3, y4, '-', m1, m2, '-', d1, d2, 'T', h1, h2, ':', n1, n2, ':', s1, s2, 'Z'] => do
    return {
      year := ← number? [y1, y2, y3, y4]
      month := ← number? [m1, m2]
      day := ← number? [d1, d2]
      hour := ← number? [h1, h2]
      minute := ← number? [n1, n2]
      second := ← number? [s1, s2] }
  | _ => none

end Moment

abbrev Timestamp := { m : Moment // m.isValid = true }

namespace Timestamp

def text (t : Timestamp) : String := String.ofList t.val.chars

def parse? (text : String) : Option Timestamp := do
  let m ← Moment.ofChars? text.toList
  if h : m.isValid = true then some ⟨m, h⟩ else none

end Timestamp

end Roster
