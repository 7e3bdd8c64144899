import Roster.Word

/-! Decimal text of natural numbers: `digits` writes, `value` reads. -/

namespace Roster.Decimal

def digit (d : Nat) : Char := Char.ofNat (48 + d)

def digits (n : Nat) : List Char :=
  if n < 10 then [digit n] else digits (n / 10) ++ [digit (n % 10)]
termination_by n

/-- The number a run of digits stands for. -/
def value (cs : List Char) : Nat := cs.foldl (fun n c => 10 * n + (c.toNat - 48)) 0

def text (n : Nat) : String := String.ofList (digits n)

def intDigits : Int → List Char
  | .ofNat n => digits n
  | .negSucc n => '-' :: digits (n + 1)

/-- A number of at most 64 bits without sign: digits only, but for one leading plus sign. -/
def word? (cs : List Char) : Option Nat :=
  let ds := match cs with
    | '+' :: r => r
    | _ => cs
  if ds.isEmpty || !ds.all Char.isDigit || value ds ≥ Word.bound then none else some (value ds)

end Roster.Decimal
