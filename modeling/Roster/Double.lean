import Roster.Text.Decimal
import Roster.Word

/-! Binary floating point numbers of 64 bits: rounding a decimal fraction to the nearest of them,
to a whole number, and to the shortest text that is nearer to it than to any other. All of it is
exact arithmetic on significand and exponent. -/

namespace Roster

inductive Double
  | nan
  | infinite (negative : Bool)
  /-- The significand times a power of two. -/
  | finite (negative : Bool) (significand : Nat) (exponent : Int)
  deriving DecidableEq, Repr

namespace Double

/-- The exponent of the numbers next to zero. -/
def least : Int := -1074

/-- Two to the power of 52: significands are below its double, and only next to zero below it. -/
def hidden : Nat := 0x10000000000000

/-- The greatest exponent. -/
def greatest : Int := 971

/-- A ratio times a power of some base, as a ratio. -/
def scale (base num den : Nat) (exponent : Int) : Nat × Nat :=
  (num * base.pow exponent.toNat, den * base.pow (-exponent).toNat)

/-- The largest power of two that is no greater than a ratio. -/
def magnitude (num den : Nat) : Int :=
  let k : Int := num.log2 - den.log2
  let (a, b) := scale 2 num den (-k)
  if a < b then k - 1 else k

/-- A ratio as a whole number; the half goes to the even neighbour. -/
def roundEven (num den : Nat) : Nat :=
  let q := num / den
  let r := 2 * (num % den)
  if r > den ∨ (r = den ∧ q % 2 = 1) then q + 1 else q

/-- The number nearest to a ratio. -/
def nearest (negative : Bool) (num den : Nat) : Double :=
  if num = 0 then finite negative 0 least
  else
    let e := max (magnitude num den - 52) least
    let (a, b) := scale 2 num den (-e)
    let m := roundEven a b
    let (m, e) := if m = 2 * hidden then (hidden, e + 1) else (m, e)
    if e > greatest then infinite negative else finite negative m e

/-- The number nearest to a decimal fraction. What lies beyond the range by orders of magnitude is
settled without working out the power of ten. -/
def ofDecimal (negative : Bool) (significand : Nat) (exponent : Int) : Double :=
  let size := (Decimal.digits significand).length + exponent
  if significand = 0 ∨ size < -330 then finite negative 0 least
  else if size > 310 then infinite negative
  else
    let (a, b) := scale 10 significand 1 exponent
    nearest negative a b

/-- The size of a finite number as a ratio. -/
def ratio (significand : Nat) (exponent : Int) : Nat × Nat := scale 2 significand 1 exponent

/-- A number times or divided by a power of ten, which is itself rounded. -/
def timesTen (x : Double) (power : Int) : Double :=
  match x, ofDecimal false 1 power.natAbs with
  | finite s m e, finite _ m' e' =>
    let (a, b) := ratio m e
    let (c, d) := ratio m' e'
    if power ≥ 0 then nearest s (a * c) (b * d) else nearest s (a * d) (b * c)
  | finite s m e, _ =>
    if m = 0 ∨ power < 0 then finite s 0 e else infinite s
  | x, _ => x

/-- The nearest whole number of 64 bits without sign; a half goes away from zero. -/
def toWord : Double → Nat
  | nan => 0
  | infinite negative => if negative then 0 else Word.bound - 1
  | finite negative m e =>
    let (a, b) := ratio m e
    if negative then 0 else min ((2 * a + b) / (2 * b)) (Word.bound - 1)

/-- The multiple of a power of ten that is nearest to a positive number, if it lies among the
ratios that are rounded to that number. Those reach halfway to its neighbours, the halves belonging
to even significands; below a power of two the neighbour is half as far. -/
def onGrid? (m : Nat) (e power : Int) : Option Nat :=
  let (a, b) := scale 2 1 1 (e - 2)
  let (a, b) := scale 10 a b (-power)
  let low := if m = hidden ∧ e > least then 4 * m - 1 else 4 * m - 2
  let high := 4 * m + 2
  let inside (c : Nat) : Bool :=
    if m % 2 = 0 then decide (low * a ≤ c * b ∧ c * b ≤ high * a)
    else decide (low * a < c * b ∧ c * b < high * a)
  let c := 4 * m * a / b
  let r := 4 * m * a % b
  let (first, second) := if 2 * r < b then (c, c + 1) else (c + 1, c)
  if inside first then some first else if inside second then some second else none

/-- The coarsest decimal grid that has such a multiple, with the multiple. -/
def shortest (m : Nat) (e : Int) : Nat × Int :=
  let powers := (List.range 660).map fun (i : Nat) => (310 : Int) - i
  (powers.findSome? fun p => (onGrid? m e p).map fun c => (c, p)).getD (0, 0)

/-- A decimal fraction without an exponent. -/
def positional (significand : Nat) (power : Int) : List Char :=
  let ds := Decimal.digits significand
  if power ≥ 0 then ds ++ List.replicate power.toNat '0'
  else
    let places := (-power).toNat
    let ds := List.replicate (places + 1 - ds.length) '0' ++ ds
    ds.take (ds.length - places) ++ '.' :: ds.drop (ds.length - places)

def signed (negative : Bool) (cs : List Char) : String :=
  String.ofList (if negative then '-' :: cs else cs)

def text : Double → String
  | nan => "NaN"
  | infinite negative => signed negative "inf".toList
  | finite negative 0 _ => signed negative ['0']
  | finite negative m e =>
    let (c, p) := shortest m e
    signed negative (positional c p)

end Double

end Roster
