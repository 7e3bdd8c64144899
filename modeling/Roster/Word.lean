/-! Bounds of integers of 64 bits. -/

namespace Roster.Word

/-- Two to the power of 64: words without a sign are below it. -/
def bound : Nat := 0x10000000000000000

/-- Two to the power of 63: words with a sign reach down to its negative, and up to below it. -/
def half : Nat := 0x8000000000000000

def isSigned (i : Int) : Bool := decide (-(half : Int) ≤ i ∧ i < half)

end Roster.Word
