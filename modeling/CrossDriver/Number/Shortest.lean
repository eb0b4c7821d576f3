import CrossDriver.Number.Binary64

/-!
# Shortest decimals

The decimal with the fewest digits that reads back as a given number of double precision, and of
those the one nearest to it.

Every decimal of `n` digits between the midpoints to the neighbouring numbers reads back; if there
is one, so does one of the two that enclose the number on the grid of `n` digits. The search
therefore tests those two for one digit, two digits, and so on; seventeen always suffice.
-/

namespace CrossDriver.Number

structure Decimal where
  digits : Nat
  exponent : Int
  deriving DecidableEq, Repr

namespace Shortest

/-- The numbers that round to `coefficient · 2 ^ exponent`, in quarters of `2 ^ exponent`; the
ends belong to it where the coefficient is even. -/
structure Interval where
  low : Nat
  high : Nat
  exponent : Int
  closed : Bool

def interval (coefficient : Nat) (exponent : Int) : Interval where
  low :=
    if coefficient = Nat.pow 2 (Binary64.precision - 1) ∧ Binary64.minExponent < exponent
    then 4 * coefficient - 1 else 4 * coefficient - 2
  high := 4 * coefficient + 2
  exponent := exponent - 2
  closed := coefficient % 2 = 0

def Interval.holds (i : Interval) (d : Decimal) : Bool :=
  let (point, unit) := scaleBy 10 d.exponent d.digits 1
  let (point, unit) := scaleBy 2 (-i.exponent) point unit
  if i.closed then i.low * unit ≤ point && point ≤ i.high * unit
  else i.low * unit < point && point < i.high * unit

def leadingExponent (num den : Nat) : Int :=
  let guess := ((Nat.toDigits 10 num).length : Int) - (Nat.toDigits 10 den).length
  let (power, unit) := scaleBy 10 guess 1 1
  if power * den ≤ num * unit then guess else guess - 1

def trimZeros : (fuel : Nat) → Decimal → Decimal
  | 0, d => d
  | fuel + 1, d =>
    if d.digits % 10 = 0 then trimZeros fuel ⟨d.digits / 10, d.exponent + 1⟩ else d

def search (i : Interval) (num den : Nat) (leading : Int) : (fuel count : Nat) → Decimal
  | 0, count => ⟨(scaleBy 10 (count - 1 - leading) num den).1 /
      (scaleBy 10 (count - 1 - leading) num den).2, leading - count + 1⟩
  | fuel + 1, count =>
    let grid := leading - count + 1
    let (point, unit) := scaleBy 10 (-grid) num den
    let below : Decimal := ⟨point / unit, grid⟩
    let above : Decimal := ⟨point / unit + 1, grid⟩
    let twice := 2 * (point % unit)
    match i.holds below, i.holds above with
    | true, true =>
      if twice < unit ∨ twice = unit ∧ below.digits % 2 = 0 then below else above
    | true, false => below
    | false, true => above
    | false, false => search i num den leading fuel (count + 1)

/-- The shortest decimal that reads back as `coefficient · 2 ^ exponent`. -/
def decimal (coefficient : Nat) (exponent : Int) : Decimal :=
  if coefficient = 0 then ⟨0, 0⟩
  else
    let (num, den) := scaleBy 2 exponent coefficient 1
    let found := search (interval coefficient exponent) num den (leadingExponent num den) 17 1
    trimZeros 20 found

end Shortest

end CrossDriver.Number
