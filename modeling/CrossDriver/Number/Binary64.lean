namespace CrossDriver.Number

/-- A number of double precision; a finite one is `± coefficient · 2 ^ exponent`. -/
inductive Binary64 where
  | finite (negative : Bool) (coefficient : Nat) (exponent : Int)
  | infinite (negative : Bool)
  | nan
  deriving DecidableEq, Repr

def roundDiv (num den : Nat) : Nat :=
  let quotient := num / den
  let twice := 2 * (num % den)
  if twice < den then quotient
  else if den < twice then quotient + 1
  else quotient + quotient % 2

def scaleBy (base : Nat) (exponent : Int) (num den : Nat) : Nat × Nat :=
  match exponent with
  | .ofNat n => (num * Nat.pow base n, den)
  | .negSucc n => (num, den * Nat.pow base (n + 1))

namespace Binary64

def minExponent : Int := -1074

def maxExponent : Int := 971

def precision : Nat := 53

def ofFraction (negative : Bool) (num den : Nat) : Binary64 :=
  let magnitude := (num.log2 : Int) - den.log2
  let low := max (magnitude - precision) minExponent
  let atLow := scaleBy 2 (-low) num den
  let exponent := if atLow.1 / atLow.2 < Nat.pow 2 precision then low else low + 1
  let scaled := scaleBy 2 (-exponent) num den
  let coefficient := roundDiv scaled.1 scaled.2
  let (coefficient, exponent) :=
    if coefficient = Nat.pow 2 precision then (Nat.pow 2 (precision - 1), exponent + 1)
    else (coefficient, exponent)
  if maxExponent < exponent then .infinite negative else .finite negative coefficient exponent

/-- The number nearest to `± digits · 10 ^ exponent`, where `digits` has at most `count` decimal
digits. Magnitudes beyond every finite number, or below half of the least, are decided by
their size alone. -/
def ofDecimal (negative : Bool) (digits count : Nat) (exponent : Int) : Binary64 :=
  if digits = 0 then .finite negative 0 minExponent
  else if 310 < exponent then .infinite negative
  else if count + exponent < -330 then .finite negative 0 minExponent
  else
    let scaled := scaleBy 10 exponent digits 1
    ofFraction negative scaled.1 scaled.2

end Binary64

end CrossDriver.Number
