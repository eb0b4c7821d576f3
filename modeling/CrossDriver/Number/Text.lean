import CrossDriver.Number.Shortest

namespace CrossDriver.Number

def digitsOf (n : Nat) : List Char :=
  Nat.toDigits 10 n

def positional (digits : List Char) (point : Int) : List Char :=
  if point ≤ 0 then '0' :: '.' :: List.replicate (-point).toNat '0' ++ digits
  else
    let whole := digits.take point.toNat
    let fraction := digits.drop point.toNat
    whole ++ List.replicate (point.toNat - digits.length) '0' ++
      '.' :: (if fraction.isEmpty then ['0'] else fraction)

def scientific (digits : List Char) (exponent : Int) : List Char :=
  let sign := if exponent < 0 then '-' else '+'
  let power := digitsOf exponent.natAbs
  let power := if power.length < 2 then '0' :: power else power
  let fraction := digits.drop 1
  digits.take 1 ++ (if fraction.isEmpty then [] else '.' :: fraction) ++ 'e' :: sign :: power

def Decimal.chars (d : Decimal) : List Char :=
  let digits := digitsOf d.digits
  let point := d.exponent + digits.length
  if -4 < point ∧ point ≤ 16 then positional digits point
  else scientific digits (point - 1)

def Binary64.text : Binary64 → String
  | .finite negative coefficient exponent =>
    String.ofList ((if negative then ['-'] else []) ++ (Shortest.decimal coefficient exponent).chars)
  | .infinite negative => if negative then "-inf" else "inf"
  | .nan => "nan"

end CrossDriver.Number
