import AppLauncher.Decimal.Binary64

/-!
# Shortest decimal text

A floating-point value is written with the fewest significant digits that read
back as the same value, and among those with the digits nearest to it.  The
digits are placed positionally, however large or small the value is.
-/

namespace AppLauncher.Decimal

def quotientLe (a b c d : Nat) : Bool := a * d ≤ c * b

/-- Digits and the place of the point: the value of `digits` read as a fraction
below one, times ten to `point`. -/
structure Placed where
  digits : List Char
  point : Int
deriving DecidableEq, Repr

namespace Binary64

def units (value : Binary64) (count : Nat) : Nat × Nat :=
  match value.exponent with
  | .ofNat n => (count * Nat.pow 2 n, 4)
  | .negSucc n => (count, 4 * Nat.pow 2 (n + 1))

/-- The lower end, in quarters of a unit, of the numbers that round to a value.
Below a power of two the neighbours are half as far apart. -/
def lowerQuarter (value : Binary64) : Nat :=
  if value.significand = Nat.pow 2 (significandBits - 1) ∧ leastExponent < value.exponent then
    4 * value.significand - 1
  else
    4 * value.significand - 2

def upperQuarter (value : Binary64) : Nat :=
  4 * value.significand + 2

/-- Whether a quotient rounds to a value.  The ends belong to it when its
significand is even. -/
def covers (value : Binary64) (numerator denominator : Nat) : Bool :=
  let (lowN, lowD) := value.units value.lowerQuarter
  let (highN, highD) := value.units value.upperQuarter
  if value.significand % 2 = 0 then
    quotientLe lowN lowD numerator denominator
      && quotientLe numerator denominator highN highD
  else
    !quotientLe numerator denominator lowN lowD
      && !quotientLe highN highD numerator denominator

def decimalPoint (value : Binary64) : Int :=
  let (n, d) := value.units (4 * value.significand)
  if d ≤ n then (toString (n / d)).length
  else
    -- the first power that brings the value to one or above, counted down
    let quotient := d / n
    let guess : Nat := (toString quotient).length
    if quotientLe d n (Nat.pow 10 (guess - 1)) 1 then 1 - (guess - 1 : Int) else 1 - (guess : Int)

/-- The value on the grid of `count` digits, rounded down, with what the grid's
unit is as a quotient. -/
def onGrid (value : Binary64) (count : Nat) : Nat × Nat × Nat :=
  let (n, d) := value.units (4 * value.significand)
  match value.decimalPoint - count with
  | .ofNat k => (n / (d * Nat.pow 10 k), Nat.pow 10 k, 1)
  | .negSucc k => (n * Nat.pow 10 (k + 1) / d, 1, Nat.pow 10 (k + 1))

/-- The digits of a value on a grid, if one of its two neighbours there rounds
back to it.  Of two that do the nearer is taken, and halfway the greater. -/
def digitsOnGrid? (value : Binary64) (count : Nat) : Option Nat :=
  let (low, unitN, unitD) := value.onGrid count
  let (n, d) := value.units (4 * value.significand)
  let lowFits := value.covers (low * unitN) unitD
  let highFits := value.covers ((low + 1) * unitN) unitD
  -- twice the value against the sum of the neighbours
  let nearerLow := !quotientLe ((2 * low + 1) * unitN) unitD (2 * n) d
  if lowFits && (nearerLow || !highFits) then some low
  else if highFits then some (low + 1)
  else none

def shortest (value : Binary64) : Placed :=
  match ((List.range 17).map (· + 1)).findSome? fun count =>
      (value.digitsOnGrid? count).map fun digits => (digits, count) with
  | some (digits, count) =>
    let text := (toString digits).toList
    { digits := (text.reverse.dropWhile (· == '0')).reverse
      point := value.decimalPoint + ((text.length : Int) - count) }
  | none => { digits := ['0'], point := 1 }

/-- Digits placed around a point, with at least one digit on either side. -/
def positional (placed : Placed) : String :=
  let digits := placed.digits
  match placed.point with
  | .ofNat 0 => String.ofList ('0' :: '.' :: digits)
  | .ofNat n =>
    if digits.length ≤ n then
      String.ofList (digits ++ List.replicate (n - digits.length) '0' ++ ['.', '0'])
    else
      String.ofList (digits.take n ++ '.' :: digits.drop n)
  | .negSucc n =>
    String.ofList ('0' :: '.' :: List.replicate (n + 1) '0' ++ digits)

def text (value : Binary64) : String :=
  (if value.negative then "-" else "")
    ++ (if value.significand = 0 then "0.0" else positional value.shortest)

end Binary64

end AppLauncher.Decimal
