/-!
# Binary floating-point values

A finite value of the 64-bit binary format is a signed significand times a
power of two.  A decimal numeral stands for the nearest such value, ties going
to the even significand, or for none when it is too large.
-/

namespace AppLauncher.Decimal

/-- A finite value: the significand times two to the exponent, with a sign.
Nonzero significands are below two to the 53rd and, unless the exponent is the
least one, not below two to the 52nd. -/
structure Binary64 where
  negative : Bool
  significand : Nat
  exponent : Int
deriving DecidableEq, Repr

def leastExponent : Int := -1074

def greatestExponent : Int := 971

def significandBits : Nat := 53

def roundHalfEven (numerator denominator : Nat) : Nat :=
  let quotient := numerator / denominator
  let twice := 2 * (numerator % denominator)
  if denominator < twice ∨ (twice = denominator ∧ quotient % 2 = 1) then
    quotient + 1
  else
    quotient

def scaled (numerator denominator : Nat) (exponent : Int) : Nat × Nat :=
  match exponent with
  | .ofNat n => (numerator, denominator * Nat.pow 2 n)
  | .negSucc n => (numerator * Nat.pow 2 (n + 1), denominator)

/-- The value nearest to a positive quotient; none when it is too large. -/
def nearest? (negative : Bool) (numerator denominator : Nat) : Option Binary64 :=
  let magnitude : Int := numerator.log2 - denominator.log2
  let low := max (magnitude - significandBits) leastExponent
  let (n, d) := scaled numerator denominator low
  let exponent := if Nat.pow 2 significandBits ≤ n / d then low + 1 else low
  let (n, d) := scaled numerator denominator exponent
  let rounded := roundHalfEven n d
  let (significand, exponent) :=
    if rounded = Nat.pow 2 significandBits then
      (Nat.pow 2 (significandBits - 1), exponent + 1)
    else (rounded, exponent)
  if greatestExponent < exponent then none
  else some { negative, significand, exponent }

structure Numeral where
  negative : Bool
  digits : Nat
  exponent : Int
deriving DecidableEq, Repr

/-- Powers of ten beyond this bound are out of reach of the format, and so far
beyond that a magnitude need not be known exactly. -/
def reach : Int := 400

/-- The magnitude of a numeral: about how many digits its whole part has, or how
many zeros its fraction begins with, counted below zero.  The number of bits is
multiplied by the logarithm of two. -/
def Numeral.magnitude (numeral : Numeral) : Int :=
  numeral.digits.log2 * 30103 / 100000 + 1 + numeral.exponent

def Numeral.value? (numeral : Numeral) : Option Binary64 :=
  let zero : Binary64 := ⟨numeral.negative, 0, leastExponent⟩
  if numeral.digits = 0 ∨ numeral.magnitude < -reach then
    some zero
  else if reach < numeral.magnitude then
    none
  else
    match numeral.exponent with
    | .ofNat n => nearest? numeral.negative (numeral.digits * Nat.pow 10 n) 1
    | .negSucc n => nearest? numeral.negative numeral.digits (Nat.pow 10 (n + 1))

end AppLauncher.Decimal
