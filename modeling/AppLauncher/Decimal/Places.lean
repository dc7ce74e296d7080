import AppLauncher.Decimal.Binary64

/-!
# Decimal text with a given number of places

A floating-point value is written with so many digits after the point, either
positionally or with a power of ten.  What is cut off is rounded to nearest, a
half to the even digit.
-/

namespace AppLauncher.Decimal

def withPoint (places : Nat) (digits : List Char) : List Char :=
  let digits := List.replicate (places + 1 - digits.length) '0' ++ digits
  let whole := digits.take (digits.length - places)
  if places = 0 then whole else whole ++ '.' :: digits.drop whole.length

namespace Binary64

def quotient (value : Binary64) : Nat × Nat :=
  match value.exponent with
  | .ofNat n => (value.significand * Nat.pow 2 n, 1)
  | .negSucc n => (value.significand, Nat.pow 2 (n + 1))

def fixed (value : Binary64) (places : Nat) : List Char :=
  let (n, d) := value.quotient
  withPoint places (Nat.toDigits 10 (roundHalfEven (n * Nat.pow 10 places) d))

def overPowerOfTen (n d : Nat) : Int → Nat × Nat
  | .ofNat e => (n, d * Nat.pow 10 e)
  | .negSucc e => (n * Nat.pow 10 (e + 1), d)

/-- The greatest power of ten that is not above a magnitude, from a first guess
upwards; zero for the value zero. -/
def magnitudeFrom (n d : Nat) : (fuel : Nat) → Int → Int
  | 0, guess => guess
  | fuel + 1, guess =>
    let (n', d') := overPowerOfTen n d (guess + 1)
    if d' ≤ n' then magnitudeFrom n d fuel (guess + 1) else guess

def magnitude (value : Binary64) : Int :=
  if value.significand = 0 then 0
  else
    let (n, d) := value.quotient
    magnitudeFrom n d 800 (-400)

def scientificDigits (value : Binary64) (places : Nat) : List Char × Int :=
  let (n, d) := value.quotient
  let e := value.magnitude
  let (n, d) := overPowerOfTen (n * Nat.pow 10 places) d e
  let rounded := roundHalfEven n d
  if Nat.pow 10 (places + 1) ≤ rounded then (Nat.toDigits 10 (rounded / 10), e + 1)
  else (Nat.toDigits 10 rounded, e)

def exponentText (e : Int) : List Char :=
  let digits := Nat.toDigits 10 e.natAbs
  (if e < 0 then '-' else '+') :: List.replicate (2 - digits.length) '0' ++ digits

def scientific (value : Binary64) (places : Nat) : List Char :=
  let (digits, e) := value.scientificDigits places
  withPoint places digits ++ 'e' :: exponentText e

def withoutZeros (digits : List Char) : List Char :=
  if digits.contains '.' then
    let kept := (digits.reverse.dropWhile (· == '0')).reverse
    if kept.getLast? = some '.' then kept.dropLast else kept
  else
    digits

def general (value : Binary64) (count : Nat) : List Char :=
  let count := if count = 0 then 1 else count
  let (digits, e) := value.scientificDigits (count - 1)
  if -4 ≤ e ∧ e < count then
    withoutZeros (value.fixed (((count : Int) - 1 - e).toNat))
  else
    withoutZeros (withPoint (count - 1) digits) ++ 'e' :: exponentText e

end Binary64

end AppLauncher.Decimal
