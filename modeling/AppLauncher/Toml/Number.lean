import AppLauncher.Toml.Lexical
import AppLauncher.Toml.Value

/-!
# Numbers

Whole numbers are written in decimal with an optional sign, or without a sign
in base sixteen, eight or two after a marker.  Floats have a fraction, an
exponent, or both.  Underscores may separate digits, and no decimal number
but zero itself begins with a zero.

Two forms are well written though they have no value: a marker of a base
without digits, and a decimal number with an underscore after its first digits
and anything else further on.
-/

namespace AppLauncher.Toml.Number

/-- Whether every underscore stands right before a digit and right after one.
`joined` tells whether the text before counts as a digit. -/
def isGrouped (isDigit : Char → Bool) : (joined : Bool) → List Char → Bool
  | _, [] => true
  | joined, c :: rest =>
    if c == '_' then joined && rest.head?.any isDigit && isGrouped isDigit false rest
    else isGrouped isDigit (isDigit c) rest

def ungrouped (text : List Char) : List Char :=
  text.filter (· != '_')

def valueAfter (base : Nat) (value : Nat) (digits : List Char) : Nat :=
  digits.foldl (fun value c => value * base + digitValue c) value

theorem valueAfter_eq (base value : Nat) (digits : List Char) :
    valueAfter base value digits =
      value * Nat.pow base digits.length + valueAfter base 0 digits := by
  induction digits generalizing value with
  | nil => simp [valueAfter]
  | cons c rest ih =>
    have step (v : Nat) :
        valueAfter base v (c :: rest) = valueAfter base (v * base + digitValue c) rest := rfl
    rw [step, step, ih, ih (0 * base + digitValue c), List.length_cons]
    have := Nat.pow_succ (n := base) (m := rest.length)
    simp only [Nat.pow_eq] at this ⊢
    rw [this]
    grind

def digitsAtOnce : Nat := 64

/-- Digits as a number in a base.  A long row of them is read by halves. -/
def valueOf (base : Nat) (digits : List Char) : Nat :=
  if digits.length ≤ digitsAtOnce then
    valueAfter base 0 digits
  else
    let half := digits.length / 2
    valueOf base (digits.take half) * Nat.pow base (digits.length - half)
      + valueOf base (digits.drop half)
termination_by digits.length
decreasing_by
  all_goals
    simp only [digitsAtOnce, List.length_take, List.length_drop] at *
    omega

theorem valueOf_eq_valueAfter (base : Nat) (digits : List Char) :
    valueOf base digits = valueAfter base 0 digits := by
  fun_induction valueOf base digits with
  | case1 => rfl
  | case2 digits _ half first second =>
    rw [first, second]
    conv => rhs; rw [← List.take_append_drop half digits]
    rw [show valueAfter base 0 (digits.take half ++ digits.drop half) =
      valueAfter base (valueAfter base 0 (digits.take half)) (digits.drop half) from
        List.foldl_append, valueAfter_eq base (valueAfter base 0 (digits.take half))]
    simp

def splitSign : List Char → Option Char × List Char
  | c :: rest => if c == '-' || c == '+' then (some c, rest) else (none, c :: rest)
  | [] => (none, [])

def signed (sign : Option Char) (value : Nat) : Int :=
  if sign = some '-' then -(value : Int) else value

def isDigitBelow (base : Nat) (c : Char) : Bool :=
  c.isDigit && digitValue c < base

def based? (base : Nat) (isDigit : Char → Bool) (text : List Char) : Option (Option Int) :=
  if text.all (fun c => isDigit c || c == '_') ∧ isGrouped isHexDigit false text then
    some (if text = [] then none else some (valueOf base (ungrouped text)))
  else
    none

/-- Whether a decimal number after its sign begins with a zero before other
digits. -/
def isPadded (text : List Char) : Bool :=
  text.head? == some '0' && 1 < (ungrouped text).length

/-- The digits of a decimal number after its sign.  With an underscore after
the first digits the rest is not looked at but for its underscores. -/
def decimal? (sign : Option Char) (text : List Char) : Option (Option Int) :=
  let tail := text.dropWhile Char.isDigit
  if isPadded text ∨ text = [] then
    none
  else if tail.all (fun c => c.isDigit || c == '_') then
    if isGrouped isHexDigit sign.isSome text then
      some (some (signed sign (valueOf 10 (ungrouped text))))
    else
      none
  else if tail.head? = some '_' ∧ !tail.any (fun c => c == '.' || c == 'e' || c == 'E')
      ∧ isGrouped isHexDigit sign.isSome text then
    some none
  else
    none

def integer? (text : List Char) : Option (Option Int) :=
  match text with
  | '0' :: 'x' :: digits => based? 16 isHexDigit digits
  | '0' :: 'o' :: digits => based? 8 (isDigitBelow 8) digits
  | '0' :: 'b' :: digits => based? 2 (isDigitBelow 2) digits
  | _ =>
    let (sign, rest) := splitSign text
    decimal? sign rest

def splitAt? (p : Char → Bool) (text : List Char) : Option (List Char × List Char) :=
  match text.dropWhile (!p ·) with
  | _ :: after => some (text.takeWhile (!p ·), after)
  | [] => none

def digits? (text : List Char) : Option (List Char) :=
  let digits := ungrouped text
  if digits ≠ [] ∧ digits.all Char.isDigit then some digits else none

/-- An exponent: an optional sign and digits, leading zeros allowed. -/
def exponent? (text : List Char) : Option Int :=
  let (sign, rest) := splitSign text
  (digits? rest).map (signed sign <| valueOf 10 ·)

def pointed? (text : List Char) : Option (List Char × Nat) :=
  match splitAt? (· == '.') text with
  | none => if isPadded text then none else (digits? text).map (·, 0)
  | some (whole, fraction) =>
    if isPadded whole then
      none
    else do
      let whole ← digits? whole
      let fraction ← digits? fraction
      some (whole ++ fraction, fraction.length)

def numeral? (text : List Char) : Option Decimal.Numeral :=
  let (sign, rest) := splitSign text
  if !isGrouped Char.isDigit sign.isSome rest then
    none
  else
    match splitAt? (fun c => c == 'e' || c == 'E') rest with
    | some (mantissa, exponent) => do
      let (digits, places) ← pointed? mantissa
      let exponent ← exponent? exponent
      some ⟨sign == some '-', valueOf 10 digits, exponent - places⟩
    | none =>
      if rest.contains '.' then do
        let (digits, places) ← pointed? rest
        some ⟨sign == some '-', valueOf 10 digits, -(places : Int)⟩
      else
        none

def float? (text : List Char) : Option FloatLiteral :=
  let (sign, rest) := splitSign text
  if rest = ['i', 'n', 'f'] then some (.infinity (sign == some '-'))
  else if rest = ['n', 'a', 'n'] then some .notANumber
  else (numeral? text).map .numeral

end AppLauncher.Toml.Number
