import AppLauncher.Shell.Regex
import AppLauncher.Tools.Sorting

/-!
# Calculation

The operands are an expression, one sign in each.  Its values are texts, which
count as numbers where they are written like one.
-/

namespace AppLauncher.Tools.Calculation

open Shell

/-- The number that a value is written like. -/
def number? (value : Text) : Option Int :=
  match value with
  | '-' :: digits =>
    if digits ≠ [] ∧ digits.all Char.isDigit then some (-(Word.number digits : Int)) else none
  | digits =>
    if digits ≠ [] ∧ digits.all Char.isDigit then some (Word.number digits) else none

/-- Whether a value counts as nothing: an empty text, or zero however written. -/
def isNull (value : Text) : Bool :=
  match value with
  | [] => true
  | '-' :: digits => digits ≠ [] && digits.all (· == '0')
  | digits => digits.all (· == '0')

def ofInt (n : Int) : Text :=
  (toString n).toList

def ofBool (b : Bool) : Text :=
  if b then ['1'] else ['0']

/-- Two values compared, as numbers if both are written like one. -/
def compareValues (a b : Text) : Ordering :=
  match number? a, number? b with
  | some m, some n => compare m n
  | _, _ => compareTexts a b

def comparison? (sign : Text) : Option (Ordering → Bool) :=
  match String.ofList sign with
  | "<" => some (· == .lt)
  | "<=" => some (· != .gt)
  | "=" | "==" => some (· == .eq)
  | "!=" => some (· != .eq)
  | ">=" => some (· != .lt)
  | ">" => some (· == .gt)
  | _ => none

def combine? (sign : Char) (a b : Int) : Option Int :=
  match sign with
  | '+' => some (a + b)
  | '-' => some (a - b)
  | '*' => some (a * b)
  | '/' => if b = 0 then none else some (a.tdiv b)
  | _ => if b = 0 then none else some (a.tmod b)

/-- What a text gives when it is matched from its start: the text of the first
group, or the number of characters where the expression has no group. -/
def matchStart? (subject pattern : Text) : Option Text :=
  (Regex.read? .basic pattern).map fun regex =>
    let subject : Regex.Subject := { text := subject.toArray }
    let grouped := regex.groupCount ≠ 0
    match Regex.matchAt? regex subject 0 with
    | some found =>
      if grouped then found.group subject 1 else Text.ofNat (found.last - found.first)
    | none => if grouped then [] else ['0']

/-- The place of the first character of a text that is among some, counted from
one. -/
def indexOf (text characters : Text) : Nat :=
  match text.findIdx? characters.contains with
  | some place => place + 1
  | none => 0

abbrev Reading := Option (Text × List Text)

/-- The value of numbers joined by a sign, unless the value does not matter. -/
def arithmetic? (counts : Bool) (sign : Char) (a b : Text) : Option Text :=
  if !counts then some ['0']
  else
    match number? a, number? b with
    | some m, some n => (combine? sign m n).map ofInt
    | _, _ => none

mutual

def readEither : (fuel : Nat) → (counts : Bool) → List Text → Reading
  | 0, _, _ => none
  | fuel + 1, counts, operands =>
    (readBoth fuel counts operands).bind fun (first, rest) => eitherTail fuel counts first rest

def eitherTail : (fuel : Nat) → Bool → Text → List Text → Reading
  | 0, _, _, _ => none
  | fuel + 1, counts, first, operands =>
    match operands with
    | ['|'] :: rest =>
      (readBoth fuel (counts && isNull first) rest).bind fun (second, rest) =>
        let value := if !isNull first then first else if isNull second then ['0'] else second
        eitherTail fuel counts value rest
    | operands => some (first, operands)

def readBoth : (fuel : Nat) → (counts : Bool) → List Text → Reading
  | 0, _, _ => none
  | fuel + 1, counts, operands =>
    (readComparison fuel counts operands).bind fun (first, rest) =>
      bothTail fuel counts first rest

def bothTail : (fuel : Nat) → Bool → Text → List Text → Reading
  | 0, _, _, _ => none
  | fuel + 1, counts, first, operands =>
    match operands with
    | ['&'] :: rest =>
      (readComparison fuel (counts && !isNull first) rest).bind fun (second, rest) =>
        bothTail fuel counts (if isNull first || isNull second then ['0'] else first) rest
    | operands => some (first, operands)

def readComparison : (fuel : Nat) → (counts : Bool) → List Text → Reading
  | 0, _, _ => none
  | fuel + 1, counts, operands =>
    (readSum fuel counts operands).bind fun (first, rest) =>
      comparisonTail fuel counts first rest

def comparisonTail : (fuel : Nat) → Bool → Text → List Text → Reading
  | 0, _, _, _ => none
  | fuel + 1, counts, first, operands =>
    match operands with
    | sign :: rest =>
      match comparison? sign with
      | some holds =>
        (readSum fuel counts rest).bind fun (second, rest) =>
          comparisonTail fuel counts (ofBool (holds (compareValues first second))) rest
      | none => some (first, sign :: rest)
    | [] => some (first, [])

def readSum : (fuel : Nat) → (counts : Bool) → List Text → Reading
  | 0, _, _ => none
  | fuel + 1, counts, operands =>
    (readProduct fuel counts operands).bind fun (first, rest) => sumTail fuel counts first rest

def sumTail : (fuel : Nat) → Bool → Text → List Text → Reading
  | 0, _, _, _ => none
  | fuel + 1, counts, first, operands =>
    match operands with
    | [sign] :: rest =>
      if sign = '+' ∨ sign = '-' then
        (readProduct fuel counts rest).bind fun (second, rest) =>
          (arithmetic? counts sign first second).bind (sumTail fuel counts · rest)
      else
        some (first, [sign] :: rest)
    | operands => some (first, operands)

def readProduct : (fuel : Nat) → (counts : Bool) → List Text → Reading
  | 0, _, _ => none
  | fuel + 1, counts, operands =>
    (readMatch fuel counts operands).bind fun (first, rest) => productTail fuel counts first rest

def productTail : (fuel : Nat) → Bool → Text → List Text → Reading
  | 0, _, _, _ => none
  | fuel + 1, counts, first, operands =>
    match operands with
    | [sign] :: rest =>
      if sign = '*' ∨ sign = '/' ∨ sign = '%' then
        (readMatch fuel counts rest).bind fun (second, rest) =>
          (arithmetic? counts sign first second).bind (productTail fuel counts · rest)
      else
        some (first, [sign] :: rest)
    | operands => some (first, operands)

def readMatch : (fuel : Nat) → (counts : Bool) → List Text → Reading
  | 0, _, _ => none
  | fuel + 1, counts, operands =>
    (readPrimary fuel counts operands).bind fun (first, rest) => matchTail fuel counts first rest

def matchTail : (fuel : Nat) → Bool → Text → List Text → Reading
  | 0, _, _, _ => none
  | fuel + 1, counts, first, operands =>
    match operands with
    | [':'] :: rest =>
      (readPrimary fuel counts rest).bind fun (pattern, rest) =>
        (matchStart? first pattern).bind (matchTail fuel counts · rest)
    | operands => some (first, operands)

def readPrimary : (fuel : Nat) → (counts : Bool) → List Text → Reading
  | 0, _, _ => none
  | fuel + 1, counts, operands =>
    match operands with
    | [] => none
    | ['+'] :: value :: rest => some (value, rest)
    | ['('] :: rest =>
      match readEither fuel counts rest with
      | some (value, [')'] :: rest) => some (value, rest)
      | _ => none
    | [')'] :: _ => none
    | word :: rest =>
      match String.ofList word, rest with
      | "length", _ :: _ =>
        (readPrimary fuel counts rest).map fun (text, rest) => (Text.ofNat text.length, rest)
      | "match", _ :: _ =>
        (readPrimary fuel counts rest).bind fun (text, rest) =>
          (readPrimary fuel counts rest).bind fun (pattern, rest) =>
            (matchStart? text pattern).map (·, rest)
      | "index", _ :: _ =>
        (readPrimary fuel counts rest).bind fun (text, rest) =>
          (readPrimary fuel counts rest).map fun (characters, rest) =>
            (Text.ofNat (indexOf text characters), rest)
      | "substr", _ :: _ =>
        (readPrimary fuel counts rest).bind fun (text, rest) =>
          (readPrimary fuel counts rest).bind fun (place, rest) =>
            (readPrimary fuel counts rest).map fun (count, rest) =>
              match number? place, number? count with
              | some first, some count =>
                if first ≤ 0 ∨ count ≤ 0 then ([], rest)
                else ((text.drop (first.toNat - 1)).take count.toNat, rest)
              | _, _ => ([], rest)
      | _, _ => some (word, rest)

end

def calculate (operands : List Text) : Run Nat := do
  let operands := if operands.head? = some ['-', '-'] then operands.tail else operands
  match readEither (12 * operands.length + 24) true operands with
  | some (value, []) =>
    say (value ++ ['\n'])
    return if isNull value then 1 else 0
  | _ => failWith 2 "expr: the expression makes no sense"

end AppLauncher.Tools.Calculation
