import AppLauncher.Decimal.Places
import AppLauncher.Shell.Pattern

/-!
# Formatted output

What the commands that print do with their operands: backslash escapes, and
formats that are applied over and over while operands are left.
-/

namespace AppLauncher.Shell

structure Printed where
  text : Text
  /-- Whether an escape says that this is all. -/
  stopped : Bool := false
  code : Nat := 0
deriving DecidableEq, Repr

namespace Printed

def followedBy (first second : Printed) : Printed :=
  if first.stopped then first
  else
    ⟨first.text ++ second.text, second.stopped,
      if second.code = 0 then first.code else second.code⟩

end Printed

def isOctal (c : Char) : Bool := '0' ≤ c && c ≤ '7'

def octal (digits : Text) : Char :=
  Char.ofNat (digits.foldl (fun value c => value * 8 + (c.toNat - '0'.toNat)) 0 % 256)

def letterEscape? (c : Char) : Option Char :=
  match c with
  | 'a' => some '\x07'
  | 'b' => some '\x08'
  | 'e' => some '\x1B'
  | 'f' => some '\x0C'
  | 'n' => some '\n'
  | 'r' => some '\r'
  | 't' => some '\t'
  | 'v' => some '\x0B'
  | '\\' => some '\\'
  | _ => none

def formatEscape (text : Text) : Text × Text :=
  let digits := (text.take 3).takeWhile isOctal
  if digits ≠ [] then
    ([octal digits], text.drop digits.length)
  else
    match text with
    | c :: rest =>
      match letterEscape? c with
      | some meant => ([meant], rest)
      | none => if c == '"' then (['"'], rest) else (['\\', c], rest)
    | [] => (['\\'], [])

def unescape : (fuel : Nat) → Text → Printed
  | 0, text => { text }
  | fuel + 1, text =>
    match text with
    | [] => { text := [] }
    | '\\' :: 'c' :: _ => { text := [], stopped := true }
    | '\\' :: '0' :: rest =>
      let digits := (rest.take 3).takeWhile isOctal
      Printed.followedBy { text := [octal digits] } (unescape fuel (rest.drop digits.length))
    | '\\' :: c :: rest =>
      match letterEscape? c with
      | some meant => Printed.followedBy { text := [meant] } (unescape fuel rest)
      | none => Printed.followedBy { text := ['\\', c] } (unescape fuel rest)
    | c :: rest => Printed.followedBy { text := [c] } (unescape fuel rest)

/-! ## Numbers -/

def readSign (text : Text) : Bool × Text :=
  match text.dropWhile (CharacterClass.contains · .space) with
  | '-' :: rest => (true, rest)
  | '+' :: rest => (false, rest)
  | rest => (false, rest)

def digitValue (c : Char) : Nat :=
  if c.isDigit then c.toNat - '0'.toNat else c.toLower.toNat - 'a'.toNat + 10

def valueIn (base : Nat) (digits : Text) : Nat :=
  digits.foldl (fun value c => value * base + digitValue c) 0

/-- The whole number at the start of a text, in base eight after a zero and in
base sixteen after `0x`, and what follows it. -/
def leadingInteger (text : Text) : Int × Text :=
  let (negative, rest) := readSign text
  let isHexadecimal (c : Char) : Bool := CharacterClass.contains c .hexadecimal
  let (magnitude, left) : Nat × Text :=
    match rest with
    | '0' :: x :: c :: more =>
      if (x == 'x' || x == 'X') && isHexadecimal c then
        (valueIn 16 ((c :: more).takeWhile isHexadecimal), (c :: more).dropWhile isHexadecimal)
      else
        (valueIn 8 (rest.takeWhile isOctal), rest.dropWhile isOctal)
    | '0' :: _ => (valueIn 8 (rest.takeWhile isOctal), rest.dropWhile isOctal)
    | _ => (Word.number (rest.takeWhile Char.isDigit), rest.dropWhile Char.isDigit)
  let found := rest.head?.any Char.isDigit
  (if negative then -(magnitude : Int) else magnitude, if found then left else text)

/-- An operand as a whole number between bounds, and the code of what is wrong
with it.  After a quotation mark stands a character whose number is meant. -/
def operandInteger (low high : Int) (operand : Text) : Int × Nat :=
  match operand with
  | '\'' :: rest => ((rest.headD '\x00').toNat, 0)
  | '"' :: rest => ((rest.headD '\x00').toNat, 0)
  | operand =>
    let (n, rest) := leadingInteger operand
    if n < low then (low, 1)
    else if high < n then (high, 1)
    else (n, if rest = [] then 0 else 1)

def operandSigned (operand : Text) : Int × Nat :=
  operandInteger (-9223372036854775808) 9223372036854775807 operand

/-- An operand as a number of 64 bits without a sign; a negative one counts from
the end. -/
def operandUnsigned (operand : Text) : Nat × Nat :=
  let (n, code) := operandInteger (-18446744073709551615) 18446744073709551615 operand
  ((n.emod UInt64.size).toNat, code)

def leadingNumeral (text : Text) : Decimal.Numeral × Text :=
  let (negative, rest) := readSign text
  let whole := rest.takeWhile Char.isDigit
  let afterWhole := rest.drop whole.length
  let (fraction, afterDigits) : Text × Text :=
    match afterWhole with
    | '.' :: more => (more.takeWhile Char.isDigit, more.dropWhile Char.isDigit)
    | more => ([], more)
  if whole = [] ∧ fraction = [] then
    (⟨false, 0, 0⟩, text)
  else
    let (power, left) : Int × Text :=
      match afterDigits with
      | e :: more =>
        let (below, digits) : Bool × Text :=
          match more with
          | '-' :: digits => (true, digits)
          | '+' :: digits => (false, digits)
          | digits => (false, digits)
        let written := digits.takeWhile Char.isDigit
        if (e == 'e' || e == 'E') && written ≠ [] then
          (if below then -(Word.number written : Int) else Word.number written,
            digits.drop written.length)
        else
          (0, afterDigits)
      | [] => (0, [])
    (⟨negative, Word.number (whole ++ fraction), power - fraction.length⟩, left)

/-! ## Conversions -/

structure Layout where
  flags : Text := []
  width : Nat := 0
  precision : Option Nat := none
deriving DecidableEq, Repr

namespace Layout

/-- A number of a layout: written in the format, or taken from the operands for
an asterisk. -/
def readNumber (text : Text) (operands : List Text) : Int × Text × List Text :=
  match text with
  | '*' :: rest => ((operandSigned (operands.headD [])).1, rest, operands.tail)
  | text => (Word.number (text.takeWhile Char.isDigit), text.dropWhile Char.isDigit, operands)

/-- The layout at the start of a text, and the operands after those that it
uses. -/
def read (text : Text) (operands : List Text) : Layout × Text × List Text :=
  let isFlag (c : Char) : Bool := ['-', '+', ' ', '0', '#'].contains c
  let flags := text.takeWhile isFlag
  let (width, text, operands) := readNumber (text.drop flags.length) operands
  let flags := if width < 0 then '-' :: flags else flags
  match text with
  | '.' :: rest =>
    let (precision, text, operands) := readNumber rest operands
    ({ flags, width := width.natAbs
       precision := if precision < 0 then none else some precision.toNat }, text, operands)
  | text => ({ flags, width := width.natAbs }, text, operands)

def fill (layout : Layout) (text : Text) : Text :=
  let blanks := List.replicate (layout.width - text.length) ' '
  if layout.flags.contains '-' then text ++ blanks else blanks ++ text

def cut (layout : Layout) (text : Text) : Text :=
  match layout.precision with
  | some count => text.take count
  | none => text

def sign (layout : Layout) (negative : Bool) : Text :=
  if negative then ['-']
  else if layout.flags.contains '+' then ['+']
  else if layout.flags.contains ' ' then [' ']
  else []

def filledWithZeros (layout : Layout) (start digits : Text) : Text :=
  let zeros :=
    if layout.flags.contains '0' && !layout.flags.contains '-' then
      layout.width - (start.length + digits.length)
    else 0
  layout.fill (start ++ List.replicate zeros '0' ++ digits)

def whole (layout : Layout) (start digits : Text) : Text :=
  match layout.precision with
  | some count =>
    let digits := if count = 0 ∧ digits = ['0'] then [] else digits
    layout.fill (start ++ List.replicate (count - digits.length) '0' ++ digits)
  | none => layout.filledWithZeros start digits

def unsigned (layout : Layout) (base : Nat) (start : Text) (operand : Text) : Printed :=
  let (n, code) := operandUnsigned operand
  let start := if layout.flags.contains '#' ∧ n ≠ 0 then start else []
  { text := layout.whole start (Nat.toDigits base n), code }

def floating (layout : Layout) (kind : Char) (operand : Text) : Printed :=
  let (numeral, rest) := leadingNumeral operand
  let code := if rest = [] then 0 else 1
  let places := layout.precision.getD 6
  match numeral.value? with
  | none => { text := layout.fill (layout.sign numeral.negative ++ ['i', 'n', 'f']), code := 1 }
  | some value =>
    let digits :=
      match kind with
      | 'f' => value.fixed places
      | 'e' => value.scientific places
      | _ => value.general places
    { text := layout.filledWithZeros (layout.sign numeral.negative) digits, code }

def inCapitals (printed : Printed) : Printed :=
  { printed with text := printed.text.map Char.toUpper }

def convert (layout : Layout) (kind : Char) (operand : Text) : Printed :=
  match kind with
  | 's' => { text := layout.fill (layout.cut operand) }
  | 'b' =>
    let printed := unescape (operand.length + 1) operand
    { printed with text := layout.fill (layout.cut printed.text) }
  | 'c' => { text := layout.fill [operand.headD '\x00'] }
  | 'd' | 'i' =>
    let (n, code) := operandSigned operand
    { text := layout.whole (layout.sign (n < 0)) (Nat.toDigits 10 n.natAbs), code }
  | 'u' => layout.unsigned 10 [] operand
  | 'x' => layout.unsigned 16 ['0', 'x'] operand
  | 'X' => inCapitals (layout.unsigned 16 ['0', 'x'] operand)
  | 'o' => layout.unsigned 8 ['0'] operand
  | 'f' | 'e' | 'g' => layout.floating kind operand
  | 'F' | 'E' | 'G' => inCapitals (layout.floating kind.toLower operand)
  | _ => { text := [], stopped := true, code := 2 }

end Layout

/-- One pass over a format: the output, the operands that are left, and whether
a conversion was met. -/
def formatOnce : (fuel : Nat) → (format : Text) → (operands : List Text) →
    Printed × List Text × Bool
  | 0, _, operands => ({ text := [] }, operands, false)
  | fuel + 1, format, operands =>
    let continued (piece : Printed) (rest : Text) (operands : List Text) (met : Bool) :
        Printed × List Text × Bool :=
      if piece.stopped then
        (piece, operands, met)
      else
        let (later, operands, alsoMet) := formatOnce fuel rest operands
        (piece.followedBy later, operands, met || alsoMet)
    match format with
    | [] => ({ text := [] }, operands, false)
    | '\\' :: rest =>
      let (piece, rest) := formatEscape rest
      continued { text := piece } rest operands false
    | '%' :: '%' :: rest => continued { text := ['%'] } rest operands false
    | '%' :: rest =>
      match Layout.read rest operands with
      | (layout, kind :: rest, operands) =>
        continued (layout.convert kind (operands.headD [])) rest operands.tail true
      | (_, [], operands) => ({ text := [], stopped := true, code := 2 }, operands, false)
    | c :: rest => continued { text := [c] } rest operands false

def formatAll : (fuel : Nat) → (format : Text) → (operands : List Text) → Printed
  | 0, _, _ => { text := [] }
  | fuel + 1, format, operands =>
    let (printed, left, met) := formatOnce (format.length + 1) format operands
    if printed.stopped || left = [] || !met then printed
    else printed.followedBy (formatAll fuel format left)

def printFormat (format : Text) (operands : List Text) : Printed :=
  formatAll (operands.length + 1) format operands

def unwords (texts : List Text) : Text :=
  [' '].intercalate texts

def printLine (operands : List Text) : Text :=
  match operands with
  | ['-', 'n'] :: rest =>
    let line := unwords rest
    (unescape (line.length + 1) line).text
  | operands =>
    let line := unwords operands
    ((unescape (line.length + 1) line).followedBy { text := ['\n'] }).text

/-- What the printing program prints, which takes more options than the shell's
own command and carries out escapes only if told so. -/
def printOperands (operands : List Text) : Text :=
  let isOption (operand : Text) : Bool :=
    match operand with
    | '-' :: letters => letters ≠ [] && letters.all fun c => c == 'n' || c == 'e' || c == 'E'
    | _ => false
  let options := (operands.takeWhile isOption).flatMap List.tail
  let line := unwords (operands.dropWhile isOption)
  let ending : Text := if options.contains 'n' then [] else ['\n']
  if (options.filter (· != 'n')).getLast? = some 'e' then
    ((unescape (line.length + 1) line).followedBy { text := ending }).text
  else
    line ++ ending

end AppLauncher.Shell
