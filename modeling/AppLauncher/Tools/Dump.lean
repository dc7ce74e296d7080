import AppLauncher.Tools.Lines

/-!
# Dumps

An input is shown as numbers or characters, so many bytes on each line, with the
offset of the first of them.
-/

namespace AppLauncher.Tools

open Shell

inductive UnitForm where
  /-- Numbers in a base, of so many bytes each, the lowest byte first. -/
  | number (base size : Nat)
  | signed (size : Nat)
  | character
deriving DecidableEq, Repr

def UnitForm.size : UnitForm → Nat
  | .number _ size => size
  | .signed size => size
  | .character => 1

/-- The number that some bytes are, the lowest byte first. -/
def littleEndian (bytes : Text) : Nat :=
  bytes.foldr (fun c value => value * 256 + c.toNat) 0

def withZeros (base width n : Nat) : Text :=
  let digits := Nat.toDigits base n
  List.replicate (width - digits.length) '0' ++ digits

def digitCount (base size : Nat) : Nat :=
  (Nat.toDigits base (Nat.pow 256 size - 1)).length

def UnitForm.render (form : UnitForm) (bytes : Text) : Text :=
  match form with
  | .number 10 size => ' ' :: paddedNumber (digitCount 10 size) (littleEndian bytes)
  | .number base size => ' ' :: withZeros base (digitCount base size) (littleEndian bytes)
  | .signed size =>
    let n := littleEndian bytes
    let bound := Nat.pow 256 size
    let value : Int := if 2 * n < bound then n else (n : Int) - bound
    ' ' :: padded (digitCount 10 size + 1) (toString value).toList
  | .character =>
    match bytes with
    | [c] =>
      let shown : Text :=
        match c with
        | '\x00' => ['\\', '0']
        | '\x07' => ['\\', 'a']
        | '\x08' => ['\\', 'b']
        | '\x0C' => ['\\', 'f']
        | '\n' => ['\\', 'n']
        | '\r' => ['\\', 'r']
        | '\t' => ['\\', 't']
        | '\x0B' => ['\\', 'v']
        | c => if CharacterClass.isPrintable c then [c] else withZeros 8 3 c.toNat
      padded 4 shown
    | _ => []

/-- The units of a text, of so many bytes each; the last one is filled up with
zeros. -/
def unitsOf (size : Nat) : (fuel : Nat) → Text → List Text
  | 0, _ => []
  | fuel + 1, text =>
    if text = [] then []
    else
      let unit := text.take size
      (unit ++ List.replicate (size - unit.length) '\x00') :: unitsOf size fuel (text.drop size)

def readSize (text : Text) : Option Nat :=
  match String.ofList text with
  | "" => some 4
  | "C" => some 1
  | "S" => some 2
  | "I" => some 4
  | "L" => some 8
  | "1" => some 1
  | "2" => some 2
  | "4" => some 4
  | "8" => some 8
  | _ => none

def readForm : Text → Option UnitForm
  | ['c'] => some .character
  | 'x' :: size => (readSize size).map (.number 16)
  | 'o' :: size => (readSize size).map (.number 8)
  | 'u' :: size => (readSize size).map (.number 10)
  | 'd' :: size => (readSize size).map .signed
  | _ => none

def formOf (given : Given) : Option UnitForm :=
  match given.options.reverse.find? fun option => "tcbxodB".toList.contains option.1 with
  | some ('t', form) => readForm form
  | some ('c', _) => some .character
  | some ('b', _) => some (.number 8 1)
  | some ('x', _) => some (.number 16 2)
  | some ('d', _) => some (.number 10 2)
  | _ => some (.number 8 2)

def offsetText (given : Given) (offset : Nat) : Text :=
  match given.value? 'A' with
  | some ['n'] => []
  | some ['d'] => withZeros 10 7 offset
  | some ['x'] => withZeros 16 6 offset
  | _ => withZeros 8 7 offset

/-- Print a dump of inputs.  Of equal lines in a row only the first is shown. -/
def dump (operands : List Text) : Run Nat := do
  let given := OptionRules.read
    { flags := "vcbxodB", valued := "AtNjw"
      words := [("address-radix", 'A'), ("format", 't'), ("output-duplicates", 'v')] }
    operands
  unlessRefused "od" 1 given do
    match formOf given with
    | none => failWith 1 "od: invalid type string"
    | some form =>
      let (inputs, complete) ← inputsOf "od" given.operands
      let all := (inputs.flatMap (·.content)).drop ((given.value? 'j').elim 0 Word.number)
      let text := match given.value? 'N' with
        | some count => all.take (Word.number count)
        | none => all
      let width := match given.value? 'w' with
        | some width => if Word.number width = 0 then 16 else Word.number width
        | none => 16
      let mut offset := 0
      let mut previous : Text := []
      let mut skipping := false
      for line in unitsOf width (text.length + 1) text do
        let bytes := line.take (text.length - offset)
        if bytes = previous ∧ !given.has 'v' ∧ bytes.length = width then
          if !skipping then say ['*', '\n']
          skipping := true
        else
          let units := unitsOf form.size (bytes.length + 1) bytes
          say (offsetText given offset ++ units.flatMap form.render ++ ['\n'])
          skipping := false
        previous := bytes
        offset := offset + width
      let last := offsetText given text.length
      if last ≠ [] then say (last ++ ['\n'])
      return codeOf complete

end AppLauncher.Tools
