import AppLauncher.Shell.Opening
import AppLauncher.Text.Utf8

/-!
# Options and operands

A program is called with options, some of which take a value, and operands.
Options are letters after a hyphen, several of which may stand together, or
words after two hyphens; two hyphens alone end them.
-/

namespace AppLauncher.Tools

open Shell

structure OptionRules where
  flags : String := ""
  valued : String := ""
  words : List (String × Char) := []
  anywhere : Bool := true

structure Given where
  options : List (Char × Text) := []
  operands : List Text := []
  /-- Whether an option is none of those that the program takes. -/
  refused : Bool := false

namespace Given

def withOption (given : Given) (letter : Char) (value : Text) : Given :=
  { given with options := (letter, value) :: given.options }

def withOperand (given : Given) (operand : Text) : Given :=
  { given with operands := operand :: given.operands }

def has (given : Given) (letter : Char) : Bool :=
  given.options.any (·.1 == letter)

def values (given : Given) (letter : Char) : List Text :=
  (given.options.filter (·.1 == letter)).map (·.2)

def value? (given : Given) (letter : Char) : Option Text :=
  (given.values letter).getLast?

def last? (given : Given) (letters : String) : Option Char :=
  ((given.options.filter fun option => letters.toList.contains option.1).map (·.1)).getLast?

end Given

/-- The options that letters standing together are.  The last of them may lack
its value. -/
def OptionRules.letters (rules : OptionRules) :
    Text → Option (List (Char × Text) × Option Char)
  | [] => some ([], none)
  | letter :: rest =>
    if rules.flags.toList.contains letter then
      (rules.letters rest).map fun (options, left) => ((letter, []) :: options, left)
    else if rules.valued.toList.contains letter then
      some (if rest = [] then ([], some letter) else ([(letter, rest)], none))
    else
      none

def OptionRules.read (rules : OptionRules) : List Text → Given
  | [] => {}
  | ['-', '-'] :: rest => { operands := rest }
  | ('-' :: '-' :: word) :: rest =>
    let name := word.takeWhile (· != '=')
    match rules.words.lookup (String.ofList name), word.drop name.length with
    | none, _ => { rules.read rest with refused := true }
    | some letter, _ :: value => (rules.read rest).withOption letter value
    | some letter, [] =>
      if rules.valued.toList.contains letter then
        match rest with
        | value :: rest => (rules.read rest).withOption letter value
        | [] => { refused := true }
      else
        (rules.read rest).withOption letter []
  | ('-' :: first :: more) :: rest =>
    match rules.letters (first :: more) with
    | none => { rules.read rest with refused := true }
    | some (options, none) =>
      let given := rules.read rest
      { given with options := options ++ given.options }
    | some (options, some letter) =>
      match rest with
      | value :: rest =>
        let given := rules.read rest
        { given with options := options ++ (letter, value) :: given.options }
      | [] => { refused := true }
  | operand :: rest =>
    if rules.anywhere then (rules.read rest).withOperand operand
    else { operands := operand :: rest }

def operandFailure (program : String) (operand : Text) (error : FileError) : String :=
  program ++ ": " ++ Utf8.shown operand.toBytes ++ ": " ++ error.reason

def failWith (code : Nat) (message : String) : Run Nat := do
  complain message
  return code

/-- Carry out a program unless it was called with an option that it does not
take. -/
def unlessRefused (program : String) (code : Nat) (given : Given) (action : Run Nat) :
    Run Nat := do
  if given.refused then failWith code (program ++ ": invalid option") else action

structure Input where
  name : Text
  content : Text

/-- The inputs that operands name, and whether all could be read.  The standard
input is meant by a hyphen, and by no operands at all. -/
def inputsOf (program : String) (operands : List Text) : Run (List Input × Bool) := do
  let mut inputs : List Input := []
  let mut complete := true
  for operand in if operands = [] then [['-']] else operands do
    if operand = ['-'] then
      if ← canRead 0 then
        inputs := ⟨operand, ← takeInput⟩ :: inputs
      else
        complain (program ++ ": -: Bad file descriptor")
        complete := false
    else
      match ← readAll operand with
      | .ok content => inputs := ⟨operand, content⟩ :: inputs
      | .error error =>
        complain (operandFailure program operand error)
        complete := false
  return (inputs.reverse, complete)

/-- The code of a program that could read all of its inputs, or that could
not. -/
def codeOf (complete : Bool) : Nat :=
  if complete then 0 else 1

/-! ## Lines -/

def segments (text : Text) : List Text :=
  text.splitBy fun c _ => c != '\n'

def withoutEnd (segment : Text) : Text :=
  if segment.getLast? = some '\n' then segment.dropLast else segment

def linesOf (text : Text) : List Text :=
  (segments text).map withoutEnd

def unlines (lines : List Text) : Text :=
  lines.flatMap (· ++ ['\n'])

def padded (width : Nat) (text : Text) : Text :=
  List.replicate (width - text.length) ' ' ++ text

def paddedNumber (width n : Nat) : Text :=
  padded width (Text.ofNat n)

structure Count where
  sign : Option Char := none
  amount : Nat

def factors : List (String × Nat) :=
  [("", 1), ("b", 512), ("k", 1024), ("K", 1024), ("kB", 1000), ("M", 1048576), ("MB", 1000000)]

def Count.ofText? (text : Text) : Option Count :=
  let (sign, rest) : Option Char × Text :=
    match text with
    | '-' :: rest => (some '-', rest)
    | '+' :: rest => (some '+', rest)
    | rest => (none, rest)
  let digits := rest.takeWhile Char.isDigit
  match factors.lookup (String.ofList (rest.drop digits.length)) with
  | some factor =>
    if digits = [] then none else some { sign, amount := Word.number digits * factor }
  | none => none

end AppLauncher.Tools
