import AppLauncher.Shell.Arithmetic
import AppLauncher.Shell.Machine
import AppLauncher.Shell.Matching

/-!
# What words stand for

Words are turned into fields part by part.  Commands whose output is inserted
are carried out by a function that this module is given.
-/

namespace AppLauncher.Shell

/-- Carries out a script and gives its output. -/
abbrev Insertion := Text → Run Text

structure Manner where
  splits : Bool
  inOperand : Bool := false

def Parameter.description : Parameter → String
  | .named name => String.ofList name
  | .position index => toString index
  | .each => "@"
  | .joined => "*"
  | .count => "#"
  | .status => "?"
  | .process => "$"
  | .background => "!"
  | .options => "-"

namespace Expansion

def leadingCharacters : Word → Text × Word
  | .literal [c] false :: rest =>
    if c = '/' ∨ c = ':' then ([], .literal [c] false :: rest)
    else
      let (text, rest) := leadingCharacters rest
      (c :: text, rest)
  | word => ([], word)

def homes : List (String × String) := [("root", "/root")]

/-- The part that stands for a directory where a word goes on with a tilde, and
the word after it. -/
def tilde? (memory : Memory) : Word → Option (Part × Word)
  | .literal ['~'] false :: rest =>
    let (user, after) := leadingCharacters rest
    let isWhole := match after with
      | [] => true
      | .literal ['/'] false :: _ | .literal [':'] false :: _ => true
      | _ => false
    if !isWhole then none
    else if user = [] then
      (memory.value? ['H', 'O', 'M', 'E']).map fun home => (.literal home true, after)
    else
      (homes.lookup (String.ofList user)).map fun home => (.literal home.toList true, after)
  | _ => none

def withHome (memory : Memory) (word : Word) : Word :=
  match tilde? memory word with
  | some (home, rest) => home :: rest
  | none => word

/-- The value of an assignment, in which tildes are meant after colons, too. -/
def withHomes (memory : Memory) (word : Word) : Word :=
  go (word.length + 1) true word
where
  go : (fuel : Nat) → Bool → Word → Word
    | 0, _, word => word
    | _, _, [] => []
    | fuel + 1, first, part :: rest =>
      match if first then tilde? memory (part :: rest) else none with
      | some (home, rest) => home :: go fuel false rest
      | none => part :: go fuel (part == .literal [':'] false) rest

def addValue (memory : Memory) (manner : Manner) (quoted : Bool) (value : Text)
    (fields : Fields) : Fields :=
  if quoted then fields.extend true value
  else if manner.splits then fields.split memory.separators value
  else fields.extend false value

/-- Fields with several values added, each the start of a new field but the
first. -/
def addValues (memory : Memory) (manner : Manner) (quoted : Bool) :
    List Text → Fields → Fields
  | [], fields => fields
  | [value], fields => addValue memory manner quoted value fields
  | value :: rest, fields =>
    addValues memory manner quoted rest (addValue memory manner quoted value fields).close

/-- Fields with all arguments added.  Only where fields are made do they become
fields of their own. -/
def addArguments (memory : Memory) (manner : Manner) (parameter : Parameter) (quoted : Bool)
    (arguments : List Text) (fields : Fields) : Fields :=
  if manner.splits && (!quoted || parameter == .each) then
    addValues memory manner quoted arguments fields
  else if arguments = [] then
    fields
  else
    addValue memory manner quoted (memory.joinArguments arguments) fields

def valueOf (parameter : Parameter) : Run Text := do
  let memory ← currentMemory
  match memory.parameter? parameter with
  | some value => return value
  | none =>
    if memory.options.contains 'u' && parameter != .each && parameter != .joined then
      abandon (parameter.description ++ ": parameter not set")
    else
      return []

def compute (source : Text) : Run Text := do
  let memory ← currentMemory
  match Arithmetic.evaluate memory.value? source with
  | .ok (n, assigned) =>
    for (name, n) in assigned.reverse do
      assignVariable name (toString n).toList
    return (toString n).toList
  | .error .divisionByZero => abandon "arithmetic expression: division by zero"
  | .error .malformed => abandon "arithmetic expression: expecting primary"
  | .error (.notNumber text) => abandon ("Illegal number: " ++ String.ofList text)

def counts (emptyToo : Bool) : Option Text → Bool
  | none => false
  | some value => !(emptyToo && value == [])

def parts (insertion : Insertion) : (fuel : Nat) → Manner → Word → Fields → Run Fields
  | 0, _, _, _ => endShell 2
  | _ + 1, _, [], fields => return fields
  | fuel + 1, manner, part :: rest, fields => do
    let memory ← currentMemory
    let operandWord (quoted : Bool) (operand : Text) : Run Word :=
      match if quoted then Word.ofQuoted? Command.afterCommands .operand operand
        else Word.ofOperand? Command.afterCommands operand with
      | some word => return word
      | none => abandon "Syntax error: Unterminated quoted string"
    let joined (quoted : Bool) (operand : Text) : Run (List Letter) := do
      let fields ← parts insertion fuel { splits := false } (← operandWord quoted operand) {}
      return fields.toList.flatten
    let fields ← match part with
      | .literal text quoted =>
        if manner.inOperand && !quoted then
          pure (addValue memory manner false text fields)
        else
          pure (fields.extend quoted text)
      | .parameter .each quoted =>
        pure (addArguments memory manner .each quoted memory.arguments fields)
      | .parameter .joined quoted =>
        pure (addArguments memory manner .joined quoted memory.arguments fields)
      | .parameter parameter quoted =>
        pure (addValue memory manner quoted (← valueOf parameter) fields)
      | .changed parameter change operand quoted =>
        let value := memory.parameter? parameter
        let whole : Run Fields := do
          if parameter == .each || parameter == .joined then
            pure (addArguments memory manner parameter quoted memory.arguments fields)
          else
            pure (addValue memory manner quoted (value.getD []) fields)
        let other : Run Fields := do
          parts insertion fuel { manner with inOperand := !quoted }
            (withHome memory (← operandWord quoted operand)) fields
        let trimmed (trim : Pattern → Text → Text) : Run Fields := do
          let word ← operandWord false operand
          let letters ← parts insertion fuel { splits := false } word {}
          let pattern := Pattern.ofLetters letters.toList.flatten
          if parameter == .each || parameter == .joined then
            pure (addArguments memory manner parameter quoted
              (memory.arguments.map (trim pattern)) fields)
          else
            let value ← valueOf parameter
            pure (addValue memory manner quoted (trim pattern value) fields)
        match change with
        | .orElse emptyToo => if counts emptyToo value then whole else other
        | .ifSet emptyToo => if counts emptyToo value then other else pure fields
        | .orAssign emptyToo =>
          if counts emptyToo value then
            whole
          else
            let assigned := plain (← joined quoted operand)
            match parameter with
            | .named name =>
              assignVariable name assigned
              pure (addValue (← currentMemory) manner quoted assigned fields)
            | _ => abandon "bad variable name"
        | .orFail emptyToo =>
          if counts emptyToo value then
            whole
          else
            let message := plain (← joined quoted operand)
            let text := if message = [] then "parameter not set" else String.ofList message
            abandon (parameter.description ++ ": " ++ text)
        | .withoutStart longest => trimmed (·.dropStart longest)
        | .withoutEnd longest => trimmed (·.dropEnd longest)
        | .length =>
          let value ← valueOf parameter
          pure (addValue memory manner quoted (Text.ofNat value.length) fields)
      | .output source quoted =>
        let text ← insertion source
        let text := ((text.filter (· != '\x00')).reverse.dropWhile (· == '\n')).reverse
        pure (addValue memory manner quoted text fields)
      | .arithmetic source quoted =>
        let expression := plain (← joined true source)
        pure (addValue memory manner quoted (← compute expression) fields)
      | .senseless => abandon "Bad substitution"
    parts insertion fuel manner rest fields

def depthBound : Nat := 10000000

def letters (insertion : Insertion) (word : Word) : Run (List Letter) := do
  let memory ← currentMemory
  let fields ← parts insertion depthBound { splits := false } (withHome memory word) {}
  return fields.toList.flatten

def text (insertion : Insertion) (word : Word) : Run Text := do
  return plain (← letters insertion word)

def value (insertion : Insertion) (word : Word) : Run Text := do
  let memory ← currentMemory
  let fields ← parts insertion depthBound { splits := false } (withHomes memory word) {}
  return plain fields.toList.flatten

def fields (insertion : Insertion) (words : List Word) : Run (List Text) := do
  let mut all : List (List Text) := []
  for word in words do
    let memory ← currentMemory
    let fields ← parts insertion depthBound { splits := true } (withHome memory word) {}
    let host := (← get).host
    let texts :=
      if (← currentMemory).options.contains 'f' then fields.toList.map plain
      else fields.toList.flatMap (matchField host)
    all := texts :: all
  return all.reverse.flatten

end Expansion

end AppLauncher.Shell
