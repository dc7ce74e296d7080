import AppLauncher.Shell.Arithmetic
import AppLauncher.Shell.Machine
import AppLauncher.Shell.Matching

/-!
# Conditions

The operands of a test are a condition: properties of files and texts, two
texts or numbers compared, and conditions joined, negated and put in
parentheses.  What the operands are is decided by their number first.
-/

namespace AppLauncher.Shell.Condition

inductive Token where
  | unary (operator : String)
  | binary (operator : String)
  | orSign
  | andSign
  | notSign
  | open
  | close
deriving DecidableEq, Repr

def unaryOperators : List String :=
  ["-r", "-w", "-x", "-e", "-f", "-d", "-c", "-b", "-p", "-u", "-g", "-k", "-s", "-t", "-z",
   "-n", "-h", "-L", "-S", "-O", "-G"]

def binaryOperators : List String :=
  ["=", "!=", "<", ">", "-eq", "-ne", "-ge", "-gt", "-le", "-lt", "-nt", "-ot", "-ef"]

def token? (text : Text) : Option Token :=
  match String.ofList text with
  | "-o" => some .orSign
  | "-a" => some .andSign
  | "!" => some .notSign
  | "(" => some .open
  | ")" => some .close
  | name =>
    if unaryOperators.contains name then some (.unary name)
    else if binaryOperators.contains name then some (.binary name)
    else none

def isBinary (text : Text) : Bool :=
  match token? text with
  | some (.binary _) => true
  | _ => false

/-- The token at the start of the operands that are left.  An operator of one
operand with none after it, or before a comparison, is no token. -/
def lex : List Text → Option Token
  | [] => none
  | text :: rest =>
    match token? text, rest with
    | some (.unary name), [_] => some (.unary name)
    | some (.unary _), [] => none
    | some (.unary name), next :: _ => if isBinary next then none else some (.unary name)
    | some .open, [] => none
    | token, _ => token

inductive Fault where
  | malformed
  | notNumber
deriving DecidableEq, Repr

def compareNumbers (operator : String) (a b : Int) : Bool :=
  match operator with
  | "-eq" => a == b
  | "-ne" => a != b
  | "-lt" => a < b
  | "-le" => a ≤ b
  | "-gt" => b < a
  | _ => b ≤ a

def decimal? (text : Text) : Option Int :=
  let text := text.dropWhile Arithmetic.isWhite
  let (negative, rest) := match text with
    | '-' :: rest => (true, rest)
    | '+' :: rest => (false, rest)
    | text => (false, text)
  let digits := rest.takeWhile Char.isDigit
  if digits ≠ [] ∧ (rest.drop digits.length).all Arithmetic.isWhite then
    some (Arithmetic.clamp (if negative then -(Word.number digits : Int) else Word.number digits))
  else
    none

def placeOf? (host : Host) (path : Text) : Option Location :=
  match host.find path.toBytes with
  | .ok (location, _) => some location
  | .error _ => none

/-- Whether two operands are as a comparison says.  Files have no age here, so
that none is newer than another. -/
def compare (host : Host) (operator : String) (left right : Text) : Except Fault Bool :=
  match operator with
  | "=" => .ok (left == right)
  | "!=" => .ok (left != right)
  | "<" => .ok (left != right && precedes left right)
  | ">" => .ok (left != right && precedes right left)
  | "-nt" | "-ot" => .ok false
  | "-ef" => .ok ((placeOf? host left).isSome && placeOf? host left == placeOf? host right)
  | operator =>
    match decimal? left, decimal? right with
    | some a, some b => .ok (compareNumbers operator a b)
    | _, _ => .error .notNumber

def holds (host : Host) (operator : String) (operand : Text) : Bool :=
  let path := operand.toBytes
  match operator with
  | "-n" => operand != []
  | "-z" => operand == []
  | "-e" | "-r" | "-w" | "-O" | "-G" => host.pathExists path
  | "-f" => host.isFile path
  | "-d" => isDirectory host operand
  | "-c" =>
    match host.find path with
    | .ok (_, .file .void _) => true
    | _ => false
  | "-x" =>
    match host.find path with
    | .ok (_, .file _ executable) => executable
    | .ok (_, .directory _) => true
    | _ => false
  | "-s" =>
    match host.content path with
    | .ok content => content != []
    | .error _ => host.pathExists path
  | "-L" | "-h" =>
    match host.locate false path with
    | .ok (.taken _ (.link _)) => true
    | _ => false
  | _ => false

mutual

def readEither (host : Host) : (fuel : Nat) → List Text → Except Fault (Bool × List Text)
  | 0, _ => .error .malformed
  | fuel + 1, operands =>
    match readBoth host fuel operands with
    | .error fault => .error fault
    | .ok (first, rest) =>
      match lex rest with
      | some .orSign =>
        (readEither host fuel rest.tail).map fun (second, rest) => (first || second, rest)
      | _ => .ok (first, rest)

def readBoth (host : Host) : (fuel : Nat) → List Text → Except Fault (Bool × List Text)
  | 0, _ => .error .malformed
  | fuel + 1, operands =>
    match readNegation host fuel operands with
    | .error fault => .error fault
    | .ok (first, rest) =>
      match lex rest with
      | some .andSign =>
        (readBoth host fuel rest.tail).map fun (second, rest) => (first && second, rest)
      | _ => .ok (first, rest)

def readNegation (host : Host) : (fuel : Nat) → List Text → Except Fault (Bool × List Text)
  | 0, _ => .error .malformed
  | fuel + 1, operands =>
    match lex operands with
    | some .notSign =>
      (readNegation host fuel operands.tail).map fun (value, rest) => (!value, rest)
    | _ => readPrimary host fuel operands

def readPrimary (host : Host) : (fuel : Nat) → List Text → Except Fault (Bool × List Text)
  | 0, _ => .error .malformed
  | fuel + 1, operands =>
    match lex operands, operands with
    | _, [] => .ok (false, [])
    | some .open, _ :: rest =>
      match lex rest with
      | some .close => .ok (false, rest.tail)
      | _ =>
        match readEither host fuel rest with
        | .error fault => .error fault
        | .ok (value, rest) =>
          match lex rest with
          | some .close => .ok (value, rest.tail)
          | _ => .error .malformed
    | some (.unary operator), [_, operand] => .ok (holds host operator operand, [])
    | some (.unary operator), _ :: operand :: rest => .ok (holds host operator operand, rest)
    | _, left :: operator :: right :: rest =>
      match lex (operator :: right :: rest) with
      | some (.binary name) => (compare host name left right).map (·, rest)
      | _ => .ok (left != [], operator :: right :: rest)
    | _, left :: rest =>
      match lex rest with
      | some (.binary _) => .error .malformed
      | _ => .ok (left != [], rest)

end

def evaluate (host : Host) : List Text → Except Fault Bool
  | [] => .ok false
  | operands@(first :: rest) =>
    let whole : Except Fault Bool :=
      match readEither host (4 * operands.length + 8) operands with
      | .error fault => .error fault
      | .ok (value, left) => if left = [] then .ok value else .error .malformed
    let grouped : Except Fault Bool :=
      if first = ['('] ∧ operands.getLast? = some [')'] then
        match readEither host (4 * operands.length + 8) rest.dropLast with
        | .error fault => .error fault
        | .ok (value, left) => if left = [] then .ok value else .error .malformed
      else if first = ['!'] then
        (evaluate host rest).map (!·)
      else
        whole
    match rest with
    | [operator, right] =>
      match token? operator with
      | some (.binary name) => compare host name first right
      | _ => grouped
    | [_, _, _] => grouped
    | _ => whole

/-- The code of a test: zero for true, one for false, two for no sense. -/
def code (host : Host) (operands : List Text) : Nat :=
  match evaluate host operands with
  | .ok true => 0
  | .ok false => 1
  | .error _ => 2

def bracketCode (host : Host) (operands : List Text) : Nat :=
  if operands.getLast? = some [']'] then code host operands.dropLast else 2

end AppLauncher.Shell.Condition
