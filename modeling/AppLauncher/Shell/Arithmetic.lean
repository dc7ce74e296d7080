import AppLauncher.Shell.Word

/-!
# Arithmetic

Arithmetic expressions of whole numbers in words of 64 bits: the operators of
the command language by their precedence, a choice between two values, the
names of variables, and assignments to them.
-/

namespace AppLauncher.Shell

namespace Arithmetic

def wrap (n : Int) : Int := n.bmod UInt64.size

/-- The number that is nearest to another among those that a word can hold. -/
def clamp (n : Int) : Int :=
  if n < -Int.pow 2 63 then -Int.pow 2 63
  else if Int.pow 2 63 ≤ n then Int.pow 2 63 - 1
  else n

def truth (holds : Bool) : Int := if holds then 1 else 0

def digitValue (c : Char) : Nat :=
  if c.isDigit then c.toNat - '0'.toNat
  else if c.isLower then c.toNat - 'a'.toNat + 10
  else c.toNat - 'A'.toNat + 10

def isDigitIn (base : Nat) (c : Char) : Bool :=
  c.isAlphanum && digitValue c < base

def valueIn (base : Nat) (digits : Text) : Nat :=
  digits.foldl (fun value c => value * base + digitValue c) 0

/-- The number at the start of a text, and what follows it.  A zero in front
means base eight, an x after it base sixteen. -/
def readNumber? (text : Text) : Option (Nat × Text) :=
  let inBase (base : Nat) (text : Text) : Nat × Text :=
    (valueIn base (text.takeWhile (isDigitIn base)), text.dropWhile (isDigitIn base))
  match text with
  | '0' :: x :: rest =>
    if (x == 'x' || x == 'X') && rest.head?.any (isDigitIn 16) then some (inBase 16 rest)
    else some (inBase 8 text)
  | c :: _ => if c == '0' then some (inBase 8 text)
    else if c.isDigit then some (inBase 10 text) else none
  | [] => none

def isWhite (c : Char) : Bool :=
  c == ' ' || (0x09 ≤ c.toNat && c.toNat ≤ 0x0D)

def wholeNumber? (text : Text) : Option Int :=
  let text := text.dropWhile isWhite
  let (negative, digits) := match text with
    | '-' :: rest => (true, rest)
    | '+' :: rest => (false, rest)
    | text => (false, text)
  match readNumber? digits with
  | some (n, rest) =>
    if rest.all isWhite then some (clamp (if negative then -(n : Int) else n)) else none
  | none => none

inductive Expression where
  | number (n : Int)
  | variable (name : Text)
  | negative (inner : Expression)
  | complement (inner : Expression)
  | opposite (inner : Expression)
  | binary (operator : String) (first second : Expression)
  | choice (test first second : Expression)
  /-- Assign a value to a variable, joined with its old value by an operator if
  one is given. -/
  | assign (name : Text) (operator : Option String) (value : Expression)
deriving Repr

inductive Fault where
  | malformed
  | divisionByZero
  | notNumber (text : Text)
deriving DecidableEq, Repr

/-! ## Reading -/

/-- The operators of two operands, those that bind loosest first. -/
def levels : List (List String) :=
  [["||"], ["&&"], ["|"], ["^"], ["&"], ["==", "!="], ["<=", ">=", "<", ">"], ["<<", ">>"],
   ["+", "-"], ["*", "/", "%"]]

/-- All operators, the longer ones first where one begins another. -/
def operators : List String :=
  ["<<=", ">>=", "||", "&&", "==", "!=", "<=", ">=", "<<", ">>", "+=", "-=", "*=", "/=",
   "%=", "&=", "|=", "^=", "|", "^", "&", "<", ">", "+", "-", "*", "/", "%", "=", "?", ":",
   "!", "~", "(", ")"]

def skip (text : Text) : Text :=
  text.dropWhile isWhite

def operatorAt? (text : Text) : Option (String × Text) :=
  operators.findSome? fun operator =>
    if operator.toList.isPrefixOf text then some (operator, text.drop operator.length)
    else none

def assignmentOperator? (operator : String) : Option (Option String) :=
  if operator = "=" then
    some none
  else if ["<<=", ">>=", "+=", "-=", "*=", "/=", "%=", "&=", "|=", "^="].contains operator then
    some (some (String.ofList operator.toList.dropLast))
  else
    none

mutual

def readExpression : (fuel : Nat) → Text → Option (Expression × Text)
  | 0, _ => none
  | fuel + 1, text =>
    let text := skip text
    let name := text.takeWhile Word.isNameChar
    let assignment : Option (Option String × Text) :=
      if Word.isName name then do
        let (operator, rest) ← operatorAt? (skip (text.drop name.length))
        (assignmentOperator? operator).map (·, rest)
      else
        none
    match assignment with
    | some (operator, rest) =>
      (readExpression fuel rest).map fun (value, rest) => (.assign name operator value, rest)
    | none => readChoice fuel text

def readChoice : (fuel : Nat) → Text → Option (Expression × Text)
  | 0, _ => none
  | fuel + 1, text =>
    match readLevel fuel levels text with
    | none => none
    | some (test, rest) =>
      match operatorAt? (skip rest) with
      | some ("?", rest) =>
        match readExpression fuel rest with
        | none => none
        | some (first, rest) =>
          match operatorAt? (skip rest) with
          | some (":", rest) =>
            (readChoice fuel rest).map fun (second, rest) => (.choice test first second, rest)
          | _ => none
      | _ => some (test, rest)

def readLevel : (fuel : Nat) → List (List String) → Text → Option (Expression × Text)
  | 0, _, _ => none
  | fuel + 1, [], text => readOperand fuel (skip text)
  | fuel + 1, operators :: tighter, text =>
    match readLevel fuel tighter text with
    | none => none
    | some (first, rest) => readChain fuel operators tighter first rest

def readChain : (fuel : Nat) → List String → List (List String) → Expression → Text →
    Option (Expression × Text)
  | 0, _, _, _, _ => none
  | fuel + 1, operators, tighter, first, text =>
    match operatorAt? (skip text) with
    | none => some (first, text)
    | some (operator, rest) =>
      if operators.contains operator then
        match readLevel fuel tighter rest with
        | none => none
        | some (second, rest) =>
          readChain fuel operators tighter (.binary operator first second) rest
      else
        some (first, text)

/-- A number, a name, an expression in parentheses, or one with a sign before
it. -/
def readOperand : (fuel : Nat) → Text → Option (Expression × Text)
  | 0, _ => none
  | fuel + 1, text =>
    match readNumber? text with
    | some (n, rest) => some (.number (clamp n), rest)
    | none =>
      let name := text.takeWhile Word.isNameChar
      if Word.isName name then
        some (.variable name, text.drop name.length)
      else
        match operatorAt? text with
        | some ("(", rest) =>
          match readExpression fuel rest with
          | some (inner, rest) =>
            match operatorAt? (skip rest) with
            | some (")", rest) => some (inner, rest)
            | _ => none
          | none => none
        | some ("-", rest) =>
          (readOperand fuel (skip rest)).map fun (inner, rest) => (.negative inner, rest)
        | some ("+", rest) => readOperand fuel (skip rest)
        | some ("!", rest) =>
          (readOperand fuel (skip rest)).map fun (inner, rest) => (.opposite inner, rest)
        | some ("~", rest) =>
          (readOperand fuel (skip rest)).map fun (inner, rest) => (.complement inner, rest)
        | _ => none

end

def read? (text : Text) : Option Expression :=
  match readExpression (30 * text.length + 30) text with
  | some (expression, rest) => if skip rest = [] then some expression else none
  | none => none

/-! ## Values -/

def bitwise (join : UInt64 → UInt64 → UInt64) (a b : Int) : Int :=
  wrap (join (UInt64.ofInt a) (UInt64.ofInt b)).toNat

def places (n : Int) : Nat := (n.emod 64).toNat

/-- Two numbers joined by an operator; nothing is divided by zero. -/
def combine (operator : String) (a b : Int) : Except Fault Int :=
  match operator with
  | "||" => .ok (truth (a != 0 || b != 0))
  | "&&" => .ok (truth (a != 0 && b != 0))
  | "|" => .ok (bitwise (· ||| ·) a b)
  | "^" => .ok (bitwise (· ^^^ ·) a b)
  | "&" => .ok (bitwise (· &&& ·) a b)
  | "==" => .ok (truth (a == b))
  | "!=" => .ok (truth (a != b))
  | "<=" => .ok (truth (a ≤ b))
  | ">=" => .ok (truth (b ≤ a))
  | "<" => .ok (truth (a < b))
  | ">" => .ok (truth (b < a))
  | "<<" => .ok (wrap (a * Int.pow 2 (places b)))
  | ">>" => .ok (a.fdiv (Int.pow 2 (places b)))
  | "+" => .ok (wrap (a + b))
  | "-" => .ok (wrap (a - b))
  | "*" => .ok (wrap (a * b))
  | "/" => if b = 0 then .error .divisionByZero else .ok (wrap (a.tdiv b))
  | "%" => if b = 0 then .error .divisionByZero else .ok (a.tmod b)
  | _ => .error .malformed

/-- Variables that an expression has assigned to, the latest first, over those
that there were before. -/
structure Store where
  old : Text → Option Text
  assigned : List (Text × Int) := []

/-- The number that a variable holds; one without a value holds zero. -/
def Store.number (store : Store) (name : Text) : Except Fault Int :=
  match store.assigned.lookup name with
  | some n => .ok n
  | none =>
    match store.old name with
    | none | some [] => .ok 0
    | some text =>
      match wholeNumber? text with
      | some n => .ok n
      | none => .error (.notNumber text)

/-- The value of an expression, and the variables after it.  Only what decides
the value is looked at. -/
def Expression.value : Expression → Store → Except Fault (Int × Store)
  | .number n, store => .ok (n, store)
  | .variable name, store => (store.number name).map (·, store)
  | .negative inner, store => (inner.value store).map fun (n, store) => (wrap (-n), store)
  | .complement inner, store => (inner.value store).map fun (n, store) => (-n - 1, store)
  | .opposite inner, store => (inner.value store).map fun (n, store) => (truth (n == 0), store)
  | .binary operator first second, store =>
    match first.value store with
    | .error fault => .error fault
    | .ok (a, store) =>
      if operator = "||" ∧ a ≠ 0 then .ok (1, store)
      else if operator = "&&" ∧ a = 0 then .ok (0, store)
      else
        match second.value store with
        | .error fault => .error fault
        | .ok (b, store) => (combine operator a b).map (·, store)
  | .choice test first second, store =>
    match test.value store with
    | .error fault => .error fault
    | .ok (n, store) => if n ≠ 0 then first.value store else second.value store
  | .assign name operator value, store =>
    match value.value store with
    | .error fault => .error fault
    | .ok (n, store) =>
      let joined : Except Fault Int :=
        match operator with
        | none => .ok n
        | some operator =>
          match store.number name with
          | .error fault => .error fault
          | .ok old => combine operator old n
      joined.map fun n => (n, { store with assigned := (name, n) :: store.assigned })

/-- The value of a text as an expression, and the assignments in it, the latest
first. -/
def evaluate (old : Text → Option Text) (text : Text) : Except Fault (Int × List (Text × Int)) :=
  match read? text with
  | none => .error .malformed
  | some expression =>
    (expression.value { old }).map fun (n, store) => (n, store.assigned)

end Arithmetic

end AppLauncher.Shell
