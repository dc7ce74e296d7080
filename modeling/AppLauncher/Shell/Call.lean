import AppLauncher.Shell.BuiltIn

/-!
# Calling a shell

What the arguments of a shell mean, and what the first line of a script says
about the program that runs it.
-/

namespace AppLauncher.Shell

inductive ShellCall where
  | command (source : Text) (name : Text) (arguments : List Text)
  | script (path : Text) (arguments : List Text)
  | input (arguments : List Text)
  | refused
deriving DecidableEq, Repr

/-- The letters among the arguments of a shell: those of its options, and those
that say where the commands are. -/
def areCallLetters (letters : Text) : Bool :=
  letters.all fun letter => letter == 'c' || letter == 'l' || areOptions [letter]

/-- The meaning of the arguments that a shell was called with, and the options
among them. -/
def ShellCall.ofArguments : (letters : List Char) → List Text → ShellCall × List Char
  | letters, [] => (if letters.contains 'c' then .refused else .input [], letters)
  | letters, ['-', '-'] :: rest => (operands letters rest, letters)
  | letters, ['-'] :: rest => (operands letters rest, letters)
  | letters, [sign, 'o'] :: name :: rest =>
    if sign == '-' || sign == '+' then
      match optionNames.lookup (String.ofList name) with
      | some letter => ofArguments (switchOption (sign == '-') letters letter) rest
      | none => (.refused, letters)
    else
      (operands letters ([sign, 'o'] :: name :: rest), letters)
  | letters, (sign :: more) :: rest =>
    if (sign == '-' || sign == '+') && more ≠ [] then
      if areCallLetters more then
        ofArguments (more.foldl (switchOption (sign == '-')) letters) rest
      else
        (.refused, letters)
    else
      (operands letters ((sign :: more) :: rest), letters)
  | letters, [] :: rest => (operands letters ([] :: rest), letters)
where
  operands (letters : List Char) : List Text → ShellCall
    | [] => if letters.contains 'c' then .refused else .input []
    | first :: rest =>
      if letters.contains 'c' then
        match rest with
        | [] => .command first ['s', 'h'] []
        | name :: arguments => .command first name arguments
      else if letters.contains 's' then
        .input (first :: rest)
      else
        .script first rest

def shellPath : Text := "/bin/sh".toList

/-! ## Scripts as programs -/

def headerLength : Nat := 256

/-- The line of a header after its two signs: up to a line feed, if no NUL byte
comes before it; else all of it, if the name in it is complete. -/
def headerLine? (body : Text) : Option Text :=
  let line := body.takeWhile fun c => c != '\n' && c != '\x00'
  match body.drop line.length with
  | '\n' :: _ => some line
  | _ =>
    let name := body.dropWhile Word.isBlank
    if name.any (fun c => Word.isBlank c || c == '\x00') then some body.dropLast else none

/-- The interpreter that the first line of a script names, and its operand.  A
header shorter than it may be counts as filled up with NUL bytes. -/
def interpreter? (content : Bytes) : Option (Text × List Text) :=
  let header := Text.ofBytes (content.take headerLength)
  match header ++ List.replicate (headerLength - header.length) '\x00' with
  | '#' :: '!' :: body =>
    (headerLine? body).bind fun line =>
      let line := (line.reverse.dropWhile Word.isBlank).reverse.dropWhile Word.isBlank
      let name := line.takeWhile fun c => !Word.isBlank c && c != '\x00'
      let rest := line.drop name.length
      if line = [] then
        none
      else if rest.head?.any Word.isBlank then
        some (name, [(rest.dropWhile Word.isBlank).takeWhile (· != '\x00')])
      else
        some (name, [])
  | _ => none

def interpreterLimit : Nat := 5

end AppLauncher.Shell
