import AppLauncher.Shell.Regex

/-!
# Scripts of the line editor

A script of the line editor is a list of commands, each with a selection of the
lines that it is for.  Commands in braces stand between an opening and a closing
one of the list.
-/

namespace AppLauncher.Tools.Editor

open Shell

/-- A regular expression to look for; without one, that which was used last. -/
structure Search where
  regex : Option Regex
  ignoresCase : Bool := false

inductive Address where
  | number (n : Nat)
  | every (first step : Nat)
  | last
  | found (search : Search)

inductive RangeEnd where
  | address (address : Address)
  /-- So many lines later. -/
  | later (count : Nat)
  /-- At the next line whose number is a multiple. -/
  | multiple (n : Nat)

structure Selection where
  first : Option Address := none
  last : Option RangeEnd := none
  negated : Bool := false

inductive CaseChange where
  | upper
  | lower
  | nextUpper
  | nextLower
  | none
deriving DecidableEq, Repr

inductive Piece where
  | text (text : Text)
  /-- What a group of the match matched; group 0 is all of it. -/
  | group (index : Nat)
  | change (change : CaseChange)
deriving DecidableEq, Repr

structure Substitution where
  search : Search
  pieces : List Piece
  number : Nat := 1
  global : Bool := false
  prints : Bool := false
  path : Option Text := none

inductive Edit where
  | opening
  | closing
  | label (name : Text)
  | substitute (substitution : Substitution)
  | replaceLetters (source target : Text)
  | append (text : Text)
  | insert (text : Text)
  | change (text : Text)
  | delete
  | deleteFirst
  | print
  | printFirst
  | next
  | appendNext
  | hold
  | appendHold
  | fetch
  | appendFetch
  | exchange
  | lineNumber
  | show
  | empty
  | quit (code : Nat) (prints : Bool)
  | branch (name : Text)
  | branchIf (replaced : Bool) (name : Text)
  | readFile (path : Text)
  | writeFile (path : Text)

structure EditCommand where
  selection : Selection
  edit : Edit

/-! ## Reading -/

def skipBlank (text : Text) : Text :=
  text.dropWhile Word.isBlank

def skipBetween (text : Text) : Text :=
  text.dropWhile fun c => CharacterClass.contains c .space || c == ';'

/-- A text up to a delimiter, and what follows it.  A backslash before the
delimiter makes it an ordinary character; in brackets it is one anyway. -/
def untilDelimiter (delimiter : Char) : (brackets : Bool) → Text → Option (Text × Text)
  | _, [] => none
  | inside, '\\' :: c :: rest =>
    (untilDelimiter delimiter inside rest).map fun (text, rest) =>
      (if c = delimiter ∧ !inside then c :: text
        else if c = '\n' then '\n' :: text
        else '\\' :: c :: text, rest)
  | inside, c :: rest =>
    if c = delimiter ∧ !inside then
      some ([], rest)
    else
      let inside := if c = '[' then true else if c = ']' then false else inside
      (untilDelimiter delimiter inside rest).map fun (text, rest) => (c :: text, rest)

def untilEnd (delimiter : Char) : Text → Option (Text × Text)
  | [] => none
  | '\\' :: c :: rest =>
    (untilEnd delimiter rest).map fun (text, rest) =>
      (if c = delimiter ∧ c ≠ '&' then c :: text else '\\' :: c :: text, rest)
  | c :: rest =>
    if c = delimiter then some ([], rest)
    else (untilEnd delimiter rest).map fun (text, rest) => (c :: text, rest)

/-- An expression in whose brackets escapes stand for single characters, as they
do elsewhere. -/
def plainBrackets : (inside : Bool) → Text → Text
  | true, '\\' :: 'n' :: rest => '\n' :: plainBrackets true rest
  | true, '\\' :: 't' :: rest => '\t' :: plainBrackets true rest
  | true, '\\' :: ']' :: rest => '\\' :: ']' :: plainBrackets false rest
  | true, '[' :: ':' :: rest => '[' :: ':' :: plainBrackets true rest
  | true, ':' :: ']' :: rest => ':' :: ']' :: plainBrackets true rest
  | true, c :: rest => c :: plainBrackets (c != ']') rest
  | false, '\\' :: c :: rest => '\\' :: c :: plainBrackets false rest
  | false, '[' :: '^' :: ']' :: rest => '[' :: '^' :: ']' :: plainBrackets true rest
  | false, '[' :: ']' :: rest => '[' :: ']' :: plainBrackets true rest
  | false, c :: rest => c :: plainBrackets (c == '[') rest
  | _, [] => []

def search? (kind : Regex.Kind) (text : Text) (ignoresCase : Bool) : Option Search :=
  if text = [] then some { regex := none, ignoresCase }
  else (Regex.read? kind (plainBrackets false text)).map fun regex =>
    { regex := some regex, ignoresCase }

def readSearch (kind : Regex.Kind) (delimiter : Char) (text : Text) :
    Option (Address × Text) :=
  match untilDelimiter delimiter false text with
  | none => none
  | some (source, rest) =>
    let flags := rest.takeWhile fun c => c == 'I' || c == 'M'
    (search? kind source (flags.contains 'I')).map fun search =>
      (.found search, rest.drop flags.length)

/-- The address at the start of a text: none if there is none, and the inner
none if it makes no sense. -/
def readAddress (kind : Regex.Kind) (text : Text) : Option (Option (Address × Text)) :=
  match text with
  | '$' :: rest => some (some (.last, rest))
  | '/' :: rest => some (readSearch kind '/' rest)
  | '\\' :: delimiter :: rest => some (readSearch kind delimiter rest)
  | text =>
    let digits := text.takeWhile Char.isDigit
    if digits = [] then
      none
    else
      match text.drop digits.length with
      | '~' :: rest =>
        let step := rest.takeWhile Char.isDigit
        some (some (.every (Word.number digits) (Word.number step), rest.drop step.length))
      | rest => some (some (.number (Word.number digits), rest))

def readRangeEnd (kind : Regex.Kind) (text : Text) : Option (RangeEnd × Text) :=
  match skipBlank text with
  | '+' :: rest =>
    some (.later (Word.number (rest.takeWhile Char.isDigit)), rest.dropWhile Char.isDigit)
  | '~' :: rest =>
    some (.multiple (Word.number (rest.takeWhile Char.isDigit)), rest.dropWhile Char.isDigit)
  | rest =>
    match readAddress kind rest with
    | some (some (address, rest)) => some (.address address, rest)
    | _ => none

def readSelection (kind : Regex.Kind) (text : Text) : Option (Selection × Text) :=
  let finished (selection : Selection) (rest : Text) : Selection × Text :=
    match skipBlank rest with
    | '!' :: rest =>
      ({ selection with negated := true }, rest.dropWhile fun c => c == '!' || Word.isBlank c)
    | rest => (selection, rest)
  match readAddress kind text with
  | none => some (finished {} text)
  | some none => none
  | some (some (first, rest)) =>
    match skipBlank rest with
    | ',' :: rest =>
      (readRangeEnd kind rest).map fun (last, rest) =>
        finished { first := some first, last := some last } rest
    | rest => some (finished { first := some first } rest)

def readPieces : Text → List Piece
  | [] => []
  | '\\' :: c :: rest =>
    let piece : Piece :=
      if c.isDigit then .group (c.toNat - '0'.toNat)
      else
        match c with
        | 'n' => .text ['\n']
        | 't' => .text ['\t']
        | 'r' => .text ['\r']
        | 'U' => .change .upper
        | 'L' => .change .lower
        | 'u' => .change .nextUpper
        | 'l' => .change .nextLower
        | 'E' => .change .none
        | c => .text [c]
    piece :: readPieces rest
  | '&' :: rest => .group 0 :: readPieces rest
  | c :: rest => .text [c] :: readPieces rest

def readFlags : (fuel : Nat) → Substitution → Text → Option (Substitution × Text)
  | 0, _, _ => none
  | fuel + 1, substitution, text =>
    let ignoring : Search := { substitution.search with ignoresCase := true }
    match text with
    | 'g' :: rest => readFlags fuel { substitution with global := true } rest
    | 'p' :: rest => readFlags fuel { substitution with prints := true } rest
    | 'i' :: rest => readFlags fuel { substitution with search := ignoring } rest
    | 'I' :: rest => readFlags fuel { substitution with search := ignoring } rest
    | 'w' :: rest =>
      let path := (skipBlank rest).takeWhile (· != '\n')
      some ({ substitution with path := some path }, rest.dropWhile (· != '\n'))
    | c :: rest =>
      if c.isDigit then
        let digits := text.takeWhile Char.isDigit
        if Word.number digits = 0 then none
        else
          readFlags fuel { substitution with number := Word.number digits }
            (text.drop digits.length)
      else
        some (substitution, c :: rest)
    | [] => some (substitution, [])

def readSubstitution (kind : Regex.Kind) (text : Text) : Option (Edit × Text) :=
  match text with
  | [] => none
  | delimiter :: rest =>
    match untilDelimiter delimiter false rest with
    | none => none
    | some (source, rest) =>
      match untilEnd delimiter rest, search? kind source false with
      | some (replacement, rest), some search =>
        (readFlags (rest.length + 1) { search, pieces := readPieces replacement } rest).map
          fun (substitution, rest) => (.substitute substitution, rest)
      | _, _ => none

def readCharacters : Text → Text
  | '\\' :: 'n' :: rest => '\n' :: readCharacters rest
  | '\\' :: 't' :: rest => '\t' :: readCharacters rest
  | '\\' :: c :: rest => c :: readCharacters rest
  | c :: rest => c :: readCharacters rest
  | [] => []

def readReplacement (text : Text) : Option (Edit × Text) :=
  match text with
  | [] => none
  | delimiter :: rest =>
    match untilEnd delimiter rest with
    | none => none
    | some (source, rest) =>
      match untilEnd delimiter rest with
      | none => none
      | some (target, rest) =>
        let source := readCharacters source
        let target := readCharacters target
        if source.length = target.length then some (.replaceLetters source target, rest) else none

/-- A text up to the end of its line, which goes on after a backslash, and what
follows it. -/
def readTextLine : Text → Text × Text
  | [] => ([], [])
  | '\n' :: rest => ([], rest)
  | '\\' :: c :: rest =>
    let (text, rest) := readTextLine rest
    (c :: text, rest)
  | ['\\'] => ([], [])
  | c :: rest =>
    let (text, rest) := readTextLine rest
    (c :: text, rest)

def readAdded (text : Text) : Option (Text × Text) :=
  let read (text : Text) : Text × Text :=
    let (line, rest) := readTextLine text
    (line ++ ['\n'], rest)
  match skipBlank text with
  | [] => none
  | ['\\'] => some ([], [])
  | '\\' :: rest =>
    match skipBlank rest with
    | '\n' :: lines => some (read (skipBlank lines))
    | _ => some (read rest)
  | rest => some (read rest)

def readOperand (text : Text) : Text × Text :=
  (skipBlank (text.takeWhile (· != '\n')), text.dropWhile (· != '\n'))

def readName (text : Text) : Text × Text :=
  let isPart (c : Char) : Bool := c != '\n' && c != ';' && !Word.isBlank c
  let rest := skipBlank text
  (rest.takeWhile isPart, rest.dropWhile isPart)

def readEdit (kind : Regex.Kind) (letter : Char) (text : Text) : Option (Edit × Text) :=
  let code := (skipBlank text).takeWhile Char.isDigit
  let afterCode := (skipBlank text).drop code.length
  let named (edit : Text → Edit) : Option (Edit × Text) :=
    some (edit (readName text).1, (readName text).2)
  let withPath (edit : Text → Edit) : Option (Edit × Text) :=
    some (edit (readOperand text).1, (readOperand text).2)
  let added (edit : Text → Edit) : Option (Edit × Text) :=
    (readAdded text).map fun (lines, rest) => (edit lines, '\n' :: rest)
  match letter with
  | 's' => readSubstitution kind text
  | 'y' => readReplacement text
  | 'a' => added .append
  | 'i' => added .insert
  | 'c' => added .change
  | 'd' => some (.delete, text)
  | 'D' => some (.deleteFirst, text)
  | 'p' => some (.print, text)
  | 'P' => some (.printFirst, text)
  | 'n' => some (.next, text)
  | 'N' => some (.appendNext, text)
  | 'h' => some (.hold, text)
  | 'H' => some (.appendHold, text)
  | 'g' => some (.fetch, text)
  | 'G' => some (.appendFetch, text)
  | 'x' => some (.exchange, text)
  | '=' => some (.lineNumber, text)
  | 'l' => some (.show, text)
  | 'z' => some (.empty, text)
  | 'q' => some (.quit (Word.number code % 256) true, afterCode)
  | 'Q' => some (.quit (Word.number code % 256) false, afterCode)
  | 'b' => named .branch
  | 't' => named (.branchIf true)
  | 'T' => named (.branchIf false)
  | 'r' => withPath .readFile
  | 'w' => withPath .writeFile
  | _ => none

def mayEnd (text : Text) : Bool :=
  match skipBlank text with
  | [] => true
  | c :: _ => c == '\n' || c == ';' || c == '#' || c == '\x7d'

def readCommands (kind : Regex.Kind) : (fuel : Nat) → (depth : Nat) → Text →
    Option (List EditCommand)
  | 0, _, _ => none
  | fuel + 1, depth, text =>
    match skipBetween text with
    | [] => if depth = 0 then some [] else none
    | '#' :: rest => readCommands kind fuel depth (rest.dropWhile (· != '\n'))
    | text =>
      match readSelection kind text with
      | some (_, []) => none
      | none => none
      | some (selection, letter :: rest) =>
        if letter = '\x7b' then
          (readCommands kind fuel (depth + 1) rest).map (⟨selection, .opening⟩ :: ·)
        else if letter = '\x7d' then
          if depth = 0 ∨ !mayEnd rest then none
          else (readCommands kind fuel (depth - 1) rest).map (⟨selection, .closing⟩ :: ·)
        else if letter = ':' then
          let name := (skipBlank rest).takeWhile fun c => c != '\n' && c != ';'
          let name := (name.reverse.dropWhile Word.isBlank).reverse
          if name = [] then none
          else
            (readCommands kind fuel depth ((skipBlank rest).drop name.length)).map
              (⟨selection, .label name⟩ :: ·)
        else
          match readEdit kind letter rest with
          | none => none
          | some (edit, rest) =>
            if mayEnd rest then
              (readCommands kind fuel depth rest).map (⟨selection, edit⟩ :: ·)
            else
              none

def targets (commands : List EditCommand) : List Text :=
  commands.filterMap fun command =>
    match command.edit with
    | .branch name | .branchIf _ name => if name = [] then none else some name
    | _ => none

def labels (commands : List EditCommand) : List Text :=
  commands.filterMap fun command =>
    match command.edit with
    | .label name => some name
    | _ => none

def readScript (kind : Regex.Kind) (text : Text) : Option (Array EditCommand) :=
  match readCommands kind (text.length + 2) 0 text with
  | some commands =>
    if (targets commands).all (labels commands).contains then some commands.toArray else none
  | none => none

end AppLauncher.Tools.Editor
