import AppLauncher.Shell.Word

/-!
# Commands

The command language: simple commands with assignments and redirections,
pipelines, lists, loops, conditions, groups and functions.  A script is read
one complete command at a time, because what stands before a mistake is still
carried out.

A text that follows a command for its input is taken out of the script as soon
as its redirection is read, so that the rest of the line goes on after it.
-/

namespace AppLauncher.Shell

inductive RedirectTarget where
  /-- To a file that is emptied, even where the shell keeps files if so
  wanted. -/
  | write (path : Word) (force : Bool)
  | append (path : Word)
  | read (path : Word)
  /-- To whatever another descriptor stands for, or nowhere at all. -/
  | duplicate (descriptor : Word)
  | text (source : Text) (expands : Bool)
deriving DecidableEq, Repr

structure Redirect where
  descriptor : Nat
  target : RedirectTarget
deriving DecidableEq, Repr

inductive Command where
  | nothing
  | simple (assignments : List (Text × Word)) (words : List Word) (redirects : List Redirect)
  | sequence (first second : Command)
  | both (first second : Command)
  | either (first second : Command)
  | negated (command : Command)
  | pipe (first second : Command)
  | condition (test body otherwise : Command)
  | loop (whileTrue : Bool) (test body : Command)
  /-- Carry out a body for each of some words, or for each argument. -/
  | each (name : Text) (words : Option (List Word)) (body : Command)
  | select (subject : Word) (branches : List (List Word × Command))
  | subshell (body : Command)
  | background (body : Command)
  | redirected (body : Command) (redirects : List Redirect)
  | define (name : Text) (body : Command)
deriving Repr

namespace Command

open Word (CommandEnd)

/-! ## Between commands -/

def skipBlanks : Text → Text
  | '\\' :: '\n' :: rest => skipBlanks rest
  | '#' :: rest => rest.dropWhile (· != '\n')
  | c :: rest => if Word.isBlank c then skipBlanks rest else c :: rest
  | [] => []

def skipLines : (fuel : Nat) → Text → Text
  | 0, text => text
  | fuel + 1, text =>
    match skipBlanks text with
    | '\n' :: rest => skipLines fuel rest
    | rest => rest

def skipAll (text : Text) : Text :=
  skipLines (text.length + 1) text

/-- The plain word that a text begins with, if it could be one of those that
have a meaning of their own, and what follows it. -/
def keyword? (text : Text) : Option (String × Text) :=
  let text := skipBlanks text
  let isPart (c : Char) : Bool := c.isAlpha || c == '!' || c == '\x7b' || c == '\x7d'
  let word := text.takeWhile isPart
  let rest := text.dropWhile isPart
  if word ≠ [] ∧ rest.head?.all (fun c => Word.isBlank c || Word.isOperator c) then
    some (String.ofList word, rest)
  else
    none

def afterReserved? (name : String) (text : Text) : Option Text :=
  match keyword? text with
  | some (word, rest) => if word = name then some rest else none
  | none => none

def closingWords : List String :=
  ["then", "else", "elif", "fi", "do", "done", "esac", "\x7d"]

def keywords : List String :=
  ["!", "\x7b", "if", "for", "while", "until", "case", "in"] ++ closingWords

def listEnds (text : Text) : Bool :=
  match skipBlanks text with
  | [] => true
  | ')' :: _ => true
  | ';' :: ';' :: _ => true
  | text =>
    match keyword? text with
    | some (word, _) => closingWords.contains word
    | none => false

/-- The text after a separator of commands, if one stands here, and whether the
command before it runs in the background. -/
def afterSeparator? (text : Text) : Option (Bool × Text) :=
  match skipBlanks text with
  | ';' :: ';' :: _ => none
  | ';' :: rest => some (false, rest)
  | '&' :: '&' :: _ => none
  | '&' :: rest => some (true, rest)
  | '\n' :: rest => some (false, rest)
  | _ => none

def separated (apart : Bool) (command : Command) : Command :=
  if apart then .background command else command

/-! ## Redirections -/

def afterLine? (commands : CommandEnd) : (fuel : Nat) → (blank : Bool) → Text → Option Text
  | 0, _, _ => none
  | fuel + 1, blank, text =>
    match text with
    | [] => none
    | '\n' :: rest => some rest
    | '\\' :: _ :: rest => afterLine? commands fuel false rest
    | '\'' :: rest => (Word.afterChar? '\'' rest).bind (afterLine? commands fuel false)
    | '"' :: rest =>
      (Word.afterQuotes? commands (rest.length + 1) rest).bind (afterLine? commands fuel false)
    | '$' :: rest =>
      (Word.afterDollar? commands false (rest.length + 1) rest).bind
        (afterLine? commands fuel false)
    | c :: rest =>
      if c == '\x60' then (Word.afterBackquote? rest).bind (afterLine? commands fuel false)
      else if c == '#' && blank then Word.afterChar? '\n' rest
      else afterLine? commands fuel (Word.isBlank c) rest

/-- The lines of a text up to one that is a given text, and what follows that
line. -/
def untilLine (stripsTabs : Bool) (delimiter : Text) : (fuel : Nat) → Text → Text × Text
  | 0, text => ([], text)
  | fuel + 1, text =>
    if text = [] then
      ([], [])
    else
      let line := text.takeWhile (· != '\n')
      let rest := text.dropWhile (· != '\n')
      let shown := if stripsTabs then line.dropWhile (· == '\t') else line
      if shown = delimiter then
        ([], rest.drop 1)
      else
        let (body, after) := untilLine stripsTabs delimiter fuel (rest.drop 1)
        (shown ++ rest.take 1 ++ body, after)

/-- A text for the input, given what follows its operator; and what follows the
word that closes it, with the text taken out. -/
def readInlineText (commands : CommandEnd) (descriptor : Nat) (stripsTabs : Bool) (text : Text) :
    Option (Redirect × Text) :=
  match Word.read commands (skipBlanks text) with
  | none => none
  | some (word, rest) =>
    let expands := !word.isQuoted
    match afterLine? commands (rest.length + 1) true rest with
    | none => some (⟨descriptor, .text [] expands⟩, rest)
    | some lines =>
      let (body, after) := untilLine stripsTabs word.rawText (lines.length + 1) lines
      some (⟨descriptor, .text body expands⟩, Word.before rest lines ++ after)

def readRedirect (commands : CommandEnd) (text : Text) : Option (Redirect × Text) :=
  let text := skipBlanks text
  let digits := text.takeWhile Char.isDigit
  let chosen (standard : Nat) : Nat := if digits = [] then standard else Word.number digits
  let onto (descriptor : Nat) (target : Word → RedirectTarget) (rest : Text) :
      Option (Redirect × Text) :=
    (Word.read commands (skipBlanks rest)).map fun (word, rest) =>
      (⟨descriptor, target word⟩, rest)
  if 1 < digits.length then
    none
  else
    match text.drop digits.length with
    | '>' :: '&' :: rest => onto (chosen 1) .duplicate rest
    | '>' :: '>' :: rest => onto (chosen 1) .append rest
    | '>' :: '|' :: rest => onto (chosen 1) (.write · true) rest
    | '>' :: rest => onto (chosen 1) (.write · false) rest
    | '<' :: '&' :: rest => onto (chosen 0) .duplicate rest
    | '<' :: '<' :: '-' :: rest => readInlineText commands (chosen 0) true rest
    | '<' :: '<' :: rest => readInlineText commands (chosen 0) false rest
    | '<' :: '>' :: rest => onto (chosen 0) .read rest
    | '<' :: rest => onto (chosen 0) .read rest
    | _ => none

def readRedirects (commands : CommandEnd) : (fuel : Nat) → Text → List Redirect × Text
  | 0, text => ([], text)
  | fuel + 1, text =>
    match readRedirect commands text with
    | none => ([], text)
    | some (redirect, rest) =>
      let (more, rest) := readRedirects commands fuel rest
      (redirect :: more, rest)

/-! ## Simple commands -/

def assignment? (word : Word) : Option (Text × Word) :=
  let name := (word.takeWhile fun part =>
    match part with
    | .literal [c] false => Word.isNameChar c
    | _ => false).flatMap fun part =>
      match part with
      | .literal text _ => text
      | _ => []
  match word.drop name.length with
  | .literal ['='] false :: value => if Word.isName name then some (name, value) else none
  | _ => none

def readSimple (commands : CommandEnd) : (fuel : Nat) → Text → List Word × List Redirect × Text
  | 0, text => ([], [], text)
  | fuel + 1, text =>
    match readRedirect commands text with
    | some (redirect, rest) =>
      let (words, redirects, rest) := readSimple commands fuel rest
      (words, redirect :: redirects, rest)
    | none =>
      match Word.read commands (skipBlanks text) with
      | some (word, rest) =>
        let (words, redirects, rest) := readSimple commands fuel rest
        (word :: words, redirects, rest)
      | none => ([], [], text)

def ofWords (words : List Word) (redirects : List Redirect) : Command :=
  let leading := words.takeWhile fun word => (assignment? word).isSome
  .simple (leading.filterMap assignment?) (words.drop leading.length) redirects

def readWords (commands : CommandEnd) : (fuel : Nat) → Text → List Word × Text
  | 0, text => ([], text)
  | fuel + 1, text =>
    match Word.read commands (skipBlanks text) with
    | some (word, rest) =>
      let (words, rest) := readWords commands fuel rest
      (word :: words, rest)
    | none => ([], text)

/-- The name of a function that is defined here, and what follows its
parentheses. -/
def functionName? (text : Text) : Option (Text × Text) :=
  let text := skipBlanks text
  let name := text.takeWhile Word.isNameChar
  if Word.isName name then
    match skipBlanks (text.drop name.length) with
    | '(' :: rest =>
      match skipBlanks rest with
      | ')' :: rest => some (name, rest)
      | _ => none
    | _ => none
  else
    none

def readPatterns (commands : CommandEnd) : (fuel : Nat) → Text → Option (List Word × Text)
  | 0, _ => none
  | fuel + 1, text =>
    match Word.read commands (skipBlanks text) with
    | none => none
    | some (pattern, rest) =>
      match skipBlanks rest with
      | '|' :: rest =>
        (readPatterns commands fuel rest).map fun (patterns, rest) => (pattern :: patterns, rest)
      | ')' :: rest => some ([pattern], rest)
      | _ => none

def skipParenthesis (text : Text) : Text :=
  match skipBlanks text with
  | '(' :: rest => rest
  | rest => rest

def closedByParenthesis : Option (Command × Text) → Option (Command × Text)
  | some (command, rest) =>
    match skipBlanks rest with
    | ')' :: rest => some (command, rest)
    | _ => none
  | none => none

def closedByWord (name : String) : Option (Command × Text) → Option (Command × Text)
  | some (command, rest) => (afterReserved? name rest).map (command, ·)
  | none => none

/-! ## Lists and compound commands -/

mutual

def readList : (fuel : Nat) → (mayBeEmpty : Bool) → Text → Option (Command × Text)
  | 0, _, _ => none
  | fuel + 1, mayBeEmpty, text =>
    let text := skipAll text
    if mayBeEmpty && listEnds text then
      some (.nothing, text)
    else
      match readAndOr fuel text with
      | none => none
      | some (first, rest) =>
        match afterSeparator? rest with
        | some (apart, rest) =>
          (readList fuel true rest).map fun (second, rest) =>
            (.sequence (separated apart first) second, rest)
        | none => if listEnds rest then some (first, rest) else none

def readAndOr : (fuel : Nat) → Text → Option (Command × Text)
  | 0, _ => none
  | fuel + 1, text =>
    match readPipeline fuel text with
    | none => none
    | some (first, rest) => readAndOrTail fuel first rest

def readAndOrTail : (fuel : Nat) → Command → Text → Option (Command × Text)
  | 0, _, _ => none
  | fuel + 1, first, text =>
    match skipBlanks text with
    | '&' :: '&' :: rest =>
      match readPipeline fuel (skipAll rest) with
      | none => none
      | some (second, rest) => readAndOrTail fuel (.both first second) rest
    | '|' :: '|' :: rest =>
      match readPipeline fuel (skipAll rest) with
      | none => none
      | some (second, rest) => readAndOrTail fuel (.either first second) rest
    | _ => some (first, text)

def readPipeline : (fuel : Nat) → Text → Option (Command × Text)
  | 0, _ => none
  | fuel + 1, text =>
    match afterReserved? "!" text with
    | some rest => (readPiped fuel rest).map fun (command, rest) => (.negated command, rest)
    | none => readPiped fuel text

def readPiped : (fuel : Nat) → Text → Option (Command × Text)
  | 0, _ => none
  | fuel + 1, text =>
    match readCommand fuel text with
    | none => none
    | some (first, rest) =>
      match skipBlanks rest with
      | '|' :: '|' :: _ => some (first, rest)
      | '|' :: after =>
        (readPiped fuel (skipAll after)).map fun (second, rest) => (.pipe first second, rest)
      | _ => some (first, rest)

def readCommand : (fuel : Nat) → Text → Option (Command × Text)
  | 0, _ => none
  | fuel + 1, text =>
    let text := skipBlanks text
    let commands : CommandEnd := fun text =>
      (closedByParenthesis (readList fuel true text)).map (·.2)
    let compound (read : Option (Command × Text)) : Option (Command × Text) :=
      match read with
      | some (command, rest) =>
        let (redirects, rest) := readRedirects commands (rest.length + 1) rest
        some (if redirects = [] then command else .redirected command redirects, rest)
      | none => none
    let ordinary : Option (Command × Text) :=
      match functionName? text with
      | some (name, rest) =>
        (readCommand fuel (skipAll rest)).map fun (body, rest) => (.define name body, rest)
      | none =>
        match readSimple commands (text.length + 1) text with
        | ([], [], _) => none
        | (words, redirects, rest) => some (ofWords words redirects, rest)
    match text with
    | '(' :: rest =>
      compound ((closedByParenthesis (readList fuel false rest)).map fun (body, rest) =>
        (.subshell body, rest))
    | _ =>
      match keyword? text with
      | some ("\x7b", rest) => compound (closedByWord "\x7d" (readList fuel false rest))
      | some ("if", rest) => compound (readCondition fuel rest)
      | some ("while", rest) => compound (readLoop fuel true rest)
      | some ("until", rest) => compound (readLoop fuel false rest)
      | some ("for", rest) => compound (readEach fuel rest)
      | some ("case", rest) => compound (readSelect fuel rest)
      | some (word, _) => if ("!" :: closingWords).contains word then none else ordinary
      | none => ordinary

def readCondition : (fuel : Nat) → Text → Option (Command × Text)
  | 0, _ => none
  | fuel + 1, text =>
    match closedByWord "then" (readList fuel false text) with
    | none => none
    | some (test, rest) =>
      match readList fuel false rest with
      | none => none
      | some (body, rest) =>
        match keyword? rest with
        | some ("elif", rest) =>
          (readCondition fuel rest).map fun (otherwise, rest) =>
            (.condition test body otherwise, rest)
        | some ("else", rest) =>
          (closedByWord "fi" (readList fuel false rest)).map fun (otherwise, rest) =>
            (.condition test body otherwise, rest)
        | some ("fi", rest) => some (.condition test body .nothing, rest)
        | _ => none

def readLoop : (fuel : Nat) → Bool → Text → Option (Command × Text)
  | 0, _, _ => none
  | fuel + 1, whileTrue, text =>
    match closedByWord "do" (readList fuel false text) with
    | none => none
    | some (test, rest) =>
      (closedByWord "done" (readList fuel false rest)).map fun (body, rest) =>
        (.loop whileTrue test body, rest)

def readEach : (fuel : Nat) → Text → Option (Command × Text)
  | 0, _ => none
  | fuel + 1, text =>
    let commands : CommandEnd := fun text =>
      (closedByParenthesis (readList fuel true text)).map (·.2)
    let text := skipBlanks text
    let name := text.takeWhile Word.isNameChar
    let rest := text.drop name.length
    if Word.isName name && rest.head?.all (fun c => Word.isBlank c || Word.isOperator c) then
      let (words, rest) : Option (List Word) × Text :=
        match afterReserved? "in" (skipAll rest) with
        | some rest =>
          let (words, rest) := readWords commands (rest.length + 1) rest
          (some words, rest)
        | none => (none, rest)
      let rest := skipAll (((afterSeparator? rest).map (·.2)).getD rest)
      match afterReserved? "do" rest with
      | none => none
      | some rest =>
        (closedByWord "done" (readList fuel false rest)).map fun (body, rest) =>
          (.each name words body, rest)
    else
      none

def readSelect : (fuel : Nat) → Text → Option (Command × Text)
  | 0, _ => none
  | fuel + 1, text =>
    let commands : CommandEnd := fun text =>
      (closedByParenthesis (readList fuel true text)).map (·.2)
    match Word.read commands (skipBlanks text) with
    | none => none
    | some (subject, rest) =>
      match afterReserved? "in" (skipAll rest) with
      | none => none
      | some rest =>
        (readBranches fuel rest).map fun (branches, rest) => (.select subject branches, rest)

def readBranches : (fuel : Nat) → Text → Option (List (List Word × Command) × Text)
  | 0, _ => none
  | fuel + 1, text =>
    let commands : CommandEnd := fun text =>
      (closedByParenthesis (readList fuel true text)).map (·.2)
    let text := skipAll text
    match afterReserved? "esac" text with
    | some rest => some ([], rest)
    | none =>
      match readPatterns commands (text.length + 1) (skipParenthesis text) with
      | none => none
      | some (patterns, rest) =>
        match readList fuel true rest with
        | none => none
        | some (body, rest) =>
          match skipBlanks rest with
          | ';' :: ';' :: rest =>
            (readBranches fuel rest).map fun (branches, rest) =>
              ((patterns, body) :: branches, rest)
          | rest =>
            (afterReserved? "esac" rest).map fun rest => ([(patterns, body)], rest)

end

/-! ## Scripts -/

def readLine : (fuel : Nat) → Text → Option (Command × Text)
  | 0, _ => none
  | fuel + 1, text =>
    match readAndOr fuel text with
    | none => none
    | some (first, rest) =>
      match skipBlanks rest with
      | [] => some (first, [])
      | '\n' :: rest => some (first, rest)
      | rest =>
        match afterSeparator? rest with
        | none => none
        | some (apart, rest) =>
          let first := separated apart first
          match skipBlanks rest with
          | [] => some (first, [])
          | '\n' :: rest => some (first, rest)
          | rest =>
            (readLine fuel rest).map fun (second, rest) => (.sequence first second, rest)

def depthBound (text : Text) : Nat :=
  8 * text.length + 16

def afterCommands (text : Text) : Option Text :=
  (closedByParenthesis (readList (depthBound text) true text)).map (·.2)

/-- The next complete command of a script.  The outer `none` stands for the
end of the script, the inner for a mistake. -/
def readNext (text : Text) : Option (Option (Command × Text)) :=
  match skipAll text with
  | [] => none
  | text => some (readLine (depthBound text) text)

end Command

end AppLauncher.Shell
