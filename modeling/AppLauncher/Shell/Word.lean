import AppLauncher.Bytes

/-!
# Words of the command language

A script is read byte for byte, each byte as one character.  A word is a
sequence of parts: literal text, parameters, commands whose output is
inserted, and arithmetic.  Parts inside quotation marks are not split into
fields.

Where commands stand inside a word, only their end matters here.  It is found
by a function that the readers of words are given.
-/

namespace AppLauncher.Shell

/-- Text of a script or an argument, one character for each byte. -/
abbrev Text := List Char

def Text.ofBytes (bytes : Bytes) : Text :=
  bytes.map fun byte => Char.ofNat byte.toNat

def Text.toBytes (text : Text) : Bytes :=
  text.map fun c => UInt8.ofNat c.toNat

def Text.ofString (text : String) : Text :=
  Text.ofBytes (Bytes.ofText text)

def Text.ofNat (n : Nat) : Text :=
  (toString n).toList

inductive Parameter where
  | named (name : Text)
  | position (index : Nat)
  /-- All arguments, each a field of its own when quoted. -/
  | each
  | joined
  | count
  | status
  | process
  | background
  | options
deriving DecidableEq, Repr

/-- What is done with the value of a parameter in braces.  The flag tells
whether an empty value counts as none. -/
inductive Change where
  | orElse (emptyToo : Bool)
  | orAssign (emptyToo : Bool)
  | orFail (emptyToo : Bool)
  | ifSet (emptyToo : Bool)
  | withoutStart (longest : Bool)
  | withoutEnd (longest : Bool)
  | length
deriving DecidableEq, Repr

def Change.takesPattern : Change → Bool
  | .withoutStart _ | .withoutEnd _ => true
  | _ => false

inductive Part where
  | literal (text : Text) (quoted : Bool)
  | parameter (parameter : Parameter) (quoted : Bool)
  | changed (parameter : Parameter) (change : Change) (operand : Text) (quoted : Bool)
  | output (source : Text) (quoted : Bool)
  | arithmetic (source : Text) (quoted : Bool)
  /-- Braces that make no sense. -/
  | senseless
deriving DecidableEq, Repr

def Part.isQuoted : Part → Bool
  | .literal _ quoted => quoted
  | .parameter _ quoted => quoted
  | .changed _ _ _ quoted => quoted
  | .output _ quoted => quoted
  | .arithmetic _ quoted => quoted
  | .senseless => false

abbrev Word := List Part

namespace Word

def isBlank (c : Char) : Bool :=
  c == ' ' || c == '\t'

def isOperator (c : Char) : Bool :=
  c == '\n' || c == ';' || c == '&' || c == '|' || c == '<' || c == '>' || c == '('
    || c == ')'

def startsName (c : Char) : Bool :=
  c.isAlpha || c == '_'

def isNameChar (c : Char) : Bool :=
  c.isAlphanum || c == '_'

def isName (text : Text) : Bool :=
  text.head?.any startsName && text.all isNameChar

def number (digits : Text) : Nat :=
  digits.foldl (fun value c => value * 10 + (c.toNat - '0'.toNat)) 0

/-! ## Where constructs end -/

/-- The end of commands: the text after them and the parenthesis that closes
them. -/
abbrev CommandEnd := Text → Option Text

def before (text rest : Text) : Text :=
  text.take (text.length - rest.length)

def afterChar? (c : Char) (text : Text) : Option Text :=
  match text.dropWhile (· != c) with
  | _ :: rest => some rest
  | [] => none

def afterBackquote? : Text → Option Text
  | [] => none
  | '\\' :: _ :: rest => afterBackquote? rest
  | c :: rest => if c == '\x60' then some rest else afterBackquote? rest

mutual

/-- The text after the brace that closes an open one.  Apostrophes do not quote
where the braces stand in quotation marks. -/
def afterBrace? (commands : CommandEnd) (quoted : Bool) : (fuel : Nat) → Text → Option Text
  | 0, _ => none
  | fuel + 1, text =>
    match text with
    | [] => none
    | '\x7d' :: rest => some rest
    | '\\' :: _ :: rest => afterBrace? commands quoted fuel rest
    | '"' :: rest =>
      (afterQuotes? commands fuel rest).bind (afterBrace? commands quoted fuel)
    | '$' :: rest =>
      (afterDollar? commands quoted fuel rest).bind (afterBrace? commands quoted fuel)
    | c :: rest =>
      if c == '\'' && !quoted then
        (afterChar? '\'' rest).bind (afterBrace? commands quoted fuel)
      else if c == '\x60' then
        (afterBackquote? rest).bind (afterBrace? commands quoted fuel)
      else
        afterBrace? commands quoted fuel rest

def afterQuotes? (commands : CommandEnd) : (fuel : Nat) → Text → Option Text
  | 0, _ => none
  | fuel + 1, text =>
    match text with
    | [] => none
    | '"' :: rest => some rest
    | '\\' :: _ :: rest => afterQuotes? commands fuel rest
    | '$' :: rest =>
      (afterDollar? commands true fuel rest).bind (afterQuotes? commands fuel)
    | c :: rest =>
      if c == '\x60' then (afterBackquote? rest).bind (afterQuotes? commands fuel)
      else afterQuotes? commands fuel rest

/-- The text after two parentheses that close an arithmetic expression, in
which so many are open. -/
def afterArithmetic? (commands : CommandEnd) : (fuel : Nat) → (depth : Nat) → Text →
    Option Text
  | 0, _, _ => none
  | fuel + 1, depth, text =>
    match text with
    | [] => none
    | '(' :: rest => afterArithmetic? commands fuel (depth + 1) rest
    | ')' :: rest =>
      match depth, rest with
      | depth + 1, _ => afterArithmetic? commands fuel depth rest
      | 0, ')' :: after => some after
      | 0, _ => afterArithmetic? commands fuel 0 rest
    | '$' :: rest =>
      (afterDollar? commands true fuel rest).bind (afterArithmetic? commands fuel depth)
    | c :: rest =>
      if c == '\x60' then (afterBackquote? rest).bind (afterArithmetic? commands fuel depth)
      else afterArithmetic? commands fuel depth rest

def afterDollar? (commands : CommandEnd) (quoted : Bool) : (fuel : Nat) → Text → Option Text
  | 0, _ => none
  | fuel + 1, text =>
    match text with
    | '\x7b' :: rest => afterBrace? commands quoted fuel rest
    | '(' :: '(' :: rest => afterArithmetic? commands fuel 0 rest
    | '(' :: rest => commands rest
    | _ => some text

end

/-! ## Parameters in braces -/

def parameterOf? (name : Text) : Option Parameter :=
  match name with
  | ['@'] => some .each
  | ['*'] => some .joined
  | ['#'] => some .count
  | ['?'] => some .status
  | ['$'] => some .process
  | ['!'] => some .background
  | ['-'] => some .options
  | _ =>
    if name.all Char.isDigit && name ≠ [] then some (.position (number name))
    else if isName name then some (.named name)
    else none

def leadingName (text : Text) : Text :=
  match text with
  | [] => []
  | c :: _ =>
    if startsName c then text.takeWhile isNameChar
    else if c.isDigit then text.takeWhile Char.isDigit
    else [c]

def readChange : Text → Option (Change × Text)
  | ':' :: '-' :: operand => some (.orElse true, operand)
  | '-' :: operand => some (.orElse false, operand)
  | ':' :: '=' :: operand => some (.orAssign true, operand)
  | '=' :: operand => some (.orAssign false, operand)
  | ':' :: '?' :: operand => some (.orFail true, operand)
  | '?' :: operand => some (.orFail false, operand)
  | ':' :: '+' :: operand => some (.ifSet true, operand)
  | '+' :: operand => some (.ifSet false, operand)
  | '#' :: '#' :: operand => some (.withoutStart true, operand)
  | '#' :: operand => some (.withoutStart false, operand)
  | '%' :: '%' :: operand => some (.withoutEnd true, operand)
  | '%' :: operand => some (.withoutEnd false, operand)
  | _ => none

def readBraced (commands : CommandEnd) (quoted : Bool) (text : Text) : Option (Part × Text) :=
  let fuel := text.length + 1
  let senseless : Option (Part × Text) :=
    (afterBrace? commands quoted fuel text).map (.senseless, ·)
  let ofName (name rest : Text) : Option (Part × Text) :=
    match parameterOf? name, rest with
    | none, _ => senseless
    | some parameter, '\x7d' :: rest => some (.parameter parameter quoted, rest)
    | some parameter, rest =>
      match readChange rest with
      | none => senseless
      | some (change, rest) =>
        (afterBrace? commands (quoted && !change.takesPattern) fuel rest).map fun after =>
          (.changed parameter change (before rest after).dropLast quoted, after)
  match text with
  | '#' :: rest =>
    let name := leadingName rest
    match parameterOf? name, rest.drop name.length with
    | some parameter, '\x7d' :: after =>
      some (.changed parameter .length [] quoted, after)
    | _, _ => ofName ['#'] rest
  | _ =>
    let name := leadingName text
    ofName name (text.drop name.length)

def readDollar (commands : CommandEnd) (quoted : Bool) (text : Text) : Option (Part × Text) :=
  match text with
  | '(' :: '(' :: rest =>
    (afterArithmetic? commands (rest.length + 1) 0 rest).map fun after =>
      (.arithmetic (before rest after).dropLast.dropLast quoted, after)
  | '(' :: rest =>
    (commands rest).map fun after => (.output (before rest after).dropLast quoted, after)
  | '\x7b' :: rest => readBraced commands quoted rest
  | c :: rest =>
    if c.isDigit then
      some (.parameter (.position (number [c])) quoted, rest)
    else if startsName c then
      some (.parameter (.named (text.takeWhile isNameChar)) quoted,
        text.dropWhile isNameChar)
    else
      match parameterOf? [c] with
      | some parameter => some (.parameter parameter quoted, rest)
      | none => some (.literal ['$'] quoted, text)
  | [] => some (.literal ['$'] quoted, [])

/-- The source of a command between back quotes, whose backslashes hide only
some characters. -/
def unhide (quoted : Bool) : Text → Text
  | '\\' :: c :: rest =>
    if c == '\x60' || c == '\\' || c == '$' || (quoted && c == '"') then c :: unhide quoted rest
    else '\\' :: c :: unhide quoted rest
  | c :: rest => c :: unhide quoted rest
  | [] => []

def readBackquoted (quoted : Bool) (text : Text) : Option (Part × Text) :=
  (afterBackquote? text).map fun after =>
    (.output (unhide quoted (before text after).dropLast) quoted, after)

/-! ## Parts -/

inductive Quotation where
  /-- Between quotation marks; the closing one ends it. -/
  | marks
  /-- The operand of a change between quotation marks, or arithmetic. -/
  | operand
  /-- A text that stands by itself after a command. -/
  | lines
deriving DecidableEq, Repr

def Quotation.hides (quotation : Quotation) (c : Char) : Bool :=
  c == '$' || c == '\x60' || c == '\\' || (c == '"' && quotation != .lines)
    || (c == '\x7d' && quotation == .operand)

/-- The parts of a quoted text after those that were read before, which stand
in reverse. -/
def readQuoted (commands : CommandEnd) (quotation : Quotation) : (fuel : Nat) → Word → Text →
    Option (Word × Text)
  | 0, _, _ => none
  | fuel + 1, known, text =>
    match text with
    | [] => if quotation = .marks then none else some (known.reverse, [])
    | '\\' :: c :: rest =>
      if c == '\n' then readQuoted commands quotation fuel known rest
      else if quotation.hides c then
        readQuoted commands quotation fuel (.literal [c] true :: known) rest
      else
        readQuoted commands quotation fuel (.literal ['\\', c] true :: known) rest
    | '$' :: rest =>
      match readDollar commands true rest with
      | none => none
      | some (part, rest) => readQuoted commands quotation fuel (part :: known) rest
    | c :: rest =>
      if c == '\x60' then
        match readBackquoted true rest with
        | none => none
        | some (part, rest) => readQuoted commands quotation fuel (part :: known) rest
      else if c == '"' && quotation == .marks then
        some (known.reverse, rest)
      else if c == '"' && quotation == .operand then
        readQuoted commands quotation fuel known rest
      else
        readQuoted commands quotation fuel (.literal [c] true :: known) rest

/-- The parts that stand for what was quoted.  Quotation makes a field even of
nothing, except around the list of all arguments. -/
def quotedParts (inside : Word) : Word :=
  if inside = [.parameter .each true] then inside else .literal [] true :: inside

/-- The parts of a word after those that were read before, which stand in
reverse, up to a blank or an operator unless the whole text is meant. -/
def readParts (commands : CommandEnd) (whole : Bool) : (fuel : Nat) → Word → Text →
    Option (Word × Text)
  | 0, _, _ => none
  | fuel + 1, known, text =>
    match text with
    | [] => some (known.reverse, [])
    | '\'' :: rest =>
      match afterChar? '\'' rest with
      | some after =>
        readParts commands whole fuel (.literal (before rest after).dropLast true :: known) after
      | none => none
    | '"' :: rest =>
      match readQuoted commands .marks fuel [] rest with
      | none => none
      | some (inside, rest) =>
        readParts commands whole fuel ((quotedParts inside).reverse ++ known) rest
    | '\\' :: '\n' :: rest => readParts commands whole fuel known rest
    | '\\' :: c :: rest => readParts commands whole fuel (.literal [c] true :: known) rest
    | '$' :: rest =>
      match readDollar commands false rest with
      | none => none
      | some (part, rest) => readParts commands whole fuel (part :: known) rest
    | c :: rest =>
      if c == '\x60' then
        match readBackquoted false rest with
        | none => none
        | some (part, rest) => readParts commands whole fuel (part :: known) rest
      else if !whole && (isBlank c || isOperator c) then
        some (known.reverse, text)
      else
        readParts commands whole fuel (.literal [c] false :: known) rest

def read (commands : CommandEnd) (text : Text) : Option (Word × Text) :=
  match readParts commands false (text.length + 1) [] text with
  | some ([], _) => none
  | result => result

def ofOperand? (commands : CommandEnd) (operand : Text) : Option Word :=
  (readParts commands true (operand.length + 1) [] operand).map (·.1)

def ofQuoted? (commands : CommandEnd) (quotation : Quotation) (text : Text) : Option Word :=
  (readQuoted commands quotation (text.length + 1) [] text).map (·.1)

def plainText? (word : Word) : Option Text :=
  word.foldr
    (fun part text =>
      match part, text with
      | .literal piece false, some text => some (piece ++ text)
      | _, _ => none)
    (some [])

def rawText (word : Word) : Text :=
  word.flatMap fun part =>
    match part with
    | .literal text _ => text
    | .parameter (.named name) _ => '$' :: name
    | _ => []

def isQuoted (word : Word) : Bool :=
  word.any Part.isQuoted

end Word

end AppLauncher.Shell
