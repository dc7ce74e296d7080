import AppLauncher.Toml.Lexical

/-!
# Writing quoted strings

Of the four forms the first one that shows the text without escapes is taken:
basic on one line, literal on one line, basic over several lines, literal over
several lines.  Where none does, the text is escaped, over several lines if it
has line feeds.  The forms over several lines begin with a line feed of their
own when the text has one, so that its lines stand below each other.
-/

namespace AppLauncher.Toml.Quoted

/-- A control character that no form shows as it is: neither tab nor line feed. -/
def isControl (c : Char) : Bool :=
  !isPlain c && c != '\n'

def longestRun (mark : Char) (text : List Char) : Nat :=
  go 0 0 text
where
  /-- The longest run, given the longest so far and the one that is open. -/
  go (longest current : Nat) : List Char → Nat
    | [] => max longest current
    | c :: rest =>
      if c == mark then go longest (current + 1) rest
      else go (max longest current) 0 rest

inductive Form where
  | basic
  | literal
  | longBasic
  | longLiteral
deriving DecidableEq, Repr

def formOf (text : List Char) : Form :=
  let control := text.any isControl
  let backslash := text.contains '\\'
  let lines := text.contains '\n'
  let marks := longestRun '"' text
  let apostrophes := longestRun '\'' text
  if !control && !backslash && !lines && marks == 0 then .basic
  else if !control && !lines && apostrophes == 0 then .literal
  else if !control && !backslash && marks ≤ 2 then .longBasic
  else if !control && apostrophes ≤ 2 then .longLiteral
  else if lines then .longBasic
  else .basic

def hexQuad (number : Nat) : List Char :=
  let digit (value : Nat) : Char :=
    if value < 10 then Char.ofNat ('0'.toNat + value) else Char.ofNat ('A'.toNat + value - 10)
  [digit (number / 4096 % 16), digit (number / 256 % 16),
   digit (number / 16 % 16), digit (number % 16)]

/-- A character inside a basic string, apart from quotation marks and line
feeds. -/
def writeChar (c : Char) : List Char :=
  match c with
  | '\x08' => ['\\', 'b']
  | '\t' => ['\\', 't']
  | '\x0C' => ['\\', 'f']
  | '\r' => ['\\', 'r']
  | '\\' => ['\\', '\\']
  | c => if isPlain c then [c] else '\\' :: 'u' :: hexQuad c.toNat

def writeBasic : List Char → List Char
  | [] => []
  | '"' :: rest => '\\' :: '"' :: writeBasic rest
  | '\n' :: rest => '\\' :: 'n' :: writeBasic rest
  | c :: rest => writeChar c ++ writeBasic rest

/-- The inside of a basic string over several lines.  The third of a run of
quotation marks is escaped, and the count starts afresh. -/
def writeLongBasic (run : Nat) : List Char → List Char
  | [] => []
  | '"' :: rest =>
    if run = 2 then '\\' :: '"' :: writeLongBasic 0 rest
    else '"' :: writeLongBasic (run + 1) rest
  | '\n' :: rest => '\n' :: writeLongBasic 0 rest
  | c :: rest => writeChar c ++ writeLongBasic 0 rest

/-- The line feed that opens a form over several lines if the text has one. -/
def firstLine (text : List Char) : List Char :=
  if text.contains '\n' then ['\n'] else []

def write (text : List Char) : List Char :=
  match formOf text with
  | .basic => '"' :: (writeBasic text ++ ['"'])
  | .literal => '\'' :: (text ++ ['\''])
  | .longBasic =>
    ['"', '"', '"'] ++ firstLine text ++ writeLongBasic 0 text ++ ['"', '"', '"']
  | .longLiteral =>
    ['\'', '\'', '\''] ++ firstLine text ++ text ++ ['\'', '\'', '\'']

end AppLauncher.Toml.Quoted
