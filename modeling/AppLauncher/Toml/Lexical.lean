/-!
# Characters and gaps

The character classes of the document format, and the stretches of blanks,
line ends and comments that may stand between its parts.
-/

namespace AppLauncher.Toml

/-- A reader takes something from the start of a text, or refuses. -/
abbrev Reader (α : Type) := List Char → Option (α × List Char)

def isSpace (c : Char) : Bool :=
  c == ' ' || c == '\t'

/-- A character that may stand for itself in a string or a comment: no control
character but the tab. -/
def isPlain (c : Char) : Bool :=
  c == '\t' || (0x20 ≤ c.toNat && c.toNat != 0x7F)

def isBare (c : Char) : Bool :=
  c.isAlphanum || c == '_' || c == '-'

/-- A character of an unquoted scalar: none that separates parts of a document. -/
def isScalar (c : Char) : Bool :=
  !(isSpace c || c == '\r' || c == '\n' || c == '#' || c == '=' || c == ','
    || c == '[' || c == ']' || c == '{' || c == '}')

def digitValue (c : Char) : Nat :=
  if c.isDigit then c.toNat - '0'.toNat
  else if c.isLower then c.toNat - 'a'.toNat + 10
  else c.toNat - 'A'.toNat + 10

def isHexDigit (c : Char) : Bool :=
  c.isDigit || ('a' ≤ c && c ≤ 'f') || ('A' ≤ c && c ≤ 'F')

def skipSpaces (text : List Char) : List Char :=
  text.dropWhile isSpace

def afterLineEnd? : List Char → Option (List Char)
  | '\n' :: rest => some rest
  | '\r' :: '\n' :: rest => some rest
  | _ => none

def skipComment : List Char → List Char
  | '#' :: rest => rest.dropWhile isPlain
  | text => text

theorem length_dropWhile_le {α : Type} (p : α → Bool) (items : List α) :
    (items.dropWhile p).length ≤ items.length :=
  (List.dropWhile_suffix p).length_le

def skipGap : List Char → List Char
  | [] => []
  | c :: rest =>
    if isSpace c || c == '\n' then
      skipGap rest
    else if c == '\r' then
      match rest with
      | '\n' :: after => skipGap after
      | _ => c :: rest
    else if c == '#' then
      skipGap (rest.dropWhile isPlain)
    else
      c :: rest
termination_by text => text.length
decreasing_by
  · simp
  · simp only [List.length_cons]
    omega
  · have := length_dropWhile_le isPlain rest
    simp only [List.length_cons]
    omega

end AppLauncher.Toml
