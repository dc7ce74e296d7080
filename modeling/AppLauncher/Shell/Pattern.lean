import AppLauncher.Shell.Word

/-!
# Patterns

A pattern matches a whole text.  An asterisk stands for any text, a question
mark for any character, a list in brackets for one of its characters; a
backslash takes the meaning from what follows it, and so does quotation.
-/

namespace AppLauncher.Shell

structure Letter where
  character : Char
  quoted : Bool
deriving DecidableEq, Repr

def Text.letters (quoted : Bool) (text : Text) : List Letter :=
  text.map (⟨·, quoted⟩)

def plain (letters : List Letter) : Text :=
  letters.map (·.character)

inductive CharacterClass where
  | alphabetic
  | digit
  | alphanumeric
  | upper
  | lower
  | space
  | blank
  | punctuation
  | printable
  | visible
  | control
  | hexadecimal
deriving DecidableEq, Repr

namespace CharacterClass

def isPrintable (c : Char) : Bool :=
  0x20 ≤ c.toNat && c.toNat < 0x7F

def contains (c : Char) : CharacterClass → Bool
  | alphabetic => c.isAlpha
  | digit => c.isDigit
  | alphanumeric => c.isAlphanum
  | upper => c.isUpper
  | lower => c.isLower
  | space => c == ' ' || (0x09 ≤ c.toNat && c.toNat ≤ 0x0D)
  | blank => c == ' ' || c == '\t'
  | punctuation => isPrintable c && c != ' ' && !c.isAlphanum
  | printable => isPrintable c
  | visible => isPrintable c && c != ' '
  | control => c.toNat < 0x20 || c.toNat == 0x7F
  | hexadecimal => c.isDigit || ('a' ≤ c && c ≤ 'f') || ('A' ≤ c && c ≤ 'F')

def byName : List (String × CharacterClass) :=
  [("alpha", alphabetic), ("digit", digit), ("alnum", alphanumeric), ("upper", upper),
   ("lower", lower), ("space", space), ("blank", blank), ("punct", punctuation),
   ("print", printable), ("graph", visible), ("cntrl", control), ("xdigit", hexadecimal)]

def ofName? (name : Text) : Option CharacterClass :=
  byName.lookup (String.ofList name)

end CharacterClass

inductive Member where
  | range (low high : Char)
  | ofClass (characters : CharacterClass)
deriving DecidableEq, Repr

def Member.contains (member : Member) (c : Char) : Bool :=
  match member with
  | range low high => low ≤ c && c ≤ high
  | ofClass characters => characters.contains c

structure CharacterSet where
  negated : Bool
  members : List Member
deriving DecidableEq, Repr

def CharacterSet.contains (set : CharacterSet) (c : Char) : Bool :=
  set.members.any (·.contains c) != set.negated

inductive Wildcard where
  | anything
  | anyone
  | oneOf (set : CharacterSet)
  | exactly (c : Char)
deriving DecidableEq, Repr

abbrev Pattern := List Wildcard

namespace Pattern

def isBare (letter : Letter) (c : Char) : Bool :=
  letter.character == c && !letter.quoted

def className? : List Letter → Option (Text × List Letter)
  | [] => none
  | [_] => none
  | first :: second :: rest =>
    if first.character == ':' && second.character == ']' then
      some ([], rest)
    else
      (className? (second :: rest)).map fun (name, rest) => (first.character :: name, rest)

def members? : (fuel : Nat) → (first : Bool) → List Letter → Option (List Member × List Letter)
  | 0, _, _ => none
  | fuel + 1, first, letters =>
    let followed (member : Member) (rest : List Letter) : Option (List Member × List Letter) :=
      (members? fuel false rest).map fun (members, rest) => (member :: members, rest)
    match letters with
    | [] => none
    | letter :: rest =>
      if isBare letter ']' && !first then
        some ([], rest)
      else
        let named := match rest with
          | colon :: more =>
            if isBare letter '[' && isBare colon ':' then className? more else none
          | [] => none
        match named with
        | some (name, rest) =>
          match CharacterClass.ofName? name with
          | some characters => followed (.ofClass characters) rest
          | none => none
        | none =>
          let (low, rest) := match letter, rest with
            | ⟨'\\', false⟩, hidden :: more => (hidden.character, more)
            | letter, rest => (letter.character, rest)
          match rest with
          | dash :: high :: more =>
            if isBare dash '-' && !isBare high ']' then
              followed (.range low high.character) more
            else
              followed (.range low low) rest
          | rest => followed (.range low low) rest

def set? (letters : List Letter) : Option (CharacterSet × List Letter) :=
  let (negated, letters) := match letters with
    | ⟨'!', false⟩ :: rest => (true, rest)
    | ⟨'^', false⟩ :: rest => (true, rest)
    | letters => (false, letters)
  (members? (letters.length + 1) true letters).map fun (members, rest) =>
    (⟨negated, members⟩, rest)

def read : (fuel : Nat) → List Letter → Pattern
  | 0, _ => []
  | fuel + 1, letters =>
    match letters with
    | [] => []
    | ⟨'*', false⟩ :: rest => .anything :: read fuel rest
    | ⟨'?', false⟩ :: rest => .anyone :: read fuel rest
    | ⟨'\\', false⟩ :: hidden :: rest => .exactly hidden.character :: read fuel rest
    | ⟨'[', false⟩ :: rest =>
      match set? rest with
      | some (set, rest) => .oneOf set :: read fuel rest
      | none => .exactly '[' :: read fuel rest
    | letter :: rest => .exactly letter.character :: read fuel rest

def ofLetters (letters : List Letter) : Pattern :=
  read (letters.length + 1) letters

def accepts : Pattern → Text → Bool
  | [], text => text == []
  | .anything :: pattern, [] => accepts pattern []
  | .anything :: pattern, c :: rest =>
    accepts pattern (c :: rest) || accepts (.anything :: pattern) rest
  | .anyone :: pattern, _ :: rest => accepts pattern rest
  | .oneOf set :: pattern, c :: rest => set.contains c && accepts pattern rest
  | .exactly expected :: pattern, c :: rest => expected == c && accepts pattern rest
  | _ :: _, [] => false
termination_by pattern text => (pattern.length, text.length)

/-- A text without a start that matches a pattern, the shortest or the longest;
the whole text if there is none. -/
def dropStart (pattern : Pattern) (longest : Bool) (text : Text) : Text :=
  let counts := List.range (text.length + 1)
  let counts := if longest then counts.reverse else counts
  match counts.find? fun count => pattern.accepts (text.take count) with
  | some count => text.drop count
  | none => text

def dropEnd (pattern : Pattern) (longest : Bool) (text : Text) : Text :=
  let counts := List.range (text.length + 1)
  let counts := if longest then counts else counts.reverse
  match counts.find? fun count => pattern.accepts (text.drop count) with
  | some count => text.take count
  | none => text

end Pattern

end AppLauncher.Shell
