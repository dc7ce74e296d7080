import AppLauncher.Shell.Pattern

/-!
# Fields

A word gives rise to any number of fields.  Quoted values stay whole; others
are split at separators, and a value without any text gives no field at all.
Blank separators count as one however many there are; every other separator
ends a field of its own, with the blanks around it.
-/

namespace AppLauncher.Shell

def standardSeparators : Text := [' ', '\t', '\n']

/-- The fields that a word has given so far, from the last one and the last
letter of each. -/
structure Fields where
  complete : List (List Letter) := []
  current : Option (List Letter) := none
  spaced : Bool := false

namespace Fields

def push (fields : Fields) (letter : Letter) : Fields :=
  { fields with current := some (letter :: fields.current.getD []), spaced := false }

/-- The fields with a text added to the open one, which is opened even by an
empty text. -/
def extend (fields : Fields) (quoted : Bool) (text : Text) : Fields :=
  (text.letters quoted).foldl push
    { fields with current := some (fields.current.getD []), spaced := false }

def close (fields : Fields) : Fields :=
  match fields.current with
  | none => fields
  | some letters => { complete := letters :: fields.complete, current := none, spaced := false }

def afterBlank (fields : Fields) : Fields :=
  match fields.current with
  | none => fields
  | some _ => { fields.close with spaced := true }

def afterSeparator (fields : Fields) : Fields :=
  if fields.current.isNone && fields.spaced then
    { fields with spaced := false }
  else
    ({ fields with current := some (fields.current.getD []) }).close

def split (fields : Fields) (separators value : Text) : Fields :=
  value.foldl
    (fun fields c =>
      if !separators.contains c then fields.push ⟨c, false⟩
      else if standardSeparators.contains c then fields.afterBlank
      else fields.afterSeparator)
    fields

def toList (fields : Fields) : List (List Letter) :=
  (fields.close.complete.map List.reverse).reverse

end Fields

/-! ## Lines of input -/

/-- A letter of a line that was hidden by a backslash separates nothing. -/
def separates (separators : Text) (letter : Letter) : Bool :=
  !letter.quoted && separators.contains letter.character

def separatesAsBlank (separators : Text) (letter : Letter) : Bool :=
  separates separators letter && standardSeparators.contains letter.character

/-- The first field of a line without blanks at its start, and the line after
the separator that ends the field. -/
def firstField (separators : Text) (line : List Letter) : List Letter × List Letter :=
  let field := line.takeWhile (!separates separators ·)
  let rest := (line.drop field.length).dropWhile (separatesAsBlank separators)
  match rest with
  | letter :: after =>
    if separates separators letter then
      (field, after.dropWhile (separatesAsBlank separators))
    else
      (field, rest)
  | [] => (field, [])

def trimEnd (separators : Text) (line : List Letter) : List Letter :=
  (line.reverse.dropWhile (separatesAsBlank separators)).reverse

/-- The fields of a line, at most as many as are wanted.  The last one takes all
that is left, without the separator at its end if that is the only one. -/
def lineFields (separators : Text) : (count : Nat) → List Letter → List Text
  | 0, _ => []
  | 1, line =>
    let (field, rest) := firstField separators line
    if rest = [] then [plain field] else [plain (trimEnd separators line)]
  | count + 1, line =>
    let (field, rest) := firstField separators line
    plain field :: lineFields separators count rest

end AppLauncher.Shell
