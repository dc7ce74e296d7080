import AppLauncher.Toml.Moment
import AppLauncher.Toml.Number
import AppLauncher.Toml.Quoted

/-!
# Expressions

The parts of a document's text: keys, values, and the statements that a
document is a list of.  Values may be nested up to a limit, and so may keys.
Tables between braces are put together with the rules for dotted keys.
-/

namespace AppLauncher.Toml

/-- The greatest depth of nested values, and the greatest number of parts of a
key. -/
def nestingLimit : Nat := 80

structure Key where
  name : String
  position : Place
deriving DecidableEq, Repr

/-! ## Keys -/

def readKey (text : List Char) : Option (Key × List Char) :=
  let bare := text.takeWhile isBare
  if bare ≠ [] then
    some (⟨String.ofList bare, text⟩, text.dropWhile isBare)
  else
    (Quoted.readShort text).map fun (name, rest) => (⟨String.ofList name, text⟩, rest)

def readKeyTail : (limit : Nat) → Reader (List Key)
  | limit, text =>
    match skipSpaces text with
    | '.' :: rest =>
      match limit with
      | 0 => none
      | limit + 1 =>
        match readKey (skipSpaces rest) with
        | none => none
        | some (key, rest) =>
          (readKeyTail limit rest).map fun (keys, rest) => (key :: keys, rest)
    | rest => some ([], rest)

/-- A dotted key: all parts but the last, and the last.  Blanks may stand
around the points and after the key. -/
def readKeyPath (text : List Char) : Option ((List Key × Key) × List Char) :=
  match readKey text with
  | none => none
  | some (first, rest) =>
    (readKeyTail (nestingLimit - 1) rest).map fun (more, rest) =>
      (((first :: more).dropLast, (first :: more).getLast (by simp)), rest)

/-! ## Putting tables together -/

/-- The entries with those below a path changed.  Tables that are missing on
the way are made.  A path made of headers may pass through every table that is
not closed, and through the last table of an array that grows; a dotted key
only through tables that no header of their own has defined. -/
def changeAt (byDots : Bool)
    (change : TableOrigin → List Entry → Option (List Entry)) :
    List Key → TableOrigin → List Entry → Option (List Entry)
  | [], origin, entries => change origin entries
  | key :: path, _, entries =>
    match lookup key.name entries with
    | none =>
      let origin : TableOrigin := if byDots then .dotted else .implied
      (changeAt byDots change path origin []).map fun inner =>
        insert (.mk key.name key.position (.mk key.position (.table origin inner))) entries
    | some (.mk position (.table origin inner)) =>
      if origin = .inline ∨ (byDots ∧ origin = .header) then
        none
      else
        (changeAt byDots change path origin inner).map fun inner =>
          insert (.mk key.name key.position (.mk position (.table origin inner))) entries
    | some (.mk position (.grown (.mk itemPosition (.table origin inner) :: earlier))) =>
      (changeAt byDots change path origin inner).map fun inner =>
        let item := Node.mk itemPosition (.table origin inner)
        insert (.mk key.name key.position (.mk position (.grown (item :: earlier)))) entries
    | some _ => none

/-- The entries of a table with a key bound in it.  A key is bound once, and a
table made by dotted keys takes further keys only through dotted keys. -/
def define (path : List Key) (key : Key) (node : Node) (entries : List Entry) :
    Option (List Entry) :=
  changeAt true
    (fun origin entries =>
      if (origin == .dotted) == path.isEmpty then none
      else if (lookup key.name entries).isSome then none
      else some (insert (.mk key.name key.position node) entries))
    path .header entries

structure Assignment where
  path : List Key
  key : Key
  node : Node

def defineAll (assignments : List Assignment) (entries : List Entry) :
    Option (List Entry) :=
  assignments.foldlM (fun entries a => define a.path a.key a.node entries) entries

/-! ## Values -/

def scalar? (text : List Char) : Option Value :=
  if text = ['t', 'r', 'u', 'e'] then some (.boolean true)
  else if text = ['f', 'a', 'l', 's', 'e'] then some (.boolean false)
  else if Moment.accepts text then some .moment
  else
    match Number.integer? text with
    | some value => some (.integer value)
    | none => (Number.float? text).map .float

/-- An unquoted scalar.  A blank between a date and a time belongs to it. -/
def readScalar (text : List Char) : Option (Value × List Char) :=
  let word := text.takeWhile isScalar
  let rest := text.dropWhile isScalar
  match rest with
  | ' ' :: next :: after =>
    if next.isDigit ∧ Moment.afterDate? word = some [] then
      let time := (next :: after).takeWhile isScalar
      (scalar? (word ++ ' ' :: time)).map (·, (next :: after).dropWhile isScalar)
    else
      (scalar? word).map (·, rest)
  | _ => (scalar? word).map (·, rest)

def readItems (item : Reader Node) : (fuel : Nat) → Reader (List Node)
  | 0, _ => none
  | fuel + 1, text =>
    match skipGap text with
    | ']' :: rest => some ([], rest)
    | text =>
      match item text with
      | none => none
      | some (node, rest) =>
        match skipGap rest with
        | ',' :: rest =>
          (readItems item fuel rest).map fun (nodes, rest) => (node :: nodes, rest)
        | ']' :: rest => some ([node], rest)
        | _ => none

/-- A key, the sign of equality, and a value, with what may stand around the
sign given by how it is skipped. -/
def readAssignment (skip : List Char → List Char) (item : Reader Node) (text : List Char) :
    Option (Assignment × List Char) :=
  match readKeyPath text with
  | none => none
  | some ((path, key), rest) =>
    match skip rest with
    | '=' :: rest => (item (skip rest)).map fun (node, rest) => (⟨path, key, node⟩, rest)
    | _ => none

def readAssignments (item : Reader Node) : (fuel : Nat) → Reader (List Assignment)
  | 0, _ => none
  | fuel + 1, text =>
    match skipGap text with
    | '}' :: rest => some ([], rest)
    | text =>
      match readAssignment skipGap item text with
      | none => none
      | some (assignment, rest) =>
        match skipGap rest with
        | ',' :: rest =>
          (readAssignments item fuel rest).map fun (more, rest) =>
            (assignment :: more, rest)
        | '}' :: rest => some ([assignment], rest)
        | _ => none

/-- A value that is nested at most `depth` deep, in a text of at most `size`
characters. -/
def readNode (size : Nat) : (depth : Nat) → Reader Node
  | depth, text =>
    let located (value : Value) : Node := .mk text value
    match text with
    | '"' :: _ | '\'' :: _ =>
      (Quoted.read text).map fun (string, rest) =>
        (located (.string (String.ofList string)), rest)
    | '[' :: rest =>
      match depth with
      | 0 => none
      | depth + 1 =>
        (readItems (readNode size depth) size rest).map fun (nodes, rest) =>
          (located (.array nodes), rest)
    | '{' :: rest =>
      match depth with
      | 0 => none
      | depth + 1 =>
        match readAssignments (readNode size depth) size rest with
        | none => none
        | some (assignments, rest) =>
          (defineAll assignments []).map fun entries =>
            (located (.table .inline entries), rest)
    | _ => (readScalar text).map fun (value, rest) => (located value, rest)

/-! ## Statements -/

structure Header where
  position : Place
  grows : Bool
  path : List Key
  key : Key
deriving DecidableEq, Repr

inductive Statement where
  | header (header : Header)
  | assign (assignment : Assignment)

def readHeader (text : List Char) : Option (Header × List Char) :=
  match text with
  | '[' :: '[' :: rest =>
    match readKeyPath (skipSpaces rest) with
    | some ((path, key), ']' :: ']' :: rest) => some (⟨text, true, path, key⟩, rest)
    | _ => none
  | '[' :: rest =>
    match readKeyPath (skipSpaces rest) with
    | some ((path, key), ']' :: rest) => some (⟨text, false, path, key⟩, rest)
    | _ => none
  | _ => none

def readStatement (size : Nat) (text : List Char) : Option (Statement × List Char) :=
  match text with
  | '[' :: _ => (readHeader text).map fun (header, rest) => (.header header, rest)
  | _ =>
    (readAssignment skipSpaces (readNode size nestingLimit) text).map fun (assignment, rest) =>
      (.assign assignment, rest)

def readStatements (size : Nat) : (fuel : Nat) → List Char → Option (List Statement)
  | 0, _ => none
  | fuel + 1, text =>
    match skipGap text with
    | [] => some []
    | text =>
      match readStatement size text with
      | none => none
      | some (statement, rest) =>
        match skipComment (skipSpaces rest) with
        | [] => some [statement]
        | rest =>
          match afterLineEnd? rest with
          | none => none
          | some rest => (readStatements size fuel rest).map (statement :: ·)

end AppLauncher.Toml
