import AppLauncher.Toml.Expression

/-!
# Documents

A document is read in sections: the assignments before the first header, then
each header with the assignments that follow it.  A header opens a table that
no header has opened before, or adds a table to an array of its own.
-/

namespace AppLauncher.Toml

structure Section where
  header : Header
  assignments : List Assignment

def sections : List Statement → List Assignment × List Section
  | [] => ([], [])
  | .header header :: rest =>
    let (assignments, later) := sections rest
    ([], ⟨header, assignments⟩ :: later)
  | .assign assignment :: rest =>
    let (assignments, later) := sections rest
    (assignment :: assignments, later)

/-- The entries of a parent table with a table opened in it by a header.  The
key is then found at the header, also if the table was there already. -/
def openTable (header : Header) (assignments : List Assignment) (entries : List Entry) :
    Option (List Entry) :=
  let opened (inner : List Entry) : List Entry :=
    insert (.mk header.key.name header.key.position
      (.mk header.position (.table .header inner))) (erase header.key.name entries)
  match lookup header.key.name entries with
  | none => (defineAll assignments []).map opened
  | some (.mk _ (.table .implied inner)) => (defineAll assignments inner).map opened
  | some _ => none

def growArray (header : Header) (assignments : List Assignment) (entries : List Entry) :
    Option (List Entry) :=
  (defineAll assignments []).bind fun inner =>
    let item := Node.mk header.position (.table .header inner)
    let bound (position : Place) (items : List Node) : List Entry :=
      insert (.mk header.key.name header.key.position (.mk position (.grown items))) entries
    match lookup header.key.name entries with
    | none => some (bound header.position [item])
    | some (.mk position (.grown earlier)) => some (bound position (item :: earlier))
    | some _ => none

def addSection (entries : List Entry) (part : Section) : Option (List Entry) :=
  changeAt false
    (fun _ entries =>
      if part.header.grows then growArray part.header part.assignments entries
      else openTable part.header part.assignments entries)
    part.header.path .header entries

def assemble (statements : List Statement) : Option (List Entry) :=
  let (assignments, later) := sections statements
  (defineAll assignments []).bind fun entries => later.foldlM addSection entries

/-- The text without a byte order mark at its start. -/
def withoutMark : List Char → List Char
  | '\uFEFF' :: rest => rest
  | text => text

def parse? (text : List Char) : Option (List Entry) :=
  let text := withoutMark text
  (readStatements text.length (text.length + 1) text).bind assemble

/-- The line, counted from one, of a place in a text. -/
def lineOf (text : List Char) (position : Place) : Nat :=
  (text.take (text.length - position.length)).count '\n' + 1

end AppLauncher.Toml
