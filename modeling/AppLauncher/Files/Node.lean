import AppLauncher.Arguments.CVector
import AppLauncher.Files.Path

/-!
# File trees

A file system is a tree of directories whose leaves are files and symbolic
links.  A place in it is the list of names that lead there from the root.
-/

namespace AppLauncher

/-- An entry point of a shared library: from a C argument vector to a code. -/
abbrev EntryPoint := CVector → Int32

inductive Tool where
  -- Programs that run programs.
  | shell
  | environment
  | withoutHangup
  | urgency
  | timeLimit
  | forInput
  | find
  -- Programs for texts.
  | echo
  | printf
  | test
  | concatenate
  | copyThrough
  | reverseLines
  | reverseLetters
  | numberLines
  | head
  | tail
  | wordCount
  | distinctLines
  | cutLines
  | pasteLines
  | foldLines
  | sequence
  | endless
  | sortLines
  | replaceLetters
  | search
  | searchExtended
  | searchPlain
  | editLines
  | calculate
  | dump
  -- Programs for files.
  | baseName
  | directoryName
  | linkTarget
  | fullPath
  | touch
  | makeDirectory
  | removeDirectory
  | remove
  | copy
  | move
  | link
  | changeMode
  | list
  | compare
  | difference
  | makeTemporary
  -- Programs for what surrounds them.
  | printDirectory
  | printEnvironment
  | locate
  | identity
  | userName
  | systemName
  | pause
  | succeed
  | fail
deriving DecidableEq, Repr

inductive FileBody where
  | bytes (content : Bytes)
  | library (exports : List (Bytes × EntryPoint))
  | program (tool : Tool)
  /-- Nothing, as in a device: what is written here is gone. -/
  | void

/-- How code begins for those who read it as bytes; it is no text. -/
def codeMark : Bytes := [0x7F, 0x45, 0x4C, 0x46, 0xFF]

def FileBody.content : FileBody → Bytes
  | .bytes content => content
  | .library _ | .program _ => codeMark
  | .void => []

inductive Node where
  | file (body : FileBody) (executable : Bool)
  | directory (entries : List (Bytes × Node))
  | link (target : Path)

/-- A place in a file tree: the names that lead there from the root. -/
abbrev Location := List Bytes

namespace Node

def emptyDirectory : Node := .directory []

def plain (content : Bytes) : Node := .file (.bytes content) false

def entries : Node → List (Bytes × Node)
  | .directory entries => entries
  | _ => []

def isDirectory : Node → Bool
  | .directory _ => true
  | _ => false

/-- The node at a place below this one.  Links are not followed. -/
def at? (node : Node) : Location → Option Node
  | [] => some node
  | name :: rest =>
    match node.entries.lookup name with
    | some child => child.at? rest
    | none => none

def bind (entries : List (Bytes × Node)) (name : Bytes) (node : Node) :
    List (Bytes × Node) :=
  if entries.any (·.1 == name) then
    entries.map fun entry => if entry.1 == name then (name, node) else entry
  else
    entries ++ [(name, node)]

/-- The tree with a node put at a place.  Whatever stood there is replaced,
and directories that are missing on the way are made. -/
def put (tree : Node) : Location → Node → Node
  | [], node => node
  | name :: rest, node =>
    let child := (tree.entries.lookup name).getD emptyDirectory
    .directory (bind tree.entries name (child.put rest node))

def remove (tree : Node) : Location → Node
  | [] => tree
  | [name] => .directory (tree.entries.filter (·.1 != name))
  | name :: rest =>
    match tree.entries.lookup name with
    | some child => .directory (bind tree.entries name (child.remove rest))
    | none => tree

end Node

end AppLauncher
