import AppLauncher.Bytes

/-!
# Paths

A path is a byte string whose pieces are separated by slashes.  Empty pieces
and lone full stops are idle: they name nothing, except that a leading full
stop is kept as a component of a relative path.  Taking a parent removes the
last component together with the idle pieces around it.
-/

namespace AppLauncher

abbrev Path := Bytes

namespace Path

open Bytes (slash dot)

def isAbsolute (path : Path) : Bool :=
  path.head? == some slash

/-- A path inside a directory.  An absolute path stands for itself. -/
def join (directory name : Path) : Path :=
  if isAbsolute name then name
  else if directory = [] ∨ directory.getLast? = some slash then directory ++ name
  else directory ++ slash :: name

def isIdle (piece : Bytes) : Bool :=
  piece == [] || piece == [dot]

def pieces (path : Path) : List Bytes :=
  Bytes.splitOn slash path

/-- The bytes at the start of a path that are a component by themselves: the
slash of an absolute path, or a leading full stop. -/
def anchor (path : Path) : Bytes :=
  match pieces path with
  | first :: _ =>
    if isAbsolute path then [slash] else if first = [dot] then [dot] else []
  | [] => []

def body (path : Path) : Bytes :=
  path.drop (anchor path).length

def withoutIdleEnd (pieces : List Bytes) : List Bytes :=
  (pieces.reverse.dropWhile isIdle).reverse

/-- The path without its last component, unless it has no component to remove
or only that of the root. -/
def parent? (path : Path) : Option Path :=
  match withoutIdleEnd (pieces (body path)) with
  | [] => if anchor path = [dot] then some [] else none
  | kept => some (anchor path ++ Bytes.joinWith slash (withoutIdleEnd kept.dropLast))

inductive Component where
  | root
  | current
  | named (name : Bytes)
deriving DecidableEq, Repr

/-- The components of a path: the anchor, then the pieces that are not idle. -/
def components (path : Path) : List Component :=
  (if anchor path = [slash] then [.root]
   else if anchor path = [dot] then [.current]
   else [])
    ++ ((pieces (body path)).filter (!isIdle ·)).map .named

end Path

end AppLauncher
