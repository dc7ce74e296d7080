import AppLauncher.Files.Host
import AppLauncher.Shell.Pattern

/-!
# Paths that match

A field with wildcards stands for the paths that match it, in order, or for
itself if there are none.  Slashes are matched by slashes alone, and names that
begin with a full stop only by a pattern that does.
-/

namespace AppLauncher.Shell

def precedes : Text → Text → Bool
  | [], _ => true
  | _ :: _, [] => false
  | a :: as, b :: bs => if a = b then precedes as bs else a.toNat < b.toNat

def isWild (letter : Letter) : Bool :=
  !letter.quoted && (letter.character == '*' || letter.character == '?'
    || letter.character == '[')

/-- The names in a directory, those of itself and of its parent among them. -/
def namesIn (host : Host) (path : Text) : List Text :=
  match host.find (if path = [] then ['.'] else path : Text).toBytes with
  | .ok (_, .directory entries) =>
    ['.'] :: ['.', '.'] :: entries.map fun entry => Text.ofBytes entry.1
  | _ => []

/-- Whether a path names anything, be it a link that leads nowhere. -/
def isTaken (host : Host) (path : Text) : Bool :=
  match host.locate false path.toBytes with
  | .ok (.taken _ _) => true
  | _ => false

def isDirectory (host : Host) (path : Text) : Bool :=
  match host.find path.toBytes with
  | .ok (_, node) => node.isDirectory
  | .error _ => false

/-- The parts of a pattern between its slashes, each with the slashes after
it. -/
def pieces : (fuel : Nat) → List Letter → List (List Letter × Text)
  | 0, _ => []
  | fuel + 1, letters =>
    if letters = [] then
      []
    else
      let isSlash (letter : Letter) : Bool := letter.character == '/'
      let piece := letters.takeWhile (!isSlash ·)
      let rest := letters.drop piece.length
      (piece, plain (rest.takeWhile isSlash)) :: pieces fuel (rest.dropWhile isSlash)

def matchPieces (host : Host) : (path : Text) → List (List Letter × Text) → List Text
  | path, [] => if isTaken host path then [path] else []
  | path, (piece, slashes) :: rest =>
    let goOn (name : Text) : List Text :=
      let path := path ++ name
      if rest = [] ∧ slashes = [] then (if isTaken host path then [path] else [])
      else if name = [] ∨ isDirectory host path then matchPieces host (path ++ slashes) rest
      else []
    if piece.any isWild then
      let pattern := Pattern.ofLetters piece
      let isHidden (name : Text) : Bool := name.head? == some '.'
      let fits (name : Text) : Bool :=
        pattern.accepts name && (!isHidden name || pattern.head? == some (.exactly '.'))
      ((namesIn host path).filter fits).flatMap goOn
    else
      goOn (plain piece)

def matchField (host : Host) (field : List Letter) : List Text :=
  if field.any isWild then
    match matchPieces host [] (pieces (field.length + 1) field) with
    | [] => [plain field]
    | paths => paths.mergeSort precedes
  else
    [plain field]

end AppLauncher.Shell
