import AppLauncher.Files.Node
import AppLauncher.Files.OsError

/-!
# Looking up paths on a host

A host has a file tree, a current directory and a search path.  A path is
walked piece by piece: every piece but the last must lead to a directory, two
full stops go up, and symbolic links are followed, at most forty of them.
-/

namespace AppLauncher

/-- The machine that a launcher runs on, as far as files are concerned. -/
structure Host where
  root : Node
  current : Location := []
  /-- Where programs without a slash in their name are looked for. -/
  searchPath : List Path := []
  origin : Option Path := none

/-- What is asked about files, with every answer that a system may give. -/
structure Files where
  lookUp : Path → Except FileError Unit
  content : Path → Except FileError Bytes
  readAtMost : Path → Nat → Except FileError Bytes

namespace Host

open Bytes (slash dot)

def nameLimit : Nat := 255

def pathLimit : Nat := 4096

def linkLimit : Nat := 40

inductive Spot where
  | taken (location : Location) (node : Node)
  /-- To a name that is free in a directory that exists. -/
  | vacant (directory : Location) (name : Bytes)

/-- Where a list of pieces leads from a place, following at most `links`
links.  A link in last place is followed if so wanted. -/
def walk (root : Node) (followLast : Bool) (links : Nat) (here : Location) :
    List Bytes → Except OsError Spot
  | [] =>
    match root.at? here with
    | some node => .ok (.taken here node)
    | none => .error .noEntry
  | piece :: rest =>
    match root.at? here with
    | some (.directory entries) =>
      if Path.isIdle piece then
        walk root followLast links here rest
      else if piece = [dot, dot] then
        walk root followLast links here.dropLast rest
      else if nameLimit < piece.length then
        .error .nameTooLong
      else
        match entries.lookup piece with
        | none =>
          if rest = [] then .ok (.vacant here piece) else .error .noEntry
        | some (.link target) =>
          if rest = [] ∧ !followLast then
            .ok (.taken (here ++ [piece]) (.link target))
          else if target = [] then
            .error .noEntry
          else
            match links with
            | 0 => .error .tooManyLinks
            | links + 1 =>
              walk root followLast links
                (if Path.isAbsolute target then [] else here)
                (Path.pieces target ++ rest)
        | some _ => walk root followLast links (here ++ [piece]) rest
    | _ => .error .notDirectory
termination_by pieces => (links, pieces.length)

def locate (host : Host) (followLast : Bool) (path : Path) : Except FileError Spot :=
  if Bytes.hasNul path then
    .error .nulInPath
  else if path = [] then
    .error (.os .noEntry)
  else if pathLimit ≤ path.length then
    .error (.os .nameTooLong)
  else
    (walk host.root followLast linkLimit
      (if Path.isAbsolute path then [] else host.current)
      (Path.pieces path)).mapError .os

def find (host : Host) (path : Path) : Except FileError (Location × Node) := do
  match ← host.locate true path with
  | .taken location node => .ok (location, node)
  | .vacant _ _ => .error (.os .noEntry)

/-- Whether a path leads anywhere at all.  Every failure counts as no. -/
def pathExists (host : Host) (path : Path) : Bool :=
  (host.find path).isOk

def isFile (host : Host) (path : Path) : Bool :=
  match host.find path with
  | .ok (_, .file .void _) => false
  | .ok (_, .file _ _) => true
  | _ => false

/-- The first bytes of a file.  A directory can be opened but not read, so
nothing is wrong with it as long as no byte is wanted. -/
def readAtMost (host : Host) (path : Path) (count : Nat) : Except FileError Bytes := do
  match ← host.find path with
  | (_, .file body _) => .ok (body.content.take count)
  | (_, .directory _) => if count = 0 then .ok [] else .error (.os .isDirectory)
  | (_, .link _) => .error (.os .tooManyLinks)

def content (host : Host) (path : Path) : Except FileError Bytes := do
  match ← host.find path with
  | (_, .file body _) => .ok body.content
  | (_, .directory _) => .error (.os .isDirectory)
  | (_, .link _) => .error (.os .tooManyLinks)

def files (host : Host) : Files where
  lookUp path := (host.find path).map fun _ => ()
  content := host.content
  readAtMost := host.readAtMost

def enter (host : Host) (path : Path) : Except FileError Host := do
  match ← host.find path with
  | (location, .directory _) => .ok { host with current := location }
  | _ => .error (.os .notDirectory)

def absolutePath (location : Location) : Path :=
  if location = [] then [slash] else location.flatMap (slash :: ·)

def pathFrom? (base location : Location) : Option Path :=
  if base.isPrefixOf location then
    some (Bytes.joinWith slash (location.drop base.length))
  else
    none

/-- The host with a file opened for writing: made when it is missing, emptied
unless bytes are to be appended. -/
def openForWriting (host : Host) (path : Path) (keep : Bool) :
    Except FileError (Location × Host) := do
  match ← host.locate true path with
  | .vacant directory name =>
    let location := directory ++ [name]
    .ok (location, { host with root := host.root.put location (.plain []) })
  | .taken location (.file .void _) => .ok (location, host)
  | .taken location (.file body executable) =>
    let kept := if keep then body else .bytes []
    .ok (location, { host with root := host.root.put location (.file kept executable) })
  | .taken _ _ => .error (.os .isDirectory)

def appendTo (host : Host) (location : Location) (bytes : Bytes) : Host :=
  match host.root.at? location with
  | some (.file (.bytes content) executable) =>
    { host with
      root := host.root.put location (.file (.bytes (content ++ bytes)) executable) }
  | _ => host

def makeDirectory (host : Host) (path : Path) : Except FileError Host := do
  match ← host.locate true path with
  | .vacant directory name =>
    .ok { host with root := host.root.put (directory ++ [name]) .emptyDirectory }
  | .taken _ _ => .error (.os .fileExists)

/-- The host without the file that a path names.  A link is itself removed. -/
def removeFile (host : Host) (path : Path) : Except FileError Host := do
  match ← host.locate false path with
  | .vacant _ _ => .error (.os .noEntry)
  | .taken _ (.directory _) => .error (.os .isDirectory)
  | .taken location _ => .ok { host with root := host.root.remove location }

def removeDirectory (host : Host) (path : Path) : Except FileError Host := do
  match ← host.locate false path with
  | .vacant _ _ => .error (.os .noEntry)
  | .taken location (.directory entries) =>
    if entries = [] ∧ location ≠ [] then .ok { host with root := host.root.remove location }
    else .error (.os .directoryNotEmpty)
  | .taken _ _ => .error (.os .notDirectory)

def removeTree (host : Host) (path : Path) : Except FileError Host := do
  match ← host.locate false path with
  | .vacant _ _ => .error (.os .noEntry)
  | .taken location _ => .ok { host with root := host.root.remove location }

def makeLink (host : Host) (target path : Path) : Except FileError Host := do
  match ← host.locate false path with
  | .vacant directory name =>
    .ok { host with root := host.root.put (directory ++ [name]) (.link target) }
  | .taken _ _ => .error (.os .fileExists)

def setExecutable (host : Host) (path : Path) (executable : Bool) : Except FileError Host := do
  match ← host.find path with
  | (location, .file body _) =>
    .ok { host with root := host.root.put location (.file body executable) }
  | _ => .ok host

/-- The host with a node at the place that a path names, in place of what stands
there unless that is a directory. -/
def putNode (host : Host) (path : Path) (node : Node) : Except FileError Host := do
  match ← host.locate false path with
  | .vacant directory name => .ok { host with root := host.root.put (directory ++ [name]) node }
  | .taken location (.directory _) =>
    if node.isDirectory then .ok { host with root := host.root.put location node }
    else .error (.os .isDirectory)
  | .taken location _ =>
    if node.isDirectory then .error (.os .notDirectory)
    else .ok { host with root := host.root.put location node }

end Host

inductive Placement where
  | place (node : Node)
  | erase

namespace Host

/-- The place that names lead to from a directory.  Links are followed as long
as they lead somewhere; names that are missing stand for themselves. -/
def reach (root : Node) (here : Location) : List Bytes → Location
  | [] => here
  | name :: rest =>
    match walk root true linkLimit here [name] with
    | .ok (.taken location _) => reach root location rest
    | .ok (.vacant directory missing) => reach root (directory ++ [missing]) rest
    | .error _ => reach root (here ++ [name]) rest

def canRun : Option Node → Bool
  | some (.file _ executable) => executable
  | _ => false

/-- The host with an instruction carried out at a path.  A file that is put
where a link stands goes to the end of the link.  What could be run before can
still be run with other content. -/
def apply (host : Host) (path : Path) (placement : Placement) : Host :=
  let names := (Path.pieces path).filter (!Path.isIdle ·)
  let parent := reach host.root host.current names.dropLast
  let itself := parent ++ names.getLast?.toList
  match placement with
  | .place (.file body executable) =>
    let target := reach host.root parent names.getLast?.toList
    let stays := canRun (host.root.at? target)
    { host with root := host.root.put target (.file body (executable || stays)) }
  | .place (.directory entries) =>
    match host.root.at? itself with
    | some (.directory _) => host
    | _ => { host with root := host.root.put itself (.directory entries) }
  | .place (.link target) => { host with root := host.root.put itself (.link target) }
  | .erase => { host with root := host.root.remove itself }

end Host

end AppLauncher
