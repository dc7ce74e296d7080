import AppLauncher.Hosting.Adapter
import AppLauncher.Hosting.Program
import AppLauncher.Hosting.SystemLibrary

/-!
# What a host does for adapters

One system that a launcher can run on: libraries are files on a host, found as a
dynamic linker finds them, and programs are executed there.
-/

namespace AppLauncher

namespace LibraryRuntime

def isNameByte (byte : UInt8) : Bool :=
  let c := Char.ofNat byte.toNat
  c.isAlphanum || c == '_'

def afterToken? (name : String) (path : Path) : Option Path :=
  let bare := Bytes.ofText name
  let braced := Bytes.ofText ("\x7b" ++ name ++ "\x7d")
  if braced.isPrefixOf path then some (path.drop braced.length)
  else
    let rest := path.drop bare.length
    if bare.isPrefixOf path && !rest.head?.any isNameByte then some rest else none

def libraryDirectory : Path := Bytes.ofText "lib/x86_64-linux-gnu"

/-- A path in which names after a dollar sign stand for directories: that of the
running program, and that for libraries.  The name of the platform stands for
nothing that is known. -/
def expandTokens (origin : Option Path) : (fuel : Nat) → Path → Option Path
  | 0, path => some path
  | fuel + 1, path =>
    match path with
    | [] => some []
    | byte :: rest =>
      if Char.ofNat byte.toNat = '$' then
        match afterToken? "ORIGIN" rest, afterToken? "LIB" rest, afterToken? "PLATFORM" rest with
        | some after, _, _ =>
          origin.bind fun directory => (expandTokens origin fuel after).map (directory ++ ·)
        | none, some after, _ => (expandTokens origin fuel after).map (libraryDirectory ++ ·)
        | none, none, some _ => none
        | none, none, none => (expandTokens origin fuel rest).map (byte :: ·)
      else
        (expandTokens origin fuel rest).map (byte :: ·)

/-- The library that a path leads to.  A name without a slash is looked for among
the system's libraries only. -/
def open? (host : Host) (path : Path) : Option Exports :=
  let found : Option Path :=
    if path.contains Bytes.slash then expandTokens host.origin (path.length + 1) path
    else some (Path.join (Path.join [Bytes.slash] libraryDirectory) path)
  match found.map host.find with
  | some (.ok (_, .file (.library exports) _)) => some exports
  | _ => none

end LibraryRuntime

namespace Adapter

/-- Every library reaches the functions of the system's own.  Entry points leave
everything as it is. -/
def Surroundings.facilities : Facilities Surroundings where
  isFile path around := around.host.isFile path
  load path loaded around :=
    (loaded.or ((LibraryRuntime.open? around.host path).map (· ++ SystemLibrary.exports)), around)
  call entry arguments around := (entry arguments, around)
  execute program arguments around :=
    match around.host.execute around.input program arguments with
    | .error error => (.error error, around)
    | .ok spawned =>
      (.ok spawned.ending,
        { host := spawned.host
          input := spawned.input
          output := around.output ++ spawned.output
          error := around.error ++ spawned.error })

def launch (adapter : Adapter) (vector : ArgumentVector) (around : Surroundings) :
    Status × Adapter × Surroundings :=
  adapter.launchWith Surroundings.facilities vector around

end Adapter

end AppLauncher
