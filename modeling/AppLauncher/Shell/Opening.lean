import AppLauncher.Shell.Machine

/-!
# Opening files

How programs open files by path.  Some paths stand for what the program has
open already.
-/

namespace AppLauncher.Shell

def descriptorPaths : List (String × Nat) :=
  [("/dev/stdin", 0), ("/dev/stdout", 1), ("/dev/stderr", 2), ("/dev/fd/0", 0),
   ("/dev/fd/1", 1), ("/dev/fd/2", 2)]

def openReason (error : FileError) : String :=
  if error.isNotFound then "No such file" else error.reason

def openOutput (path : Text) (keep force : Bool) : Run (Option Channel) := do
  match descriptorPaths.lookup (String.ofList path) with
  | some descriptor => return (← currentMemory).channel? descriptor
  | none =>
    let host := (← get).host
    let protects := (← currentMemory).options.contains 'C'
    let isKept := !keep && !force && protects && host.isFile path.toBytes
    match if isKept then .error (.os .fileExists) else host.openForWriting path.toBytes keep with
    | .ok (location, host) =>
      setHost host
      return some (.file location)
    | .error error =>
      let reason := if error.isNotFound then "Directory nonexistent" else openReason error
      warn ("cannot create " ++ String.ofList path ++ ": " ++ reason)
      return none

/-- Open a file for reading.  A directory can be opened and holds nothing. -/
def openInput (path : Text) : Run (Option Channel) := do
  match descriptorPaths.lookup (String.ofList path) with
  | some descriptor => return (← currentMemory).channel? descriptor
  | none =>
    match ← contentOf path with
    | .ok content => return some (← addSource ⟨content.toBytes, true⟩)
    | .error (.os .isDirectory) => return some (← addSource ⟨[], false⟩)
    | .error error =>
      warn ("cannot open " ++ String.ofList path ++ ": " ++ openReason error)
      return none

def readAll (path : Text) : Run (Except FileError Text) := do
  match descriptorPaths.lookup (String.ofList path) with
  | some 0 => return .ok (← takeInput)
  | _ => contentOf path

def writeTo (channel : Channel) (text : Text) : Run Unit := do
  let memory ← currentMemory
  remember (·.connect 1 (some channel))
  say text
  remember fun _ => memory

def writeFile (path text : Text) (keep : Bool) : Run Bool := do
  match ← openOutput path keep true with
  | some channel =>
    writeTo channel text
    return true
  | none => return false

end AppLauncher.Shell
