import AppLauncher.Program

/-!
# The command line

The thin layer around the launcher: it gathers the files that a launcher looks
at by itself, lets the launcher run on a host that holds these, prints what was
written and ends with the status of the run.
-/

namespace AppLauncher

def Bytes.pack (bytes : Bytes) : ByteArray := ⟨bytes.toArray⟩

/-- The host with a copy of a file, where there is one.  A file that begins
like a script can be run. -/
def gather (host : Host) (path : Path) : IO Host := do
  try
    let content := (← IO.FS.readBinFile (Utf8.shown path)).toList
    let executable := (Shell.interpreter? content).isSome
    return host.apply path (.place (.file (.bytes content) executable))
  catch _ =>
    return host

def gatherAll (directory : Path) : IO Host := do
  let start : Host :=
    { root := Host.systemRoot.put (Path.pieces directory).tail .emptyDirectory
      searchPath := Host.systemPath }
  let host ← gather start (OptionsLoader.path { directory })
  let host ← gather host (Settings.pathIn directory)
  let settings := ((Settings.load host directory).toOption).getD {}
  let host ← gather host (directory.join settings.runtime.program)
  gather host (directory.join settings.runtime.library)

def print (session : Session) (printedOutput printedError : Nat) : IO Unit := do
  let output ← IO.getStdout
  let error ← IO.getStderr
  output.write (Bytes.pack (session.output.drop printedOutput))
  output.flush
  error.write (Bytes.pack (session.console.sink.written.drop printedError))
  error.flush

/-- Run the launcher.  A person at a terminal answers after the question has
been printed; any other input is read beforehand. -/
def launchOnce (invocation : Invocation) : IO Nat := do
  let input ← IO.getStdin
  if invocation.inputIsTerminal then
    let (outcome, session) := invocation.run
    print session 0 0
    if outcome.value.reported = some .runtimeMissing then
      let answered := { invocation with input := Bytes.ofText (← input.getLine) }
      print answered.run.2 session.output.length session.console.sink.written.length
      return answered.exitStatus
    else
      return invocation.exitStatus
  else
    let invocation := { invocation with input := (← input.readBinToEnd).toList }
    print invocation.run.2 0 0
    return invocation.exitStatus

end AppLauncher

open AppLauncher in
def main (arguments : List String) : IO UInt32 := do
  let executable := Bytes.ofText (toString (← IO.appPath))
  let host ← gatherAll ((installDirectory? executable).getD [Bytes.slash])
  let status ← launchOnce
    { host
      executable
      arguments := executable :: arguments.map Bytes.ofText
      inputIsTerminal := ← (← IO.getStdin).isTty
      errorIsTerminal := ← (← IO.getStderr).isTty }
  return UInt32.ofNat status
