import AppLauncher.Files.InstallDirectory
import AppLauncher.Hosting.Adapter
import AppLauncher.Launch.Launcher
import AppLauncher.Settings.Load

/-!
# Runs of the launcher

The launcher enters its install directory, loads its settings, and runs the
launch sequence with the adapter that the settings select, a console on the
standard streams, and the desktop's way to open addresses.  Settings that
cannot be used count as none.  The system underneath is any: a run takes its
facilities.
-/

namespace AppLauncher

structure Invocation where
  /-- The host, in the directory that the program was called from. -/
  host : Host
  executable : Path
  /-- The arguments, the program's name among them. -/
  arguments : List Bytes
  input : Bytes := []
  inputIsTerminal : Bool := false
  errorIsTerminal : Bool := false

/-- What the collaborators of a run share. -/
structure Session where
  host : Host
  adapter : Adapter
  /-- The console; its sink is the standard error output. -/
  console : Console
  output : Bytes := []

namespace Session

variable (facilities : Facilities Adapter.Surroundings)

/-- Start the hosted runtime, which shares the streams of the console. -/
def start (vector : ArgumentVector) (session : Session) : Status × Session :=
  let (status, adapter, after) :=
    session.adapter.launchWith facilities vector
      { host := session.host, input := session.console.input }
  let sink := (session.console.sink.write after.error).2
  (status,
    { host := after.host
      adapter
      console := { session.console with input := after.input, sink }
      output := session.output ++ after.output })

/-- An address that no program takes for an option. -/
def asOperand (url : Bytes) : Bytes :=
  if url.head? = some (UInt8.ofNat '-'.toNat) then Bytes.ofText "./" ++ url else url

def openers (url : Bytes) : List (Path × List Bytes) :=
  let afterHyphens := [Bytes.ofText "--", url]
  [("xdg-open", [asOperand url]), ("gio", [Bytes.ofText "open", asOperand url]),
   ("gnome-open", [asOperand url]), ("kde-open6", afterHyphens), ("kde-open5", afterHyphens),
   ("kde-open", afterHyphens)].map fun (name, arguments) => (Bytes.ofText name, arguments)

/-- Try programs in order until one succeeds.  Their streams lead nowhere. -/
def tryOpeners (host : Host) : List (Path × List Bytes) → Except BrowserError Unit × Host
  | [] => (.error .unavailable, host)
  | (program, arguments) :: rest =>
    match facilities.spawn program arguments { host } with
    | (.ok (.exited 0), after) => (.ok (), after.host)
    | (_, after) => tryOpeners after.host rest

def collaborators : Collaborators Session where
  start := start facilities
  prompt dialog session :=
    let (choice, warnings, console) := session.console.prompt dialog
    (choice, warnings, { session with console })
  tell dialog session :=
    let (warnings, console) := session.console.tell dialog
    (warnings, { session with console })
  openUrl url session :=
    let opened := tryOpeners facilities session.host (openers (Bytes.ofText url))
    (opened.1, { session with host := opened.2 })

@[simp] theorem start_collaborators : (collaborators facilities).start = start facilities := rfl

end Session

namespace Invocation

def enterInstallDirectory (invocation : Invocation) : Host :=
  match installDirectory? invocation.executable with
  | none => invocation.host
  | some directory =>
    match invocation.host.enterDirectory directory with
    | .ok host => host
    | .error _ => invocation.host

def settings (invocation : Invocation) : Settings :=
  let host := invocation.enterInstallDirectory
  .orDefault (Settings.load host (Host.absolutePath host.current))

def origin? (invocation : Invocation) : Option Path :=
  match invocation.host.find invocation.executable with
  | .ok (location, _) => some (Host.absolutePath location.dropLast)
  | .error _ => none

def place (invocation : Invocation) : Host :=
  { invocation.enterInstallDirectory with origin := invocation.origin? }

def launcher (invocation : Invocation) : Launcher :=
  .ofSettings (Host.absolutePath invocation.place.current) invocation.settings

def session (invocation : Invocation) : Session where
  host := invocation.place
  adapter := .ofSettings invocation.settings.runtime
  console :=
    { input := invocation.input
      interactive := invocation.inputIsTerminal
      styled := invocation.errorIsTerminal }

def runWith (invocation : Invocation) (facilities : Facilities Adapter.Surroundings) :
    Logged Outcome × Session :=
  invocation.launcher.launch invocation.place invocation.arguments
    (Session.collaborators facilities) invocation.session

/-- What the parent of the program observes when it ends. -/
def exitStatusWith (invocation : Invocation) (facilities : Facilities Adapter.Surroundings) :
    Nat :=
  (invocation.runWith facilities).1.value.status.observed

end Invocation

end AppLauncher
