import AppLauncher.Options.Load
import AppLauncher.Report.Console

/-!
# The launch sequence

A launch loads the options, composes the argument vector, starts the runtime
once and explains a failure at most once.  The runtime, the reporter and the
browser are collaborators with a state of their own; the sequence decides
which of them is called, with what and in which order.
-/

namespace AppLauncher

inductive BrowserError where
  | unavailable
deriving DecidableEq, Repr

def BrowserError.message : BrowserError → String
  | .unavailable => "no browser"

inductive Warning where
  | options (warning : OptionsWarning)
  | launchFailed
  | console (warning : ConsoleWarning)
  | browserFailed (error : BrowserError)
deriving DecidableEq, Repr

def Warning.message : Warning → String
  | .options warning => warning.message
  | .launchFailed => "Launch failed"
  | .console warning => warning.message
  | .browserFailed error => "Failed to open browser: " ++ error.message

structure Logged (α : Type) where
  value : α
  warnings : List Warning := []
deriving Repr

/-- Those whom a launch calls upon.  Each call may change their common state. -/
structure Collaborators (σ : Type) where
  start : ArgumentVector → σ → Status × σ
  prompt : Dialog → σ → Choice × List ConsoleWarning × σ
  tell : Dialog → σ → List ConsoleWarning × σ
  openUrl : String → σ → Except BrowserError Unit × σ

def browserWarnings : Except BrowserError Unit → List Warning
  | .ok () => []
  | .error error => [.browserFailed error]

/-- Explain a status to the user, at most once, and open the download address
if the user agrees.  The value is the category that was reported. -/
def reportFailure {σ : Type} (collaborators : Collaborators σ) (messages : Messages)
    (status : Status) (state : σ) : Logged (Option FailureCategory) × σ :=
  match FailureCategory.classify status with
  | none => (⟨none, []⟩, state)
  | some .runtimeMissing =>
    let (choice, warnings, state) :=
      collaborators.prompt (messages.dialog .runtimeMissing) state
    let shown := .launchFailed :: warnings.map .console
    match choice with
    | .cancel => (⟨some .runtimeMissing, shown⟩, state)
    | .accept =>
      let (result, state) := collaborators.openUrl messages.downloadUrl state
      (⟨some .runtimeMissing, shown ++ browserWarnings result⟩, state)
  | some category =>
    let (warnings, state) := collaborators.tell (messages.dialog category) state
    (⟨some category, .launchFailed :: warnings.map .console⟩, state)

structure Outcome where
  arguments : ArgumentVector
  status : Status
  reported : Option FailureCategory
deriving DecidableEq, Repr

structure Launcher where
  options : OptionsLoader
  messages : Messages := {}
deriving DecidableEq, Repr

/-- Run the launch sequence once.  Nothing before the start of the runtime can
keep it from being started. -/
def Launcher.launch {σ : Type} (launcher : Launcher) (host : Host)
    (caller : List Bytes) (collaborators : Collaborators σ) (state : σ) :
    Logged Outcome × σ :=
  let (options, optionsWarnings) := launcher.options.load host
  let arguments := ArgumentVector.compose caller options
  let (status, state) := collaborators.start arguments state
  let (reported, state) := reportFailure collaborators launcher.messages status state
  (⟨⟨arguments, status, reported.value⟩,
    optionsWarnings.map .options ++ reported.warnings⟩, state)

end AppLauncher
