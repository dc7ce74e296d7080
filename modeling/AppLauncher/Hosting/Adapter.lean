import AppLauncher.Files.Host
import AppLauncher.Hosting.Facilities
import AppLauncher.Launch.Status
import AppLauncher.Settings.Basic

/-!
# Runtime adapters

The hosted runtime is a black box that takes an argument vector and gives a
status.  It is either a program that runs as a child process or an entry point
in a shared library.  Whatever keeps it from running is a status, too.
-/

namespace AppLauncher

/-! ## Child processes -/

def Status.ofEnding (ending : Ending) : Status :=
  ⟨Int32.ofNat ending.code⟩

def Status.ofSpawnError (error : FileError) : Status :=
  if error.isNotFound then .runtimeNotFound else .programStartFailed

/-- A runtime that is a program.  It receives the elements of the vector after
element 0. -/
structure ProcessRuntime where
  program : Path
deriving DecidableEq, Repr

namespace ProcessRuntime

def status : Except FileError Ending → Status
  | .ok ending => .ofEnding ending
  | .error error => .ofSpawnError error

def launch {σ : Type} (runtime : ProcessRuntime) (facilities : Facilities σ)
    (vector : ArgumentVector) (state : σ) : Status × σ :=
  let (result, state) := facilities.spawn runtime.program vector.tail state
  (status result, state)

end ProcessRuntime

/-! ## Shared libraries -/

structure LibraryRuntime where
  path : Path
  entry : String
  /-- The library once it is loaded; it stays loaded. -/
  loaded : Option Exports := none

namespace LibraryRuntime

/-- The name under which an entry point is looked for.  One closing NUL byte is
allowed, and no other. -/
def symbol? (entry : String) : Option Bytes :=
  let bytes := Bytes.ofText entry
  let name := if bytes.getLast? = some Bytes.nul then bytes.dropLast else bytes
  if name = [] ∨ Bytes.hasNul name then none else some name

def entryPoint? (runtime : LibraryRuntime) (exports : Exports) : Option EntryPoint :=
  (symbol? runtime.entry).bind (List.lookup · exports)

def launch {σ : Type} (runtime : LibraryRuntime) (facilities : Facilities σ)
    (vector : ArgumentVector) (state : σ) : Status × LibraryRuntime × σ :=
  if !facilities.isFile runtime.path state then
    (.runtimeNotFound, runtime, state)
  else
    match vector.toCVector with
    | .error _ => (.argumentsRejected, runtime, state)
    | .ok arguments =>
      match facilities.load runtime.path runtime.loaded state with
      | (none, state) => (.runtimeLoadFailed, runtime, state)
      | (some exports, state) =>
        let runtime := { runtime with loaded := some exports }
        match runtime.entryPoint? exports with
        | none => (.runtimeInitFailed, runtime, state)
        | some entry =>
          let (code, state) := facilities.call entry arguments state
          (⟨code⟩, runtime, state)

end LibraryRuntime

/-! ## Either -/

inductive Adapter where
  | process (runtime : ProcessRuntime)
  | library (runtime : LibraryRuntime)

namespace Adapter

def ofSettings (settings : RuntimeSettings) : Adapter :=
  match settings.kind with
  | .process => .process ⟨settings.program⟩
  | .library => .library { path := settings.library, entry := settings.entry }

theorem ofSettings_of_process {settings : RuntimeSettings} (hkind : settings.kind = .process) :
    ofSettings settings = .process { program := settings.program } := by
  simp only [ofSettings, hkind]

theorem ofSettings_of_library {settings : RuntimeSettings} (hkind : settings.kind = .library) :
    ofSettings settings = .library { path := settings.library, entry := settings.entry } := by
  simp only [ofSettings, hkind]

def name : Adapter → String
  | .process _ => RuntimeKind.process.name
  | .library _ => RuntimeKind.library.name

def launchWith {σ : Type} (adapter : Adapter) (facilities : Facilities σ)
    (vector : ArgumentVector) (state : σ) : Status × Adapter × σ :=
  match adapter with
  | .process runtime =>
    let (status, state) := runtime.launch facilities vector state
    (status, .process runtime, state)
  | .library runtime =>
    let (status, runtime, state) := runtime.launch facilities vector state
    (status, .library runtime, state)

/-- What a runtime works with: the files and the standard streams. -/
structure Surroundings where
  host : Host
  input : Bytes := []
  output : Bytes := []
  error : Bytes := []

end Adapter

end AppLauncher
