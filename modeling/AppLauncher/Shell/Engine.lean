import AppLauncher.Shell.Call
import AppLauncher.Shell.Expansion
import AppLauncher.Shell.Opening

/-!
# Engines

Commands are carried out by an engine.  Whatever they contain, scripts and
programs that they start, is given to an engine of less depth, so that all of
this comes to an end; what exceeds the bounds ends with an error.

Here stands what an engine is needed for besides the commands themselves:
shells inside a shell, commands in the background, redirections, and programs.
-/

namespace AppLauncher.Shell

/-- What carries out commands.  The flag tells whether the outcome is tested,
so that a failure does not end the shell. -/
structure Engine where
  script : (tested : Bool) → Text → Run Unit
  command : (tested : Bool) → Command → Run Unit
  execute : Text → List Text → Run (Except FileError Ending)

namespace Engine

/-! ## Shells inside a shell -/

def answer (engine : Engine) (action : Text) : Run Unit := do
  let status := (← currentMemory).status
  engine.script false action
  setStatus status

def answerPending (engine : Engine) : Run Unit := do
  for signal in (← currentMemory).pending do
    remember fun memory => { memory with pending := memory.pending.erase signal }
    match (← currentMemory).traps.lookup signal with
    | some action => engine.answer action
    | none => pure ()

/-- Carry out an action as a process of its own, and tell how it ends.  What its
shell knows is forgotten afterwards. -/
def inProcess (engine : Engine) (start : Memory → Memory) (action : Run Unit) :
    Run Ending := do
  let outer ← get
  remember start
  let result ← observe action
  let status := (← currentMemory).status
  let ending : Ending :=
    match result with
    | .error (.ended ending) => ending
    | _ => .exited status
  let ending ←
    match ending, (← currentMemory).traps.lookup 0 with
    | .exited code, some action@(_ :: _) => do
      remember fun memory =>
        { memory with status := code, traps := memory.traps.filter (·.1 != 0) }
      match ← observe (engine.script false action) with
      | .error (.ended ending) => pure ending
      | _ => pure ending
    | ending, _ => pure ending
  modify fun machine =>
    { machine with
      memory := outer.memory
      host := { machine.host with current := outer.host.current } }
  return ending

/-- Carry out an action in a shell inside the shell, and tell the code with
which it ends.  The two are known by one number, so that a signal to it is for
the outer shell. -/
def inSubshell (engine : Engine) (start : Memory → Memory) (action : Run Unit) : Run Nat := do
  match ← engine.inProcess (start ∘ Memory.nested) action with
  | .exited code => return code % 256
  | .killed signal =>
    match (← currentMemory).traps.lookup signal with
    | some action@(_ :: _) =>
      engine.answer action
      return 128 + signal
    | _ => throw (.ended (.killed signal))

/-! ## The background -/

/-- Put a command in the background.  It is carried out when it is waited for,
or when nothing else is left to do. -/
def putAside (body : Command) : Run Unit := do
  let channel ← addSource ⟨[], false⟩
  let machine ← get
  let process := machine.nextProcess
  let task : Task :=
    { process
      memory := machine.memory.nested.connect 0 (some channel)
      directory := machine.host.current
      body }
  set { machine with nextProcess := process + 1, tasks := machine.tasks ++ [task] }
  remember fun memory => { memory with background := some process, status := 0 }

def runTask (engine : Engine) (task : Task) : Run Unit := do
  modify fun machine =>
    { machine with tasks := machine.tasks.filter (·.process != task.process) }
  let code ← engine.inSubshell (fun _ => task.memory) do
    modify fun machine => { machine with host := { machine.host with current := task.directory } }
    engine.command false task.body
  modify fun machine => { machine with finished := (task.process, code) :: machine.finished }

def runTasks (engine : Engine) (since : Nat) : Run Unit := do
  for task in (← get).tasks do
    if since ≤ task.process then engine.runTask task

/-- Carry out what was put in the background, and observe it no longer than so
many thousandths of a second. -/
def runTasksFor (engine : Engine) (since patience : Nat) : Run Unit := do
  let outer := (← get).patience
  modify fun machine => { machine with patience := some patience }
  engine.runTasks since
  modify fun machine => { machine with patience := outer }

def waitFor (engine : Engine) (operands : List Text) : Run Unit := do
  if operands = [] then
    engine.runTasks 0
    setStatus 0
  for operand in operands do
    for task in (← get).tasks do
      if Text.ofNat task.process = operand then engine.runTask task
    let known := (← get).finished.find? (Text.ofNat ·.1 == operand)
    setStatus ((known.map (·.2)).getD 127)

/-! ## Output that is collected -/

/-- What an action in a shell inside the shell writes to its standard output,
and the code with which it ends. -/
def collect (engine : Engine) (action : Run Unit) : Run (Text × Nat) := do
  let machine ← get
  let index := machine.buffers.length
  set { machine with buffers := machine.buffers ++ [[]] }
  let code ← engine.inSubshell (·.connect 1 (some (.buffer index))) action
  engine.runTasks machine.nextProcess
  let text := Text.ofBytes ((← get).buffers.getD index [])
  modify fun machine => { machine with buffers := machine.buffers.take index }
  return (text, code)

def insertion (engine : Engine) : Insertion := fun source => do
  let (text, code) ← engine.collect (engine.script false source)
  remember fun memory => { memory with insertedStatus := code }
  return text

/-! ## Redirections -/

def redirect (engine : Engine) (redirect : Redirect) : Run Bool := do
  let connected (channel : Option Channel) : Run Bool := do
    match channel with
    | some channel =>
      remember (·.connect redirect.descriptor (some channel))
      return true
    | none => return false
  match redirect.target with
  | .write path force =>
    connected (← openOutput (← Expansion.text engine.insertion path) false force)
  | .append path => connected (← openOutput (← Expansion.text engine.insertion path) true false)
  | .read path => connected (← openInput (← Expansion.text engine.insertion path))
  | .text source expands =>
    let word := if expands then Word.ofQuoted? Command.afterCommands .lines source
      else some [.literal source true]
    match word with
    | some word =>
      let text ← Expansion.text engine.insertion word
      connected (some (← addSource ⟨text.toBytes, false⟩))
    | none => abandon "Syntax error: Unterminated quoted string"
  | .duplicate word =>
    let text ← Expansion.text engine.insertion word
    match text with
    | ['-'] =>
      remember (·.connect redirect.descriptor none)
      return true
    | [digit] =>
      if digit.isDigit then
        match (← currentMemory).channel? (Word.number [digit]) with
        | some channel => connected (some channel)
        | none =>
          warn (String.ofList text ++ ": Bad file descriptor")
          return false
      else
        abandon "Syntax error: Bad fd number"
    | _ => abandon "Syntax error: Bad fd number"

def redirectAll (engine : Engine) : List Redirect → Run Bool
  | [] => return true
  | first :: rest => do
    if ← engine.redirect first then engine.redirectAll rest else return false

/-- Carry out an action under redirections, and tell whether these were
possible. -/
def withRedirects (engine : Engine) (redirects : List Redirect) (action : Run Unit) :
    Run Bool := do
  let memory ← currentMemory
  let saved := redirects.map fun redirect =>
    (redirect.descriptor, memory.channel? redirect.descriptor)
  let result ← observe do
    if ← engine.redirectAll redirects then
      action
      return true
    else
      return false
  for (descriptor, channel) in saved do
    remember (·.connect descriptor channel)
  resume result

/-! ## Programs -/

/-- Run the first program of a name that can be run in some directories.  A
directory where access is denied is passed over, and remembered. -/
def search (execute : Text → Run (Except FileError Ending)) (name : Text) :
    List Path → Option FileError → Run (Except FileError Ending)
  | [], denied => return .error (denied.getD (.os .noEntry))
  | directory :: rest, denied => do
    let path := Path.join directory name.toBytes
    match ← execute (Text.ofBytes path) with
    | .error (.os .noEntry) | .error (.os .notDirectory) => search execute name rest denied
    | .error (.os .accessDenied) => search execute name rest (some (.os .accessDenied))
    | result => return result

/-- Run a program by its name: a name with a slash is a path, another is looked
for on a search path. -/
def runNamed (execute : Text → Run (Except FileError Ending)) (name : Text)
    (searchPath : List Path) : Run (Except FileError Ending) := do
  if name = [] then return .error (.os .noEntry)
  else if name.contains '/' then execute name
  else if Host.nameLimit < name.length then return .error (.os .nameTooLong)
  else search execute name searchPath none

/-- Run the program in a file for another program; what has no known format is
taken for a script. -/
def executeAny (engine : Engine) (operands : List Text) (path : Text) :
    Run (Except FileError Ending) := do
  match ← engine.execute path operands with
  | .error (.os .notExecutableFormat) => engine.execute shellPath (path :: operands)
  | result => return result

def searchPath : Run (List Path) := do
  match (← currentMemory).value? ['P', 'A', 'T', 'H'] with
  | some path => return (path.splitOn ':').map Text.toBytes
  | none => return []

def failureCode : FileError → Nat
  | .os .noEntry | .os .notDirectory | .os .tooManyLinks | .os .nameTooLong => 127
  | _ => 126

def runProgram (engine : Engine) (name : Text) (operands : List Text) : Run Ending := do
  match ← runNamed (engine.executeAny operands) name (← searchPath) with
  | .ok ending => return ending
  | .error error =>
    let code := failureCode error
    warn (String.ofList name ++ ": " ++ if code = 127 then "not found" else error.reason)
    return .exited code

def runFor (engine : Engine) (caller : String) (name : Text) (operands : List Text) :
    Run Ending := do
  match ← runNamed (engine.executeAny operands) name (← searchPath) with
  | .ok ending => return ending
  | .error error =>
    complain (caller ++ ": '" ++ String.ofList name ++ "': " ++ error.reason)
    return .exited (if error.isNotFound then 127 else 126)

/-- The path of the program that a name stands for, or the name of a command of
the shell's own. -/
def describe? (name : Text) : Run (Option (Text × String)) := do
  let memory ← currentMemory
  let host := (← get).host
  let isProgram (path : Text) : Bool :=
    match host.find path.toBytes with
    | .ok (_, .file _ executable) => executable
    | _ => false
  if (Command.keyword? name).any fun (word, _) => Command.keywords.contains word then
    return some (name, "a shell keyword")
  else if (memory.functions.lookup name).isSome then
    return some (name, "a shell function")
  else if commandNames.contains (String.ofList name) then
    return some (name,
      if specialNames.contains (String.ofList name) then "a special shell builtin"
      else "a shell builtin")
  else if name.contains '/' then
    return if isProgram name then some (name, String.ofList name) else none
  else
    let paths := (← searchPath).map fun directory =>
      Text.ofBytes (Path.join directory name.toBytes)
    match paths.find? isProgram with
    | some path => return some (path, String.ofList path)
    | none => return none
where
  commandNames : List String :=
    specialNames ++
      ["[", "alias", "bg", "cd", "chdir", "command", "echo", "false", "fg", "getopts", "hash",
       "jobs", "kill", "local", "printf", "pwd", "read", "test", "true", "type", "ulimit",
       "umask", "unalias", "wait"]

def describe (brief : Bool) (name : Text) : Run Unit := do
  match ← describe? name with
  | some (path, kind) =>
    say (if brief then path ++ ['\n'] else name ++ " is ".toList ++ kind.toList ++ ['\n'])
    setStatus 0
  | none =>
    if !brief then say (name ++ ": not found\n".toList)
    setStatus 127

end Engine

end AppLauncher.Shell
