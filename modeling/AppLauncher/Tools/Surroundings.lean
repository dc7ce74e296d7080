import AppLauncher.Shell.Engine
import AppLauncher.Tools.Lines

/-!
# Programs for what surrounds them

Programs that tell something about the environment, the search path, the user
and the system, and that make names for temporary files.
-/

namespace AppLauncher.Tools

open Shell

/-- The variables that a program receives, in the order in which they were
exported. -/
def environmentLines (memory : Memory) : List Text :=
  memory.exported.reverse.filterMap fun name =>
    (memory.value? name).map fun value => name ++ '=' :: value

def printEnvironment (operands : List Text) : Run Nat := do
  let given := OptionRules.read { flags := "0", words := [("null", '0')] } operands
  unlessRefused "printenv" 2 given do
    let memory ← currentMemory
    let ending := if given.has '0' then '\x00' else '\n'
    if given.operands = [] then
      for line in environmentLines memory do say (line ++ [ending])
      return 0
    else
      let mut complete := true
      for name in given.operands do
        match if memory.exported.contains name then memory.value? name else none with
        | some value => say (value ++ [ending])
        | none => complete := false
      return codeOf complete

def programsNamed (host : Host) (searchPath : List Path) (name : Text) : List Text :=
  let isProgram (path : Text) : Bool :=
    match host.find path.toBytes with
    | .ok (_, .file _ executable) => executable
    | _ => false
  let paths :=
    if name.contains '/' then [name]
    else searchPath.map fun directory => Text.ofBytes (Path.join directory name.toBytes)
  if name = [] then [] else paths.filter isProgram

def locatePrograms (operands : List Text) : Run Nat := do
  let given := OptionRules.read { flags := "as" } operands
  unlessRefused "which" 2 given do
    let path ← Engine.searchPath
    let mut complete := !given.operands.isEmpty
    for name in given.operands do
      match programsNamed (← get).host path name with
      | [] => complete := false
      | first :: others =>
        if !given.has 's' then say (unlines (if given.has 'a' then first :: others else [first]))
    return codeOf complete

/-- Tell who runs the program: the one who may do everything. -/
def printIdentity (operands : List Text) : Run Nat := do
  let given := OptionRules.read
    { flags := "ugGnr", words := [("user", 'u'), ("group", 'g'), ("name", 'n')] } operands
  unlessRefused "id" 1 given do
    let answer :=
      if given.has 'u' || given.has 'g' || given.has 'G' then
        if given.has 'n' then "root" else "0"
      else
        "uid=0(root) gid=0(root) groups=0(root)"
    say (answer.toList ++ ['\n'])
    return 0

def printSystem (operands : List Text) : Run Nat := do
  let given := OptionRules.read { flags := "smop" } operands
  unlessRefused "uname" 1 given do
    let names := [('s', "Linux"), ('m', "x86_64"), ('o', "GNU/Linux")].filter fun (letter, _) =>
      given.has letter || (given.options.isEmpty && letter == 's')
    say (unwords (names.map fun (_, name) => name.toList) ++ ['\n'])
    return 0

def endlessLines : Nat := 20000

def printEndlessly (operands : List Text) : Run Nat := do
  let line := if operands = [] then ['y'] else unwords operands
  say (List.replicate endlessLines (line ++ ['\n'])).flatten
  return 0

def temporaryName (template : Text) (number : Nat) : Text :=
  let start := (template.reverse.dropWhile (· == 'X')).reverse
  let width := template.length - start.length
  let digits := Text.ofNat number
  start ++ List.replicate (width - digits.length) 'a' ++ digits

def makeTemporary (operands : List Text) : Run Nat := do
  let given := OptionRules.read
    { flags := "dqut", valued := "p", words := [("directory", 'd'), ("quiet", 'q')] } operands
  unlessRefused "mktemp" 1 given do
    let machine ← get
    set { machine with nextProcess := machine.nextProcess + 1 }
    let directory := (given.value? 'p').getD "/tmp".toList
    let template := given.operands.headD "tmp.XXXXXXXXXX".toList
    let name := temporaryName template machine.nextProcess
    let path :=
      if given.operands = [] ∨ given.has 'p' ∨ given.has 't' then directory ++ '/' :: name
      else name
    let host := machine.host
    match if given.has 'u' then .ok host
      else if given.has 'd' then host.makeDirectory path.toBytes
      else (host.openForWriting path.toBytes true).map (·.2) with
    | .ok host =>
      setHost host
      say (path ++ ['\n'])
      return 0
    | .error error => failWith 1 (operandFailure "mktemp" path error)

end AppLauncher.Tools
