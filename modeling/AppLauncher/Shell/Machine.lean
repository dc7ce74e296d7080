import AppLauncher.Files.Host
import AppLauncher.Hosting.Facilities
import AppLauncher.Shell.Command
import AppLauncher.Shell.Fields
import AppLauncher.Shell.Formatting

/-!
# The state of running programs

Programs that run on a host share its files and the streams they inherit.
Output is collected in numbered buffers: standard output, standard error, and
one more for every command whose output another command takes.  Input comes
from numbered sources.

All else belongs to one shell: its variables, functions, arguments, options,
and what its descriptors stand for.
-/

namespace AppLauncher.Shell

inductive Interruption where
  | ended (ending : Ending)
  /-- So many loops are left, the last of them only for its next round if so
  wanted. -/
  | loops (count : Nat) (again : Bool)
  | returned
deriving DecidableEq, Repr

inductive Channel where
  | buffer (index : Nat)
  | file (location : Location)
  | source (index : Nat)
deriving DecidableEq, Repr

structure Source where
  content : Bytes
  isFile : Bool
deriving DecidableEq, Repr

structure Memory where
  bindings : List (Text × Text) := []
  exported : List Text := []
  fixed : List Text := []
  functions : List (Text × Command) := []
  name : Text := []
  arguments : List Text := []
  status : Nat := 0
  /-- How the last command ended whose output was inserted. -/
  insertedStatus : Nat := 0
  options : List Char := []
  /-- What is done about signals, and about the end of the shell as signal 0. -/
  traps : List (Nat × Text) := []
  /-- Signals that were met and not yet answered. -/
  pending : List Nat := []
  channels : List (Nat × Channel) := [(0, .source 0), (1, .buffer 0), (2, .buffer 1)]
  loopDepth : Nat := 0
  inFunction : Bool := false
  /-- The values that variables had before the function made them its own. -/
  hidden : List (Text × Option Text) := []
  /-- The argument at which options are looked for, and the place in it. -/
  optionPlace : Nat × Option Nat := (1, none)
  background : Option Nat := none

structure Task where
  process : Nat
  memory : Memory
  directory : Location
  body : Command

structure Machine where
  host : Host
  sources : List Source
  buffers : List Bytes := [[], []]
  nextProcess : Nat := 1001
  tasks : List Task := []
  finished : List (Nat × Nat) := []
  /-- For how many thousandths of a second the processes that run are observed,
  if not until their end. -/
  patience : Option Nat := none
  memory : Memory := {}

abbrev Run := ExceptT Interruption (StateM Machine)

def ownProcess : Nat := 1000

namespace Memory

def value? (memory : Memory) (name : Text) : Option Text :=
  memory.bindings.lookup name

def separators (memory : Memory) : Text :=
  (memory.value? ['I', 'F', 'S']).getD standardSeparators

/-- Arguments as one text: the first separator stands between them. -/
def joinArguments (memory : Memory) (arguments : List Text) : Text :=
  (memory.separators.take 1).intercalate arguments

def parameter? (memory : Memory) : Parameter → Option Text
  | .named name => memory.value? name
  | .position 0 => some memory.name
  | .position (index + 1) => memory.arguments[index]?
  | .each | .joined =>
    if memory.arguments = [] then none else some (memory.joinArguments memory.arguments)
  | .count => some (Text.ofNat memory.arguments.length)
  | .status => some (Text.ofNat memory.status)
  | .process => some (Text.ofNat ownProcess)
  | .background => memory.background.map Text.ofNat
  | .options => some memory.options

def assign (memory : Memory) (name value : Text) : Memory :=
  { memory with
    bindings := (name, value) :: memory.bindings.filter (·.1 != name)
    exported :=
      if memory.options.contains 'a' && !memory.exported.contains name then
        name :: memory.exported
      else memory.exported
    optionPlace :=
      if name = ['O', 'P', 'T', 'I', 'N', 'D'] then (Word.number value, none)
      else memory.optionPlace }

def unassign (memory : Memory) (name : Text) : Memory :=
  { memory with
    bindings := memory.bindings.filter (·.1 != name)
    exported := memory.exported.filter (· != name) }

def restore (memory : Memory) (name : Text) (value : Option Text) : Memory :=
  match value with
  | some value => memory.assign name value
  | none => { memory with bindings := memory.bindings.filter (·.1 != name) }

def exporting (memory : Memory) (name : Text) : Memory :=
  { memory with exported := name :: memory.exported.filter (· != name) }

def inherited (memory : Memory) : Memory :=
  { bindings := memory.bindings.filter (memory.exported.contains ·.1)
    exported := memory.exported
    traps := memory.traps.filter (·.2 == [])
    channels := memory.channels }

def nested (memory : Memory) : Memory :=
  { memory with traps := memory.traps.filter (·.2 == []) }

def channel? (memory : Memory) (descriptor : Nat) : Option Channel :=
  memory.channels.lookup descriptor

def connect (memory : Memory) (descriptor : Nat) (channel : Option Channel) : Memory :=
  let others := memory.channels.filter (·.1 != descriptor)
  { memory with
    channels := match channel with
      | some channel => (descriptor, channel) :: others
      | none => others }

end Memory

/-! ## Steps -/

def remember (change : Memory → Memory) : Run Unit :=
  modify fun machine => { machine with memory := change machine.memory }

def currentMemory : Run Memory := do
  return (← get).memory

def setStatus (status : Nat) : Run Unit :=
  remember fun memory => { memory with status }

def setHost (host : Host) : Run Unit :=
  modify fun machine => { machine with host }

def endShell {α : Type} (code : Nat) : Run α :=
  throw (.ended (.exited code))

def emit (descriptor : Nat) (text : Text) : Run Unit :=
  modify fun machine =>
    match machine.memory.channel? descriptor with
    | some (.buffer index) =>
      { machine with buffers := machine.buffers.modify index (· ++ text.toBytes) }
    | some (.file location) =>
      { machine with host := machine.host.appendTo location text.toBytes }
    | _ => machine

def say (text : Text) : Run Unit := emit 1 text

def complain (message : String) : Run Unit :=
  emit 2 (Text.ofString (message ++ "\n"))

/-- Write a line of a message of the shell itself, which begins with the name that
the shell was called by. -/
def warn (message : String) : Run Unit := do
  emit 2 ((← currentMemory).name ++ Text.ofString (": 1: " ++ message ++ "\n"))

def abandon {α : Type} (message : String) : Run α := do
  warn message
  endShell 2

def canWrite (descriptor : Nat) : Run Bool := do
  match (← currentMemory).channel? descriptor with
  | some (.buffer _) | some (.file _) => return true
  | _ => return false

def canRead (descriptor : Nat) : Run Bool := do
  match (← currentMemory).channel? descriptor with
  | some (.source _) => return true
  | _ => return false

def peekInput : Run Source := do
  let machine ← get
  match machine.memory.channel? 0 with
  | some (.source index) => return machine.sources.getD index ⟨[], false⟩
  | _ => return ⟨[], false⟩

def leaveInput (content : Bytes) : Run Unit :=
  modify fun machine =>
    match machine.memory.channel? 0 with
    | some (.source index) =>
      { machine with sources := machine.sources.modify index ({ · with content }) }
    | _ => machine

def takeInput : Run Text := do
  let source ← peekInput
  leaveInput []
  return Text.ofBytes source.content

def addSource (source : Source) : Run Channel := do
  let machine ← get
  set { machine with sources := machine.sources ++ [source] }
  return .source machine.sources.length

def contentOf (operand : Text) : Run (Except FileError Text) := do
  return ((← get).host.content operand.toBytes).map Text.ofBytes

def observe {α : Type} (action : Run α) : Run (Except Interruption α) :=
  ExceptT.lift action.run

def resume {α : Type} : Except Interruption α → Run α
  | .ok result => return result
  | .error interruption => throw interruption

/-- Set a variable, unless it keeps its value. -/
def assignVariable (name value : Text) : Run Unit := do
  if (← currentMemory).fixed.contains name then
    abandon (String.ofList name ++ ": is read only")
  else
    remember (·.assign name value)

/-! ## Signals -/

def isDeadly (signal : Nat) : Bool :=
  !([0, 17, 18, 19, 20, 21, 22, 23, 28].contains signal)

def signalNumbers : List (String × Nat) :=
  [("HUP", 1), ("INT", 2), ("QUIT", 3), ("ILL", 4), ("TRAP", 5), ("ABRT", 6), ("BUS", 7),
   ("FPE", 8), ("KILL", 9), ("USR1", 10), ("SEGV", 11), ("USR2", 12), ("PIPE", 13),
   ("ALRM", 14), ("TERM", 15), ("STKFLT", 16), ("CHLD", 17), ("CONT", 18), ("STOP", 19),
   ("TSTP", 20), ("TTIN", 21), ("TTOU", 22), ("URG", 23), ("XCPU", 24), ("XFSZ", 25),
   ("VTALRM", 26), ("PROF", 27), ("WINCH", 28), ("IO", 29), ("PWR", 30), ("SYS", 31)]

/-- The signal that an operand names, by its number or by its name in letters
of either case. -/
def signalOf? (text : Text) : Option Nat :=
  if text ≠ [] ∧ text.all Char.isDigit then
    if Word.number text ≤ 64 then some (Word.number text) else none
  else
    signalNumbers.lookup (String.ofList (text.map Char.toUpper))

/-- The signal and the processes that operands ask for; without a signal the
polite one is meant. -/
def signalRequest? : List Text → Option (Nat × List Text)
  | ['-', 's'] :: name :: processes => (signalOf? name).map (·, processes)
  | ['-', '-'] :: processes => some (15, processes)
  | ('-' :: name) :: processes => (signalOf? name).map (·, processes)
  | processes => some (15, processes)

end AppLauncher.Shell
