import AppLauncher.Shell.Condition

/-!
# Commands of the shell itself

The commands that change what one shell knows: its variables, arguments,
options and directory, what it does about signals, and where it goes on.
-/

namespace AppLauncher.Shell

/-- The commands of the shell whose mistakes end it. -/
def specialNames : List String :=
  [":", ".", "break", "continue", "eval", "exec", "exit", "export", "readonly", "return",
   "set", "shift", "times", "trap", "unset"]

def reject (message : String) : Run Unit := do
  warn message
  setStatus 2

def number? (operand : Text) : Option Nat :=
  if operand ≠ [] ∧ operand.all Char.isDigit ∧ Word.number operand < 2147483648 then
    some (Word.number operand)
  else
    none

def numberOf (command : String) (operand : Text) : Run Nat :=
  match number? operand with
  | some n => return n
  | none => abandon (command ++ ": Illegal number: " ++ String.ofList operand)

/-! ## Going on elsewhere -/

def exitShell (operands : List Text) : Run Unit := do
  match operands with
  | [] => endShell (← currentMemory).status
  | code :: _ => endShell ((← numberOf "exit" code) % 256)

def leaveFunction (operands : List Text) : Run Unit := do
  match operands with
  | [] => pure ()
  | code :: _ => setStatus ((← numberOf "return" code) % 256)
  throw .returned

def leaveLoops (again : Bool) (operands : List Text) : Run Unit := do
  let count ← match operands with
    | [] => pure 1
    | count :: _ => numberOf (if again then "continue" else "break") count
  if count = 0 then
    abandon "break: Illegal number: 0"
  else
    let depth := (← currentMemory).loopDepth
    setStatus 0
    if depth ≠ 0 then
      throw (.loops (if depth < count then depth else count) again)

/-! ## Arguments and options -/

def shiftArguments (operands : List Text) : Run Unit := do
  let count ← numberOf "shift" (operands.headD ['1'])
  let memory ← currentMemory
  if memory.arguments.length < count then
    abandon "shift: can't shift that many"
  else
    remember fun memory =>
      { memory with
        arguments := memory.arguments.drop count
        optionPlace := (1, none)
        status := 0 }

def optionNames : List (String × Char) :=
  [("errexit", 'e'), ("noglob", 'f'), ("ignoreeof", 'I'), ("interactive", 'i'),
   ("monitor", 'm'), ("noexec", 'n'), ("stdin", 's'), ("xtrace", 'x'), ("verbose", 'v'),
   ("vi", 'V'), ("emacs", 'E'), ("noclobber", 'C'), ("allexport", 'a'), ("notify", 'b'),
   ("nounset", 'u'), ("privileged", 'p')]

def switchOption (on : Bool) (options : List Char) (letter : Char) : List Char :=
  let others := options.filter (· != letter)
  if on then letter :: others else others

def areOptions (letters : Text) : Bool :=
  letters.all fun letter => optionNames.any (·.2 == letter)

def setArguments : List Text → Run Unit
  | [] => setStatus 0
  | ['-', '-'] :: rest =>
    remember fun memory =>
      { memory with arguments := rest, optionPlace := (1, none), status := 0 }
  | ['-'] :: rest => do
    let options := (← currentMemory).options.filter fun letter => letter != 'x' && letter != 'v'
    remember fun memory => { memory with options, status := 0 }
    if rest ≠ [] then
      remember fun memory => { memory with arguments := rest, optionPlace := (1, none) }
  | [sign, 'o'] :: name :: rest =>
    if sign == '-' || sign == '+' then do
      match optionNames.lookup (String.ofList name) with
      | some letter =>
        remember fun memory =>
          { memory with options := switchOption (sign == '-') memory.options letter }
        setArguments rest
      | none => abandon ("set: Illegal option -o " ++ String.ofList name)
    else
      remember fun memory =>
        { memory with
          arguments := [sign, 'o'] :: name :: rest, optionPlace := (1, none), status := 0 }
  | (sign :: letters) :: rest =>
    if (sign == '-' || sign == '+') && letters ≠ [] then do
      if areOptions (letters.filter (· != 'o')) then
        remember fun memory =>
          { memory with
            options := letters.foldl (switchOption (sign == '-')) memory.options }
        setArguments rest
      else
        abandon ("set: Illegal option -" ++ String.ofList letters)
    else
      remember fun memory =>
        { memory with
          arguments := (sign :: letters) :: rest, optionPlace := (1, none), status := 0 }
  | operands =>
    remember fun memory =>
      { memory with arguments := operands, optionPlace := (1, none), status := 0 }

/-- The state of the search for options among arguments: the place of the next
argument, counted from one, and the place in the argument before it. -/
structure OptionSearch where
  next : Nat
  inside : Option Nat
  letter : Char
  operand : Option Text
  finished : Bool := false
  complaint : Option String := none

/-- Look for the next option among arguments.  In the letters a colon follows
those that take an operand; one in front silences complaints. -/
def nextOption (letters : Text) (arguments : List Text) (next : Nat) (inside : Option Nat) :
    OptionSearch :=
  let inner : Text :=
    match inside with
    | some place => if next ≤ 1 then [] else (arguments.getD (next - 2) []).drop place
    | none => []
  let silent := letters.head? == some ':'
  let read (next : Nat) : Text → OptionSearch
    | [] => { next, inside := none, letter := '?', operand := none, finished := true }
    | letter :: rest =>
      let place := (arguments.getD (next - 2) []).length - rest.length
      let follows := (letters.dropWhile (· == ':')).dropWhile (· != letter)
      match follows, rest with
      | [], _ =>
        { next, inside := some place, letter := '?'
          operand := if silent then some [letter] else none
          complaint := if silent then none else some ("Illegal option -" ++ letter.toString) }
      | _ :: ':' :: _, [] =>
        match arguments[next - 1]? with
        | some operand => { next := next + 1, inside := none, letter, operand := some operand }
        | none =>
          if silent then { next, inside := some place, letter := ':', operand := some [letter] }
          else
            { next, inside := some place, letter := '?', operand := none
              complaint := some ("No arg for -" ++ letter.toString ++ " option") }
      | _ :: ':' :: _, rest => { next, inside := none, letter, operand := some rest }
      | _, _ => { next, inside := some place, letter, operand := some [] }
  if inner ≠ [] then
    read next inner
  else
    match arguments[next - 1]? with
    | some ['-', '-'] =>
      { next := next + 1, inside := none, letter := '?', operand := none, finished := true }
    | some ('-' :: c :: rest) => read (next + 1) (c :: rest)
    | _ => { next, inside := none, letter := '?', operand := none, finished := true }

/-- Look for the next option among the arguments, or among the operands if
there are more than two. -/
def getOption (operands : List Text) : Run Unit := do
  match operands with
  | letters :: name :: given =>
    let memory ← currentMemory
    let arguments := if given = [] then memory.arguments else given
    let (next, inside) := memory.optionPlace
    let (next, inside) := if arguments.length + 1 < next then (1, none) else (next, inside)
    let found := nextOption letters arguments (if next = 0 then 1 else next) inside
    match found.complaint with
    | some message => complain message
    | none => pure ()
    if !found.finished then
      remember fun memory =>
        match found.operand with
        | some operand => memory.assign ['O', 'P', 'T', 'A', 'R', 'G'] operand
        | none => memory.unassign ['O', 'P', 'T', 'A', 'R', 'G']
    assignVariable ['O', 'P', 'T', 'I', 'N', 'D'] (Text.ofNat found.next)
    remember fun memory => { memory with optionPlace := (found.next, found.inside) }
    assignVariable name [found.letter]
    setStatus (if found.finished then 1 else 0)
  | _ => reject "getopts: Usage: getopts optstring var [arg]"

/-! ## Variables -/

def quoteForShell (text : Text) : Text :=
  match text.dropWhile (· != '\'') with
  | [] => '\'' :: text ++ ['\'']
  | _ =>
    let pieces := text.splitOn '\''
    "'\"'\"'".toList.intercalate pieces |> fun inside => '\'' :: inside ++ ['\'']

def printVariables (words : String) (names : List Text) : Run Unit := do
  let memory ← currentMemory
  for name in names.mergeSort precedes do
    match memory.value? name with
    | some value => say (words.toList ++ name ++ '=' :: quoteForShell value ++ ['\n'])
    | none => if words ≠ "" then say (words.toList ++ name ++ ['\n'])

def splitAssignment (operand : Text) : Text × Option Text :=
  match operand.dropWhile (· != '=') with
  | _ :: value => (operand.takeWhile (· != '='), some value)
  | [] => (operand, none)

/-- Do something to variables, which are set first if their operands have the
form `name=value`. -/
def declare (command : String) (change : Memory → Text → Memory) (operands : List Text) :
    Run Unit := do
  for operand in operands do
    let (name, value) := splitAssignment operand
    if !Word.isName name then
      abandon (command ++ ": " ++ String.ofList name ++ ": bad variable name")
    match value with
    | some value => assignVariable name value
    | none => pure ()
    remember (change · name)
  setStatus 0

def exportVariables (operands : List Text) : Run Unit := do
  match operands.filter (· != ['-', 'p']) with
  | [] =>
    printVariables "export " (← currentMemory).exported
    setStatus 0
  | operands => declare "export" Memory.exporting operands

def fixVariables (operands : List Text) : Run Unit := do
  match operands.filter (· != ['-', 'p']) with
  | [] =>
    printVariables "readonly " (← currentMemory).fixed
    setStatus 0
  | operands =>
    declare "readonly" (fun memory name => { memory with fixed := name :: memory.fixed }) operands

def hideVariables (operands : List Text) : Run Unit := do
  if (← currentMemory).inFunction then
    for operand in operands do
      let name := (splitAssignment operand).1
      remember fun memory =>
        { memory with hidden := (name, memory.value? name) :: memory.hidden }
    declare "local" (fun memory _ => memory) operands
  else
    abandon "local: not in a function"

def forget (operands : List Text) : Run Unit := do
  let (functions, names) : Bool × List Text :=
    match operands with
    | ['-', 'f'] :: names => (true, names)
    | ['-', 'v'] :: names => (false, names)
    | names => (false, names)
  for name in names do
    if functions then
      remember fun memory =>
        { memory with functions := memory.functions.filter (·.1 != name) }
    else if (← currentMemory).fixed.contains name then
      abandon ("unset: " ++ String.ofList name ++ ": is read only")
    else
      remember (·.unassign name)
  setStatus 0

/-! ## Input -/

/-- The letters of the next line of an input, what follows it, and whether the
line was ended.  Unless the line is raw, a backslash hides what follows it, and
joins lines. -/
def readLetters (raw : Bool) : Text → List Letter × Text × Bool
  | [] => ([], [], false)
  | '\n' :: rest => ([], rest, true)
  | '\x00' :: rest => readLetters raw rest
  | c :: rest =>
    if c == '\\' && !raw then
      match rest with
      | [] => ([], [], false)
      | '\n' :: rest => readLetters raw rest
      | hidden :: rest =>
        let (letters, rest, ended) := readLetters raw rest
        (⟨hidden, true⟩ :: letters, rest, ended)
    else
      let (letters, rest, ended) := readLetters raw rest
      (⟨c, false⟩ :: letters, rest, ended)

/-- Bind variables in a row to the fields of a line; those for which there is
none are empty. -/
def bindFields : List Text → List Text → Run Unit
  | [], _ => pure ()
  | name :: names, fields => do
    assignVariable name (fields.headD [])
    bindFields names fields.tail

def readVariables : (raw : Bool) → List Text → Run Unit
  | _, ['-', 'r'] :: rest => readVariables true rest
  | raw, ['-', 'p'] :: _ :: rest => readVariables raw rest
  | raw, ['-', '-'] :: rest => readVariables raw rest
  | _, [] => reject "read: arg count"
  | raw, names => do
    let source ← peekInput
    let (letters, rest, ended) := readLetters raw (Text.ofBytes source.content)
    leaveInput rest.toBytes
    let separators := (← currentMemory).separators
    let line := letters.dropWhile (separatesAsBlank separators)
    bindFields names (lineFields separators names.length line)
    setStatus (if ended then 0 else 1)

/-! ## Directories -/

/-- A path from the root without idle pieces, where two full stops take away
the piece before them. -/
def simplifyPath (path : Text) : Text :=
  let pieces := (path.splitOn '/').foldl
    (fun pieces piece =>
      if piece = [] ∨ piece = ['.'] then pieces
      else if piece = ['.', '.'] then pieces.tail
      else piece :: pieces)
    []
  if pieces = [] then ['/'] else pieces.reverse.flatMap ('/' :: ·)

def directoryPath : Run Text := do
  let machine ← get
  let physical := Text.ofBytes (Host.absolutePath machine.host.current)
  match machine.memory.value? ['P', 'W', 'D'] with
  | some path =>
    match machine.host.find path.toBytes with
    | .ok (location, _) =>
      return if location = machine.host.current ∧ path.head? = some '/' then path else physical
    | .error _ => return physical
  | none => return physical

def changeDirectory (operands : List Text) : Run Unit := do
  let operands := operands.dropWhile fun operand =>
    [['-', 'L'], ['-', 'P'], ['-', '-']].contains operand
  let memory ← currentMemory
  let old ← directoryPath
  let goal : Text :=
    match operands with
    | [] => (memory.value? ['H', 'O', 'M', 'E']).getD []
    | ['-'] :: _ => (memory.value? ['O', 'L', 'D', 'P', 'W', 'D']).getD []
    | path :: _ => path
  let goal := if goal = [] then ['.'] else goal
  let full := if goal.head? = some '/' then goal else old ++ '/' :: goal
  let machine ← get
  let reached :=
    if isDirectory machine.host full then machine.host.enter (simplifyPath full).toBytes
    else .error (.os .noEntry)
  match reached with
  | .ok host =>
    set { machine with host }
    remember (·.assign ['O', 'L', 'D', 'P', 'W', 'D'] old)
    remember (·.assign ['P', 'W', 'D'] (simplifyPath full))
    if operands.head? = some ['-'] then say (simplifyPath full ++ ['\n'])
    setStatus 0
  | .error _ => reject ("cd: can't cd to " ++ String.ofList goal)

def printDirectory (operands : List Text) : Run Unit := do
  let physical := Text.ofBytes (Host.absolutePath (← get).host.current)
  let path ← if operands.contains ['-', 'P'] then pure physical else directoryPath
  say (path ++ ['\n'])
  setStatus 0

/-! ## Processes -/

def signalOwn (signal : Nat) : Run Unit := do
  match (← currentMemory).traps.lookup signal with
  | some [] => pure ()
  | some _ => remember fun memory => { memory with pending := memory.pending ++ [signal] }
  | none => if isDeadly signal then throw (.ended (.killed signal))

/-- Send a signal.  The shell knows no process but itself and those that it put
in the background; of these, one that was not yet carried out never is. -/
def sendSignal (operands : List Text) : Run Unit := do
  match signalRequest? operands with
  | some (signal, processes@(_ :: _)) =>
    let mut missing := false
    for process in processes do
      let machine ← get
      if process = Text.ofNat ownProcess ∨ process = ['0'] then
        signalOwn signal
      else if machine.tasks.any (Text.ofNat ·.process == process) then
        if isDeadly signal then
          set { machine with
            tasks := machine.tasks.filter (Text.ofNat ·.process != process)
            finished := (Word.number process, 128 + signal) :: machine.finished }
      else if !machine.finished.any (Text.ofNat ·.1 == process) then
        missing := true
    if missing then
      warn "kill: No such process"
      setStatus 1
    else
      setStatus 0
  | _ => reject "kill: Usage: kill [-s sigspec | -signum | -sigspec] [pid | job]..."

/-- Print the names of signals: all of them, or those of numbers and of codes
by which a shell knows them. -/
def listSignals (operands : List Text) : Run Unit := do
  match operands with
  | [] =>
    for (name, _) in signalNumbers do say (name.toList ++ ['\n'])
    setStatus 0
  | operand :: _ =>
    let number := Word.number operand
    let number := if 128 < number then number - 128 else number
    match operand.all Char.isDigit, signalNumbers.find? (·.2 == number) with
    | true, some (name, _) =>
      say (name.toList ++ ['\n'])
      setStatus 0
    | _, _ => reject "kill: Illegal number"

def trapSignal? (text : Text) : Option Nat :=
  if text.map Char.toUpper = "EXIT".toList then some 0 else signalOf? text

def trapName (signal : Nat) : String :=
  if signal = 0 then "EXIT"
  else ((signalNumbers.find? (·.2 == signal)).map (·.1)).getD (toString signal)

/-- Decide what to do about signals: a text to carry out, nothing at all, or
what is done without a decision. -/
def setTraps (operands : List Text) : Run Unit := do
  let operands := if operands.head? = some ['-', '-'] then operands.tail else operands
  match operands with
  | [] =>
    for (signal, action) in (← currentMemory).traps.mergeSort fun a b => decide (a.1 ≤ b.1) do
      say ("trap -- ".toList ++ quoteForShell action ++ ' ' :: (trapName signal).toList ++ ['\n'])
    setStatus 0
  | first :: rest =>
    let (action, signals) : Option Text × List Text :=
      if rest = [] ∨ (number? first).isSome then (none, operands)
      else if first = ['-'] then (none, rest)
      else (some first, rest)
    let mut status := 0
    for name in signals do
      match trapSignal? name with
      | none =>
        complain ("trap: " ++ String.ofList name ++ ": bad trap")
        status := 1
      | some signal =>
        remember fun memory =>
          let others := memory.traps.filter (·.1 != signal)
          { memory with
            traps := match action with
              | some action => (signal, action) :: others
              | none => others }
    setStatus status

/-- Show a bound on what programs may use, which the last option names.  A bound
that is given is taken as set. -/
def showBound (operands : List Text) : Run Unit := do
  if operands.all (·.head? = some '-') then
    match operands.flatten.getLast? with
    | some 'n' => say "1048576\n".toList
    | some 's' => say "8192\n".toList
    | _ => say "unlimited\n".toList
  setStatus 0

/-- The commands that the shell carries out itself and that only change what it
knows. -/
def builtIn? (name : Text) (operands : List Text) : Option (Run Unit) :=
  match String.ofList name with
  | ":" | "true" => some (setStatus 0)
  | "false" => some (setStatus 1)
  | "exit" => some (exitShell operands)
  | "return" => some (leaveFunction operands)
  | "break" => some (leaveLoops false operands)
  | "continue" => some (leaveLoops true operands)
  | "shift" => some (shiftArguments operands)
  | "set" =>
    some (if operands = [] then do
        printVariables "" ((← currentMemory).bindings.map (·.1))
        setStatus 0
      else
        setArguments operands)
  | "getopts" => some (getOption operands)
  | "export" => some (exportVariables operands)
  | "readonly" => some (fixVariables operands)
  | "local" => some (hideVariables operands)
  | "unset" => some (forget operands)
  | "read" => some (readVariables false operands)
  | "cd" | "chdir" => some (changeDirectory operands)
  | "pwd" => some (printDirectory operands)
  | "kill" =>
    some (if operands.head? = some ['-', 'l'] then listSignals operands.tail
      else sendSignal operands)
  | "trap" => some (setTraps operands)
  | "umask" =>
    some (do
      if operands = [] then say "0022\n".toList
      setStatus 0)
  | "ulimit" => some (showBound operands)
  | "times" =>
    some (do
      say "0m0.000000s 0m0.000000s\n0m0.000000s 0m0.000000s\n".toList
      setStatus 0)
  | "hash" | "alias" | "unalias" | "jobs" => some (setStatus 0)
  | "bg" | "fg" => some (reject "No current job")
  | _ => none

end AppLauncher.Shell
