import AppLauncher.Shell.Evaluation
import AppLauncher.Tools.Calculation
import AppLauncher.Tools.Dump
import AppLauncher.Tools.Editor.Run
import AppLauncher.Tools.Files
import AppLauncher.Tools.Finding
import AppLauncher.Tools.Searching
import AppLauncher.Tools.Surroundings
import AppLauncher.Tools.Letters

/-!
# Running programs

The programs of the host itself, those that run other programs among them;
scripts that name their interpreters; and engines of any depth.
-/

namespace AppLauncher.Shell.Engine

open Tools

/-! ## Shells -/

def startVariables (directory : Text) : List (Text × Text) :=
  [("OPTIND", ['1']), ("PWD", directory), ("IFS", standardSeparators),
   ("PPID", Text.ofNat (ownProcess - 1)), ("PS1", ['#', ' ']), ("PS2", ['>', ' ']),
   ("PS4", ['+', ' '])].map fun (name, value) => (name.toList, value)

def standardPath : Text :=
  "/usr/local/sbin:/usr/local/bin:/usr/sbin:/usr/bin:/sbin:/bin".toList

def startMemory (name : Text) (arguments : List Text) (options : List Char) (directory : Text)
    (memory : Memory) : Memory :=
  let own := startVariables directory
  let memory := memory.inherited.exporting "PWD".toList
  let others := memory.bindings.filter fun binding => !own.any (·.1 == binding.1)
  let path := "PATH".toList
  { memory with
    name, arguments, options
    bindings :=
      own ++ (if others.any (·.1 == path) then others else (path, standardPath) :: others) }

def runShell (engine : Engine) (arguments : List Text) : Run Ending := do
  let (call, letters) := ShellCall.ofArguments [] arguments
  let options := letters.filter fun letter => letter != 'c' && letter != 'l'
  let directory ← directoryPath
  let start (source name : Text) (arguments : List Text) : Run Ending :=
    engine.inProcess (startMemory name arguments options directory) (engine.script false source)
  match call with
  | .refused =>
    complain "sh: 0: Illegal option"
    return .exited 2
  | .command source name arguments => start source name arguments
  | .input arguments =>
    let source ← takeInput
    start source ['s', 'h'] arguments
  | .script path arguments =>
    match ← readAll path with
    | .ok content => start content path arguments
    | .error (.os .isDirectory) => return .exited 0
    | .error _ =>
      complain ("sh: 0: cannot open " ++ String.ofList path ++ ": No such file")
      return .exited 2

/-! ## Programs that run programs -/

def runWith (engine : Engine) (caller : String) (change : Memory → Memory) (name : Text)
    (operands : List Text) : Run Ending := do
  let outer ← get
  remember change
  let ending ← engine.runFor caller name operands
  modify fun machine =>
    { machine with
      memory := outer.memory
      host := { machine.host with current := outer.host.current } }
  return ending

/-- The words that a line is split into: apostrophes and quotation marks keep
blanks, a backslash hides or gives meaning, braces after a dollar sign hold the
name of a variable, and a number sign at the start of a word ends the line. -/
def splitLine (value? : Text → Option Text) : (fuel : Nat) → (quote : Option Char) →
    (word : Option Text) → Text → List Text
  | 0, _, _, _ => []
  | fuel + 1, quote, word, text =>
    let closed : List Text := (word.map List.reverse).toList
    let push (piece rest : Text) : List Text :=
      splitLine value? fuel quote (some (piece.reverse ++ word.getD [])) rest
    match text with
    | [] => closed
    | '\\' :: c :: rest =>
      if quote = some '\'' ∧ c ≠ '\'' ∧ c ≠ '\\' then push ['\\', c] rest
      else
        match c with
        | 'c' => closed
        | '_' =>
          if quote = none then closed ++ splitLine value? fuel none none rest else push [' '] rest
        | c => push [if c = '\\' then c else (letterEscape? c).getD c] rest
    | c :: rest =>
      if quote = some c then splitLine value? fuel none (some (word.getD [])) rest
      else if quote = none ∧ (c = '\'' ∨ c = '"') then
        splitLine value? fuel (some c) (some (word.getD [])) rest
      else if quote = none ∧ CharacterClass.contains c .space then
        closed ++ splitLine value? fuel none none rest
      else if quote = none ∧ c = '#' ∧ word = none then
        []
      else if c = '$' ∧ rest.head? = some '\x7b' ∧ quote ≠ some '\'' then
        let name := rest.tail.takeWhile (· != '\x7d')
        push ((value? name).getD []) (rest.drop (name.length + 2))
      else
        push [c] rest

def finishEnvironment (engine : Engine) (change : Memory → Memory) (ending : Char)
    (directory : Option Text) (operands : List Text) : Run Ending := do
  let host := (← get).host
  match directory.map fun path => host.enter path.toBytes with
  | some (.error error) =>
    complain ("env: cannot change directory: " ++ error.message)
    return .exited 125
  | entered =>
    match operands with
    | [] =>
      for line in environmentLines (change (← currentMemory)) do say (line ++ [ending])
      return .exited 0
    | name :: operands =>
      match entered with
      | some (.ok host) => setHost host
      | _ => pure ()
      let withPath (memory : Memory) : Memory :=
        if (memory.value? "PATH".toList).isSome then memory
        else memory.assign "PATH".toList "/bin:/usr/bin".toList
      let result ← engine.runWith "env" (withPath ∘ change) name operands
      modify fun machine => { machine with host := { machine.host with current := host.current } }
      return result

/-- Run a program in an environment that the operands describe, or print that
environment. -/
def runEnvironment (engine : Engine) : (fuel : Nat) → (Memory → Memory) → (ending : Char) →
    (directory : Option Text) → List Text → Run Ending
  | 0, _, _, _, _ => return .exited 125
  | fuel + 1, change, ending, directory, operands => do
    let memory ← currentMemory
    let split (line : Text) : List Text :=
      splitLine memory.value? (2 * line.length + 2) none none line
    let goOn (more : Memory → Memory) (rest : List Text) : Run Ending :=
      engine.runEnvironment fuel (more ∘ change) ending directory rest
    let cleared (memory : Memory) : Memory := { memory with bindings := [], exported := [] }
    match operands with
    | [] => engine.finishEnvironment change ending directory []
    | ['-'] :: rest => goOn cleared rest
    | ['-', '-'] :: rest => assign fuel change ending directory rest
    | ['-', 'u'] :: name :: rest => goOn (·.unassign name) rest
    | ['-', 'S'] :: line :: rest => goOn id (split line ++ rest)
    | ['-', 'C'] :: path :: rest =>
      engine.runEnvironment fuel change ending (some path) rest
    | ('-' :: 'i' :: more) :: rest =>
      goOn cleared (if more = [] then rest else ('-' :: more) :: rest)
    | ('-' :: 'v' :: more) :: rest => goOn id (if more = [] then rest else ('-' :: more) :: rest)
    | ('-' :: '0' :: more) :: rest =>
      engine.runEnvironment fuel change '\x00' directory
        (if more = [] then rest else ('-' :: more) :: rest)
    | ('-' :: 'S' :: line) :: rest => goOn id (split line ++ rest)
    | ('-' :: 'u' :: name) :: rest => goOn (·.unassign name) rest
    | ('-' :: 'C' :: path) :: rest =>
      engine.runEnvironment fuel change ending (some path) rest
    | ('-' :: word) :: rest =>
      let name := word.takeWhile (· != '=')
      let value := word.drop (name.length + 1)
      match String.ofList name with
      | "-ignore-environment" => goOn cleared rest
      | "-null" => engine.runEnvironment fuel change '\x00' directory rest
      | "-unset" => goOn (·.unassign value) rest
      | "-chdir" => engine.runEnvironment fuel change ending (some value) rest
      | "-split-string" => goOn id (split value ++ rest)
      | _ =>
        complain "env: invalid option"
        return .exited 125
    | operands => assign fuel change ending directory operands
where
  assign (fuel : Nat) (change : Memory → Memory) (ending : Char) (directory : Option Text) :
      List Text → Run Ending
    | [] => engine.finishEnvironment change ending directory []
    | operand :: rest =>
      match splitAssignment operand with
      | (name, some value) =>
        assign fuel (fun memory => ((change memory).assign name value).exporting name) ending
          directory rest
      | _ => engine.finishEnvironment change ending directory (operand :: rest)

def runAnyway (engine : Engine) (caller : String) (rules : OptionRules)
    (operands : List Text) : Run Ending := do
  let given := { rules with anywhere := false }.read operands
  match given.refused, given.operands with
  | false, name :: operands => engine.runWith caller id name operands
  | _, _ =>
    complain (caller ++ ": wrong operands")
    return .exited 125

def timeUnits : List (String × Nat) :=
  [("", 1000), ("s", 1000), ("m", 60000), ("h", 3600000), ("d", 86400000)]

def milliseconds? (text : Text) : Option Nat :=
  let whole := text.takeWhile Char.isDigit
  let rest := text.drop whole.length
  let (fraction, unit) : Text × Text :=
    match rest with
    | '.' :: rest => (rest.takeWhile Char.isDigit, rest.dropWhile Char.isDigit)
    | rest => ([], rest)
  if whole = [] ∧ fraction = [] then
    none
  else
    (timeUnits.lookup (String.ofList unit)).map fun factor =>
      Word.number (whole ++ fraction) * factor / Nat.pow 10 fraction.length

/-- Let time pass, in which what is in the background goes on.  Whoever sleeps
longer than is observed is not seen to wake. -/
def pause (engine : Engine) (operands : List Text) : Run Ending := do
  match operands.mapM milliseconds? with
  | none | some [] =>
    complain "sleep: invalid time interval"
    return .exited 1
  | some spans =>
    let span := spans.foldl (· + ·) 0
    match (← get).patience with
    | none => engine.runTasksFor 0 span
    | some patience =>
      modify fun machine => { machine with patience := some (patience - span) }
      if patience ≤ span ∧ span ≠ 0 then throw (.ended (.killed 15))
    return .exited 0

def runWithin (engine : Engine) (operands : List Text) : Run Ending := do
  let given := OptionRules.read
    { flags := "vfp", valued := "ks"
      words := [("signal", 's'), ("kill-after", 'k'), ("preserve-status", 'p'),
        ("foreground", 'f')]
      anywhere := false }
    operands
  match given.refused, given.operands with
  | false, span :: name :: operands =>
    match milliseconds? span with
    | none =>
      complain "timeout: invalid time interval"
      return .exited 125
    | some span =>
      let outer := (← get).patience
      let limit :=
        if span = 0 then outer else some (outer.elim span fun n => if n < span then n else span)
      modify fun machine => { machine with patience := limit }
      let result ← observe (engine.runWith "timeout" id name operands)
      let isOver := (← get).patience = some 0
      modify fun machine => { machine with patience := outer }
      match result with
      | .error (.ended (.killed _)) => return .exited 124
      | .ok (.killed signal) => return .exited (if isOver then 124 else 128 + signal)
      | result => resume result
  | _, _ =>
    complain "timeout: missing operand"
    return .exited 125

structure ArgumentLines where
  atMost : Option Nat := none
  lines : Option Nat := none
  placeholder : Option Text := none
  separator : Option Char := none
  unlessEmpty : Bool := false

def wordsOf : (quote : Option Char) → (word : Option Text) → Text → List Text
  | _, word, [] => (word.map List.reverse).toList
  | none, word, '\\' :: c :: rest => wordsOf none (some (c :: word.getD [])) rest
  | quote, word, c :: rest =>
    if quote = some c then wordsOf none (some (word.getD [])) rest
    else if quote = none ∧ (c = '\'' ∨ c = '"') then wordsOf (some c) (some (word.getD [])) rest
    else if quote = none ∧ (Word.isBlank c ∨ c = '\n') then
      (word.map List.reverse).toList ++ wordsOf none none rest
    else wordsOf quote (some (c :: word.getD [])) rest

def parts {α : Type} (size : Nat) : (fuel : Nat) → List α → List (List α)
  | 0, _ => []
  | fuel + 1, items =>
    match items with
    | [] => []
    | items => items.take size :: parts size fuel (items.drop size)

def replaceMark (mark value : Text) : (fuel : Nat) → Text → Text
  | 0, text => text
  | fuel + 1, text =>
    match text with
    | [] => []
    | c :: rest =>
      if mark ≠ [] ∧ mark.isPrefixOf (c :: rest) then
        value ++ replaceMark mark value fuel ((c :: rest).drop mark.length)
      else c :: replaceMark mark value fuel rest

def ArgumentLines.calls (lines : ArgumentLines) (call : List Text) (input : Text) :
    List (List Text) :=
  let separated (c : Char) : List Text :=
    let pieces := input.splitOn c
    if pieces.getLast? = some [] then pieces.dropLast else pieces
  match lines.placeholder with
  | some mark =>
    let items : List Text := match lines.separator with
      | some c => separated c
      | none =>
        ((linesOf input).map fun line => line.dropWhile Word.isBlank).filter (· != [])
    items.map fun item => call.map fun word => replaceMark mark item (word.length + 1) word
  | none =>
    let groups : List (List Text) :=
      match lines.lines, lines.separator with
      | some count, _ =>
        let full := (linesOf input).filter fun line => line.any (!Word.isBlank ·)
        (parts count (full.length + 1) full).map fun group => group.flatMap (wordsOf none none)
      | none, some c =>
        let size := input.length + 1
        parts (lines.atMost.getD size) size (separated c)
      | none, none =>
        let words := wordsOf none none input
        parts (lines.atMost.getD (words.length + 1)) (words.length + 1) words
    if groups = [] then (if lines.unlessEmpty then [] else [call])
    else groups.map (call ++ ·)

def runForInput (engine : Engine) (operands : List Text) : Run Ending := do
  let given := OptionRules.read
    { flags := "0rtxpo", valued := "nILPdEsa"
      words := [("null", '0'), ("no-run-if-empty", 'r'), ("max-args", 'n'), ("replace", 'I'),
        ("max-lines", 'L'), ("delimiter", 'd'), ("max-procs", 'P'), ("verbose", 't'),
        ("arg-file", 'a')]
      anywhere := false }
    operands
  if given.refused then
    complain "xargs: invalid option"
    return .exited 1
  let separator := match given.value? 'd' with
    | some ['\\', c] => (if c = '0' then some '\x00' else letterEscape? c)
    | some (c :: _) => some c
    | _ => if given.has '0' then some '\x00' else none
  let lines : ArgumentLines :=
    { atMost := (given.value? 'n').map Word.number
      lines := (given.value? 'L').map Word.number
      placeholder := given.value? 'I'
      separator
      unlessEmpty := given.has 'r' || given.has 'I' }
  let call := if given.operands = [] then ["echo".toList] else given.operands
  let input ← match given.value? 'a' with
    | some path => pure ((← contentOf path).toOption.getD [])
    | none => takeInput
  let channel ← addSource ⟨[], false⟩
  let mut code := 0
  for call in lines.calls call input do
    if code ≠ 126 ∧ code ≠ 127 ∧ code ≠ 124 ∧ code ≠ 125 then
      match call with
      | [] => pure ()
      | name :: operands =>
        match ← engine.runWith "xargs" (·.connect 0 (some channel)) name operands with
        | .killed _ => code := 125
        | .exited result =>
          let result := result % 256
          if result = 127 ∨ result = 126 then code := result
          else if result = 255 then code := 124
          else if result ≠ 0 then code := 123
  return .exited code

def carryOutDeed (engine : Engine) (deed : Finding.Deed) : Run Bool := do
  match deed with
  | .print text =>
    say text
    return true
  | .delete path =>
    let host := (← get).host
    let withoutFile := (host.removeFile path.toBytes).toOption
    match withoutFile.or (host.removeDirectory path.toBytes).toOption with
    | some host =>
      setHost host
      return true
    | none => return false
  | .call (name :: operands) =>
    let _ ← engine.runWith "find" id name operands
    return true
  | .call [] => return true
  | .callOnce _ _ => return true

def runFind (engine : Engine) (operands : List Text) : Run Ending := do
  match Finding.readRequest? operands with
  | none =>
    complain "find: the expression makes no sense"
    return .exited 1
  | some request =>
    let mut complete := true
    let mut calls : List (List Text × Text) := []
    for start in request.starts do
      match request.deeds? (← get).host start with
      | none =>
        complain (operandFailure "find" start (.os .noEntry))
        complete := false
      | some deeds =>
        for deed in deeds do
          match deed with
          | .callOnce words path => calls := (words, path) :: calls
          | deed => if !(← engine.carryOutDeed deed) then complete := false
    for words in (calls.map (·.1)).eraseDups do
      let paths := (calls.reverse.filter (·.1 == words)).map (·.2)
      match words with
      | name :: operands =>
        if (← engine.runWith "find" id name (operands ++ paths)) ≠ .exited 0 then
          complete := false
      | [] => pure ()
    return .exited (codeOf complete)

/-! ## The host's own programs -/

def printFormatted (operands : List Text) : Run Nat := do
  formatOperands operands
  let code := (← currentMemory).status
  return if code = 0 then 0 else 1

def runTool (name : Text) (operands : List Text) : Tool → Run Nat
  | .echo => do
    say (printOperands operands)
    return 0
  | .printf => printFormatted operands
  | .test => do
    let host := (← get).host
    return if name.getLast? = some '[' then Condition.bracketCode host operands
      else Condition.code host operands
  | .concatenate => Tools.concatenate operands
  | .copyThrough => Tools.copyThrough operands
  | .reverseLines => Tools.reverseLines operands
  | .reverseLetters => Tools.reverseLetters operands
  | .numberLines => Tools.numberLines operands
  | .head => printStart operands
  | .tail => printEnd operands
  | .wordCount => countParts operands
  | .distinctLines => Tools.distinctLines operands
  | .cutLines => Tools.cutLines operands
  | .pasteLines => Tools.pasteLines operands
  | .foldLines => Tools.foldLines operands
  | .sequence => printSequence operands
  | .endless => printEndlessly operands
  | .sortLines => Tools.sortLines operands
  | .replaceLetters => replaceLetters operands
  | .search => searchLines (some .basic) operands
  | .searchExtended => searchLines (some .extended) operands
  | .searchPlain => searchLines none operands
  | .editLines => Editor.editLines operands
  | .calculate => Calculation.calculate operands
  | .dump => Tools.dump operands
  | .baseName => printBaseNames operands
  | .directoryName => printDirectoryNames operands
  | .linkTarget => printLinks false operands
  | .fullPath => printLinks true operands
  | .touch => touchFiles operands
  | .makeDirectory => makeDirectories operands
  | .removeDirectory => removeDirectories operands
  | .remove => removeFiles operands
  | .copy => copyFiles operands
  | .move => moveFiles operands
  | .link => linkFiles operands
  | .changeMode => changeModes operands
  | .list => listNames operands
  | .compare => compareInputs false operands
  | .difference => compareInputs true operands
  | .makeTemporary => Tools.makeTemporary operands
  | .printDirectory => printCurrent operands
  | .printEnvironment => Tools.printEnvironment operands
  | .locate => locatePrograms operands
  | .identity => printIdentity operands
  | .userName => do
    say "root\n".toList
    return 0
  | .systemName => printSystem operands
  | .fail => return 1
  | _ => return 0

def runOwn (engine : Engine) (path : Text) (operands : List Text) (tool : Tool) :
    Run Ending := do
  match tool with
  | .shell => engine.runShell operands
  | .environment =>
    let size := operands.foldl (fun n operand => n + operand.length + 1) 16
    engine.runEnvironment (2 * size) id '\n' none operands
  | .withoutHangup => engine.runAnyway "nohup" { flags := "wfc" } operands
  | .urgency =>
    engine.runAnyway "nice" { valued := "n", words := [("adjustment", 'n')] }
      (withLetter ['-'] 'n' operands)
  | .timeLimit => engine.runWithin operands
  | .forInput => engine.runForInput operands
  | .find => engine.runFind operands
  | .pause => engine.pause operands
  | tool => return .exited (← runTool path operands tool)

/-! ## Files as programs -/

/-- Run the program in a file.  Scripts are run by the interpreters that they
name, which may be scripts so many times. -/
def executeFile (engine : Engine) : (levels : Nat) → Text → List Text →
    Run (Except FileError Ending)
  | levels, path, operands => do
    match (← get).host.find path.toBytes with
    | .error error => return .error error
    | .ok (_, .file body true) =>
      match body with
      | .program tool => return .ok (← engine.runOwn path operands tool)
      | .bytes content =>
        match interpreter? content, levels with
        | none, _ => return .error (.os .notExecutableFormat)
        | some ([], _), _ => return .error (.os .accessDenied)
        | some (interpreter, operand), levels + 1 =>
          engine.executeFile levels interpreter (operand ++ path :: operands)
        | some (interpreter, _), 0 =>
          match (← get).host.find interpreter.toBytes with
          | .error error => return .error error
          | .ok (_, .file _ true) => return .error (.os .tooManyLinks)
          | .ok _ => return .error (.os .accessDenied)
      | .library _ | .void => return .error (.os .notExecutableFormat)
    | .ok _ => return .error (.os .accessDenied)

/-! ## Engines -/

def above (engine : Engine) : Engine :=
  { script := fun tested text => engine.carryOutScript tested (text.length + 1) text
    command := engine.carryOut
    execute := engine.executeFile interpreterLimit }

def ofDepth : (depth : Nat) → Engine
  | 0 =>
    { script := fun _ _ => endShell 2
      command := fun _ _ => endShell 2
      execute := fun _ _ => endShell 2 }
  | depth + 1 =>
    { script := fun tested text => (ofDepth depth).above.script tested text
      command := fun tested command => (ofDepth depth).above.command tested command
      execute := fun path operands => (ofDepth depth).above.execute path operands }

end AppLauncher.Shell.Engine
