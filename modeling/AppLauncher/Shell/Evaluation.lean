import AppLauncher.Shell.Condition
import AppLauncher.Shell.Engine

/-!
# Carrying out commands

What an engine does for each kind of command, given another engine for what
stands inside it.
-/

namespace AppLauncher.Shell.Engine

def roundLimit : Nat := 100000

/-! ## Simple commands -/

def callFunction (engine : Engine) (tested : Bool) (body : Command) (operands : List Text) :
    Run Unit := do
  let outer ← currentMemory
  remember fun memory =>
    { memory with
      arguments := operands, loopDepth := 0, inFunction := true, hidden := []
      optionPlace := (1, none) }
  let result ← observe (engine.command tested body)
  for (name, value) in (← currentMemory).hidden do
    remember (·.restore name value)
  remember fun memory =>
    { memory with
      arguments := outer.arguments, loopDepth := outer.loopDepth
      inFunction := outer.inFunction, hidden := outer.hidden
      optionPlace := outer.optionPlace }
  match result with
  | .error .returned => pure ()
  | result => resume result

def carryOutFile (engine : Engine) (operands : List Text) : Run Unit := do
  match operands with
  | [] => abandon ".: path expected"
  | path :: _ =>
    let host := (← get).host
    let candidates ←
      if path.contains '/' then pure [path]
      else pure ((← searchPath).map fun directory =>
        Text.ofBytes (Path.join directory path.toBytes))
    match candidates.find? fun path => host.isFile path.toBytes with
    | none => abandon (".: cannot open " ++ String.ofList path)
    | some path =>
      match ← contentOf path with
      | .error _ => abandon (".: cannot open " ++ String.ofList path)
      | .ok content =>
        setStatus 0
        match ← observe (engine.script false content) with
        | .error .returned => pure ()
        | result => resume result

def sayPrinted (printed : Printed) : Run Unit := do
  if ← canWrite 1 then
    say printed.text
    if printed.code ≠ 0 then warn "printf: bad conversion"
    setStatus printed.code
  else
    warn "I/O error"
    setStatus 1

def formatOperands (operands : List Text) : Run Unit := do
  match operands with
  | [] => reject "printf: usage: printf format [arg ...]"
  | ['-', '-'] :: format :: operands => sayPrinted (printFormat format operands)
  | ('-' :: letter :: more) :: operands =>
    if more = [] ∧ letter = '-' ∧ operands = [] then
      reject "printf: usage: printf format [arg ...]"
    else
      reject ("printf: Illegal option -" ++ letter.toString)
  | format :: operands => sayPrinted (printFormat format operands)

def evaluateText (engine : Engine) (tested : Bool) (text : Text) : Run Unit := do
  if (Command.skipAll text) = [] then setStatus 0 else engine.script tested text

def become (engine : Engine) (operands : List Text) : Run Unit := do
  match operands with
  | [] => setStatus 0
  | name :: operands =>
    let ending ← engine.runProgram name operands
    remember fun memory => { memory with traps := memory.traps.filter (·.1 != 0) }
    throw (.ended ending)

def own? (engine : Engine) (tested : Bool) (name : Text) (operands : List Text) :
    Option (Run Unit) :=
  match String.ofList name with
  | "eval" => some (engine.evaluateText tested (unwords operands))
  | "." => some (engine.carryOutFile operands)
  | "exec" => some (engine.become operands)
  | "wait" => some (engine.waitFor operands)
  | "type" =>
    some do
      setStatus 0
      for name in operands do describe false name
  | "echo" =>
    some (sayPrinted { text := printLine operands })
  | "printf" => some (formatOperands operands)
  | "test" => some do setStatus (Condition.code (← get).host operands)
  | "[" => some do setStatus (Condition.bracketCode (← get).host operands)
  | _ => builtIn? name operands

def callPlain (engine : Engine) (tested : Bool) (name : Text) (operands : List Text) :
    Run Unit := do
  match engine.own? tested name operands with
  | some action => action
  | none => setStatus (← engine.runProgram name operands).code

def callCommand (engine : Engine) (tested : Bool) : List Text → Run Unit
  | [] => setStatus 0
  | ['-', 'p'] :: operands => engine.callCommand tested operands
  | ['-', '-'] :: operands => engine.callCommand tested operands
  | ['-', 'v'] :: operands => describe true (operands.headD [])
  | ['-', 'V'] :: operands => describe false (operands.headD [])
  | name :: operands =>
    if name = "command".toList then engine.callCommand tested operands
    else engine.callPlain tested name operands

def callNamed (engine : Engine) (tested : Bool) (name : Text) (operands : List Text) :
    Run Unit := do
  match (← currentMemory).functions.lookup name with
  | some body => engine.callFunction tested body operands
  | none =>
    if name = "command".toList then engine.callCommand tested operands
    else engine.callPlain tested name operands

/-- The fields of a command's words.  Operands that are assignments to commands
that declare variables are not split. -/
def commandFields (engine : Engine) (words : List Word) : Run (List Text) := do
  let declares := (words.head?.bind Word.plainText?).any fun name =>
    ["export", "readonly", "local"].contains (String.ofList name)
  if declares then
    let mut all : List (List Text) := []
    for word in words do
      let fields ← match Command.assignment? word with
        | some (name, value) =>
          pure [name ++ '=' :: (← Expansion.value engine.insertion value)]
        | none => Expansion.fields engine.insertion [word]
      all := fields :: all
    return all.reverse.flatten
  else
    Expansion.fields engine.insertion words

def trace (assignments : List (Text × Text)) (fields : List Text) : Run Unit := do
  if (← currentMemory).options.contains 'x' then
    let shown := (assignments.map fun (name, value) => name ++ '=' :: value) ++ fields
    emit 2 ('+' :: ' ' :: unwords shown ++ ['\n'])

/-- End the shell after a failure, if the shell is so set and the outcome is
not tested. -/
def checkStatus (tested : Bool) : Run Unit := do
  let memory ← currentMemory
  if memory.options.contains 'e' && !tested && memory.status ≠ 0 then endShell memory.status

def assignAll (engine : Engine) (change : Memory → Text → Memory) :
    List (Text × Word) → Run (List (Text × Text))
  | [] => return []
  | (name, word) :: rest => do
    let value ← Expansion.value engine.insertion word
    assignVariable name value
    remember (change · name)
    return (name, value) :: (← engine.assignAll change rest)

/-- Carry out an action with some variables set for it, which are afterwards as
they were. -/
def withVariables (names : List Text) (action : Run Unit) : Run Unit := do
  let before ← currentMemory
  let result ← observe action
  for name in names do
    remember fun memory =>
      let memory := memory.restore name (before.value? name)
      { memory with
        exported :=
          if before.exported.contains name then memory.exported
          else memory.exported.filter (· != name) }
  resume result

/-- Carry out a simple command.  What is assigned for a command that is special
stays; for any other, it is for that command only. -/
def simple (engine : Engine) (tested : Bool) (assignments : List (Text × Word))
    (words : List Word) (redirects : List Redirect) : Run Unit := do
  remember fun memory => { memory with insertedStatus := 0 }
  let fields ← engine.commandFields words
  match fields with
  | [] =>
    let possible ← engine.withRedirects redirects do
      trace (← engine.assignAll (fun memory _ => memory) assignments) []
    let memory ← currentMemory
    setStatus (if possible then memory.insertedStatus else 2)
  | name :: operands =>
    let functions := (← currentMemory).functions
    let isSpecial :=
      specialNames.contains (String.ofList name) && (functions.lookup name).isNone
    let call : Run Unit := do
      let keep (memory : Memory) (name : Text) : Memory :=
        if isSpecial && fields.head? != some "exec".toList then memory
        else memory.exporting name
      trace (← engine.assignAll keep assignments) (name :: operands)
      engine.callNamed tested name operands
    if name = "exec".toList ∧ operands = [] then
      if ← engine.redirectAll redirects then call else endShell 2
    else
      let possible ← engine.withRedirects redirects
        (if isSpecial then call else withVariables (assignments.map (·.1)) call)
      if !possible then
        if isSpecial then endShell 2 else setStatus 2
  engine.answerPending
  checkStatus tested

/-! ## Compound commands -/

inductive Round where
  | next
  | last
deriving DecidableEq, Repr

def round (action : Run Unit) : Run (Option Round) := do
  match ← observe action with
  | .ok () => return none
  | .error (.loops count again) =>
    if 1 < count then throw (.loops (count - 1) again)
    else return some (if again then .next else .last)
  | .error other => throw other

def asLoop (action : Run Unit) : Run Unit := do
  let depth := (← currentMemory).loopDepth
  remember fun memory => { memory with loopDepth := depth + 1 }
  let result ← observe action
  remember fun memory => { memory with loopDepth := depth }
  resume result

/-- Repeat a body as long as a test gives a certain answer.  The status is that
of the last round. -/
def repeatWhile (engine : Engine) (tested whileTrue : Bool) (test body : Command) :
    (rounds : Nat) → (status : Nat) → Run Unit
  | 0, _ => endShell 2
  | rounds + 1, status => do
    match ← round (engine.command true test) with
    | some .next => engine.repeatWhile tested whileTrue test body rounds status
    | some .last => setStatus status
    | none =>
      if ((← currentMemory).status == 0) == whileTrue then
        match ← round (engine.command tested body) with
        | some .last => pure ()
        | _ =>
          engine.repeatWhile tested whileTrue test body rounds (← currentMemory).status
      else
        setStatus status

def forEach (engine : Engine) (tested : Bool) (name : Text) (body : Command) :
    List Text → Run Unit
  | [] => pure ()
  | value :: rest => do
    assignVariable name value
    match ← round (engine.command tested body) with
    | some .last => pure ()
    | _ => engine.forEach tested name body rest

def branch (engine : Engine) (tested : Bool) (subject : Text) :
    List (List Word × Command) → Run Unit
  | [] => setStatus 0
  | (patterns, body) :: branches => do
    let mut found := false
    for pattern in patterns do
      if !found then
        let letters ← Expansion.letters engine.insertion pattern
        found := (Pattern.ofLetters letters).accepts subject
    if found then engine.command tested body else engine.branch tested subject branches

def isNothing : Command → Bool
  | .nothing => true
  | _ => false

def carryOut (engine : Engine) (tested : Bool) (command : Command) : Run Unit := do
  if (← currentMemory).options.contains 'n' then return
  match command with
  | .nothing => setStatus 0
  | .simple assignments words redirects => engine.simple tested assignments words redirects
  | .sequence first second =>
    engine.command tested first
    if !isNothing second then engine.carryOut tested second
  | .both first second =>
    engine.command true first
    if (← currentMemory).status = 0 then engine.command tested second
  | .either first second =>
    engine.command true first
    if (← currentMemory).status ≠ 0 then engine.command tested second
  | .negated inner =>
    engine.command true inner
    setStatus (if (← currentMemory).status = 0 then 1 else 0)
  | .pipe first second =>
    let (text, _) ← engine.collect (engine.command tested first)
    let channel ← addSource ⟨text.toBytes, false⟩
    setStatus (← engine.inSubshell (·.connect 0 (some channel)) (engine.command tested second))
    checkStatus tested
  | .condition test body otherwise =>
    engine.command true test
    if (← currentMemory).status = 0 then engine.command tested body
    else if isNothing otherwise then setStatus 0
    else engine.command tested otherwise
  | .loop whileTrue test body =>
    asLoop (engine.repeatWhile tested whileTrue test body roundLimit 0)
  | .each name words body =>
    let values ← match words with
      | some words => Expansion.fields engine.insertion words
      | none => pure (← currentMemory).arguments
    setStatus 0
    asLoop (engine.forEach tested name body values)
  | .select subject branches =>
    let subject ← Expansion.text engine.insertion subject
    engine.branch tested subject branches
  | .subshell body =>
    setStatus (← engine.inSubshell id (engine.command tested body))
    checkStatus tested
  | .background body => putAside body
  | .redirected body redirects =>
    let possible ← engine.withRedirects redirects (engine.command tested body)
    if !possible then setStatus 2
  | .define name body =>
    remember fun memory =>
      { memory with
        functions := (name, body) :: memory.functions.filter (·.1 != name), status := 0 }
termination_by command

def carryOutScript (engine : Engine) (tested : Bool) : (fuel : Nat) → Text → Run Unit
  | 0, _ => endShell 2
  | fuel + 1, text => do
    match Command.readNext text with
    | none => pure ()
    | some none => abandon "Syntax error"
    | some (some (command, rest)) =>
      engine.command tested command
      engine.carryOutScript tested fuel rest

end AppLauncher.Shell.Engine
