import AppLauncher.Tools.Editor.Script
import AppLauncher.Tools.Lines

/-!
# Carrying out scripts of the line editor

Lines are read one after the other into the pattern space, the commands of the
script are carried out on it, and what is left of it is printed.  A second
space, which is empty at first, holds text from line to line.
-/

namespace AppLauncher.Tools.Editor

open Shell

structure Line where
  text : Text
  ended : Bool
deriving DecidableEq, Repr

inductive Queued where
  | text (text : Text)
  | file (path : Text)

structure State where
  space : Text := []
  held : Text := []
  ended : Bool := true
  number : Nat := 0
  rest : List Line
  /-- Whether anything was replaced since a line was read or this was asked. -/
  replaced : Bool := false
  recent : Option Regex := none
  /-- The commands whose ranges are open, and the lines that these end at. -/
  opened : List (Nat × Option Nat) := []
  queue : List Queued := []
  printed : List Text := []
  unfinished : Bool := false
  written : List (Text × Text) := []

structure Settings where
  script : Array EditCommand
  quiet : Bool
  contentOf : Text → Text

inductive Next where
  | goOn (place : Nat)
  | finish (prints : Bool)
  | again
  | quit (code : Nat) (prints : Bool)

namespace State

def say (state : State) (text : Text) : State :=
  let feed : Text := if state.unfinished then ['\n'] else []
  { state with printed := (feed ++ text) :: state.printed, unfinished := false }

/-- The state after printing a line, which ends as the line did that was read
last. -/
def sayLine (state : State) (text : Text) : State :=
  { state.say (if state.ended then text ++ ['\n'] else text) with unfinished := !state.ended }

def write (state : State) (path : Text) : State :=
  if path = "/dev/stdout".toList then state.sayLine state.space
  else { state with written := (path, state.space ++ ['\n']) :: state.written }

def flush (state : State) (settings : Settings) : State :=
  let flushed := state.queue.foldl
    (fun state item =>
      match item with
      | .text text => state.say text
      | .file path =>
        let content := settings.contentOf path
        if content = [] then state
        else
          { state.say content with unfinished := false })
    state
  { flushed with queue := [] }

def read? (state : State) (adds : Bool) : Option State :=
  match state.rest with
  | [] => none
  | line :: rest =>
    some
      { state with
        space := if adds then state.space ++ '\n' :: line.text else line.text
        ended := line.ended
        number := state.number + 1
        rest }

end State

/-! ## Selections -/

def Search.prepare (search : Search) (state : State) : Option (Regex × Regex.Subject) :=
  (search.regex.or state.recent).map fun regex =>
    (regex, { text := state.space.toArray, ignoresCase := search.ignoresCase })

def Address.holds (address : Address) (state : State) : Bool × State :=
  match address with
  | .number n => (state.number = n, state)
  | .every first step =>
    (if step = 0 then state.number = first
      else first ≤ state.number && (state.number - first) % step = 0, state)
  | .last => (state.rest = [], state)
  | .found search =>
    match search.prepare state with
    | none => (false, state)
    | some (regex, subject) =>
      ((Regex.search? regex subject 0).isSome, { state with recent := some regex })

def RangeEnd.line? (number : Nat) : RangeEnd → Option Nat
  | .address (.number n) => some n
  | .address _ => none
  | .later count => some (number + count)
  | .multiple n => some (if n = 0 then number else (number + n - 1) / n * n)

def Selection.isOpenAtStart (selection : Selection) : Bool :=
  match selection.first, selection.last with
  | some (.number 0), some (.address (.found _)) => true
  | _, _ => false

def rangeHolds (place : Nat) (first : Address) (last : RangeEnd) (state : State) :
    Bool × State :=
  let closed (state : State) : State :=
    { state with opened := state.opened.filter (·.1 != place) }
  match state.opened.lookup place with
  | some (some line) =>
    (state.number ≤ line, if line ≤ state.number then closed state else state)
  | some none =>
    match last with
    | .address address =>
      let (ends, state) := address.holds state
      (true, if ends then closed state else state)
    | _ => (true, state)
  | none =>
    match first.holds state with
    | (false, state) => (false, state)
    | (true, state) =>
      let line := last.line? state.number
      let isSingle := line.any (· ≤ state.number)
      (true, if isSingle then state else { state with opened := (place, line) :: state.opened })

def Selection.holds (selection : Selection) (place : Nat) (state : State) : Bool × State :=
  let (result, state) :=
    match selection.first, selection.last with
    | none, _ => (true, state)
    | some first, none => first.holds state
    | some first, some last => rangeHolds place first last state
  (result != selection.negated, state)

/-! ## Substitution -/

/-- A replacement that is being made: the text from its end, the change of
letters that is in force, and that of the next letter. -/
structure Replacement where
  reversed : Text := []
  change : CaseChange := .none
  next : CaseChange := .none

def Replacement.push (replacement : Replacement) (c : Char) : Replacement :=
  let changed :=
    match replacement.next, replacement.change with
    | .nextUpper, _ => c.toUpper
    | .nextLower, _ => c.toLower
    | _, .upper => c.toUpper
    | _, .lower => c.toLower
    | _, _ => c
  { replacement with reversed := changed :: replacement.reversed, next := .none }

def replacementFor (pieces : List Piece) (found : Regex.Match) (subject : Regex.Subject) :
    Text :=
  let result := pieces.foldl
    (fun (replacement : Replacement) piece =>
      match piece with
      | .text text => text.foldl Replacement.push replacement
      | .group index => (found.group subject index).foldl Replacement.push replacement
      | .change .nextUpper => { replacement with next := .nextUpper }
      | .change .nextLower => { replacement with next := .nextLower }
      | .change change => { replacement with change, next := .none })
    {}
  result.reversed.reverse

/-- A text from some place on with matches replaced, and whether any was.  An
empty match where the last one ended does not count. -/
def replaceFrom (substitution : Substitution) (regex : Regex) (subject : Regex.Subject) :
    (fuel : Nat) → (place count : Nat) → (previous : Option Nat) → Text × Bool
  | 0, place, _, _ => ((subject.text.toList.drop place), false)
  | fuel + 1, place, count, previous =>
    let rest (place : Nat) : Text := (subject.text.extract place subject.text.size).toList
    let upTo (last : Nat) : Text := (subject.text.extract place last).toList
    match Regex.search? regex subject place with
    | none => (rest place, false)
    | some found =>
      let isEmpty := found.first = found.last
      let oneMore := (subject.text.extract found.first (found.first + 1)).toList
      if isEmpty ∧ previous = some found.first then
        if subject.text.size ≤ found.first then (rest place, false)
        else
          let (text, replaced) :=
            replaceFrom substitution regex subject fuel (found.first + 1) count none
          (upTo found.first ++ oneMore ++ text, replaced)
      else
        let count := count + 1
        let isWanted := count = substitution.number
          || (substitution.global && substitution.number < count)
        let piece :=
          if isWanted then replacementFor substitution.pieces found subject
          else found.group subject 0
        if isWanted ∧ !substitution.global then
          (upTo found.first ++ piece ++ rest found.last, true)
        else if isEmpty then
          if subject.text.size ≤ found.first then (upTo found.first ++ piece, isWanted)
          else
            let (text, replaced) :=
              replaceFrom substitution regex subject fuel (found.first + 1) count none
            (upTo found.first ++ piece ++ oneMore ++ text, isWanted || replaced)
        else
          let (text, replaced) :=
            replaceFrom substitution regex subject fuel found.last count (some found.last)
          (upTo found.first ++ piece ++ text, isWanted || replaced)

def substitute (substitution : Substitution) (state : State) : State :=
  match substitution.search.prepare state with
  | none => state
  | some (regex, subject) =>
    let (space, replaced) :=
      replaceFrom substitution regex subject (state.space.length + 2) 0 0 none
    let state := { state with recent := some regex }
    if replaced then
      let state := { state with space, replaced := true }
      let state := if substitution.prints then state.sayLine space else state
      match substitution.path with
      | some path => state.write path
      | none => state
    else
      state

/-! ## Commands -/

def placeOf (script : Array EditCommand) (name : Text) : Nat :=
  (script.findIdx? fun command =>
    match command.edit with
    | .label known => known == name
    | _ => false).getD script.size

def afterClosing (script : Array EditCommand) : (fuel : Nat) → (depth place : Nat) → Nat
  | 0, _, _ => script.size
  | fuel + 1, depth, place =>
    match script[place]? with
    | none => script.size
    | some command =>
      match command.edit, depth with
      | .opening, depth => afterClosing script fuel (depth + 1) (place + 1)
      | .closing, 0 => place + 1
      | .closing, depth + 1 => afterClosing script fuel depth (place + 1)
      | _, depth => afterClosing script fuel depth (place + 1)

def shownCharacter (c : Char) : Text :=
  if c = '\\' then ['\\', '\\']
  else if CharacterClass.isPrintable c then [c]
  else
    match c with
    | '\n' => ['\\', 'n']
    | '\t' => ['\\', 't']
    | '\r' => ['\\', 'r']
    | '\x07' => ['\\', 'a']
    | '\x08' => ['\\', 'b']
    | '\x0C' => ['\\', 'f']
    | '\x0B' => ['\\', 'v']
    | c =>
      let digits := Nat.toDigits 8 c.toNat
      '\\' :: List.replicate (3 - digits.length) '0' ++ digits

def shownWidth : Nat := 69

/-- Characters as they are shown, in lines that end with a backslash where they
go on. -/
def shownLines (column : Nat) : List Text → Text
  | [] => ['$', '\n']
  | shown :: rest =>
    if shownWidth < column + shown.length then
      '\\' :: '\n' :: shown ++ shownLines shown.length rest
    else
      shown ++ shownLines (column + shown.length) rest

def firstLine (text : Text) : Text :=
  text.takeWhile (· != '\n')

def perform (settings : Settings) (place : Nat) (command : EditCommand) (state : State) :
    State × Next :=
  let next : Next := .goOn (place + 1)
  match command.edit with
  | .opening | .closing | .label _ => (state, next)
  | .substitute substitution => (substitute substitution state, next)
  | .replaceLetters source target =>
    let change (c : Char) : Char :=
      match (source.zip target).lookup c with
      | some meant => meant
      | none => c
    ({ state with space := state.space.map change }, next)
  | .append text => ({ state with queue := state.queue ++ [.text text] }, next)
  | .insert text => (state.say text, next)
  | .change text =>
    let isLast := command.selection.last.isNone || command.selection.negated
      || (state.opened.lookup place).isNone
    (if isLast then state.say text else state, .finish false)
  | .delete => (state, .finish false)
  | .deleteFirst =>
    if state.space.contains '\n' then
      ({ state with space := state.space.drop ((firstLine state.space).length + 1) }, .again)
    else
      (state, .finish false)
  | .print => (state.sayLine state.space, next)
  | .printFirst =>
    (state.say (firstLine state.space ++ ['\n']), next)
  | .next =>
    if state.rest = [] then (state, .quit 0 true)
    else
      let state := if settings.quiet then state else state.sayLine state.space
      match (state.flush settings).read? false with
      | some state => (state, next)
      | none => (state, .quit 0 false)
  | .appendNext =>
    match (state.flush settings).read? true with
    | some state => (state, next)
    | none => (state, .quit 0 true)
  | .hold => ({ state with held := state.space }, next)
  | .appendHold => ({ state with held := state.held ++ '\n' :: state.space }, next)
  | .fetch => ({ state with space := state.held }, next)
  | .appendFetch => ({ state with space := state.space ++ '\n' :: state.held }, next)
  | .exchange => ({ state with space := state.held, held := state.space }, next)
  | .lineNumber => (state.say (Text.ofNat state.number ++ ['\n']), next)
  | .show => (state.say (shownLines 0 (state.space.map shownCharacter)), next)
  | .empty => ({ state with space := [] }, next)
  | .quit code prints => (state, .quit code prints)
  | .branch name =>
    (state, .goOn (if name = [] then settings.script.size else placeOf settings.script name))
  | .branchIf replaced name =>
    let target := if name = [] then settings.script.size else placeOf settings.script name
    ({ state with replaced := false }, if state.replaced = replaced then .goOn target else next)
  | .readFile path => ({ state with queue := state.queue ++ [.file path] }, next)
  | .writeFile path => (state.write path, next)

def stepLimit : Nat := 1000000

def carryOut (settings : Settings) : (fuel : Nat) → (place : Nat) → State → State × Next
  | 0, _, state => (state, .quit 4 false)
  | fuel + 1, place, state =>
    match settings.script[place]? with
    | none => (state, .finish true)
    | some command =>
      match command.selection.holds place state with
      | (false, state) =>
        let isOpening := match command.edit with
          | .opening => true
          | _ => false
        carryOut settings fuel
          (if isOpening then
            afterClosing settings.script (settings.script.size + 1) 0 (place + 1)
          else place + 1)
          state
      | (true, state) =>
        match perform settings place command state with
        | (state, .goOn place) => carryOut settings fuel place state
        | result => result

def runLines (settings : Settings) : (fuel : Nat) → (reads : Bool) → State → State × Nat
  | 0, _, state => (state, 4)
  | fuel + 1, reads, state =>
    match if reads then state.read? false else some state with
    | none => (state, 0)
    | some state =>
      let printed (prints : Bool) (state : State) : State :=
        (if prints ∧ !settings.quiet then state.sayLine state.space else state).flush settings
      match carryOut settings stepLimit 0 { state with replaced := state.replaced && !reads } with
      | (state, .quit code prints) => (printed prints state, code)
      | (state, .again) => runLines settings fuel false (state.flush settings)
      | (state, .finish prints) => runLines settings fuel true (printed prints state)
      | (state, .goOn _) => runLines settings fuel true (printed true state)

def readLines (text : Text) : List Line :=
  (segments text).map fun segment => ⟨withoutEnd segment, segment.getLast? == some '\n'⟩

def run (settings : Settings) (rest : List Line) : State × Nat :=
  let isOpen := settings.script.toList.zipIdx.filter fun (command, _) =>
    command.selection.isOpenAtStart
  let size := rest.foldl (fun n line => n + line.text.length + 1) 0
  runLines settings (2 * size + 16) true
    { rest, opened := isOpen.map fun (_, place) => (place, none) }

/-! ## The program -/

def readPaths (script : Array EditCommand) : List Text :=
  script.toList.filterMap fun command =>
    match command.edit with
    | .readFile path => some path
    | _ => none

def writePaths (script : Array EditCommand) : List Text :=
  script.toList.filterMap fun command =>
    match command.edit with
    | .writeFile path => some path
    | .substitute substitution => substitution.path
    | _ => none

def writeAll (paths : List Text) (written : List (Text × Text)) : Run Unit := do
  for path in paths.eraseDups do
    if path ≠ "/dev/stdout".toList then
      let text := (written.reverse.filter (·.1 == path)).flatMap (·.2)
      let _ ← Shell.writeFile path text false

def keptName (path ending : Text) : Text :=
  if ending.contains '*' then ending.flatMap fun c => if c = '*' then path else [c]
  else path ++ ending

def editInPlace (settings : Settings) (ending : Text) (paths : List Text) : Run Nat := do
  let mut code := 0
  for path in paths do
    match ← Shell.contentOf path with
    | .error error =>
      complain (operandFailure "sed" path error)
      code := 4
    | .ok content =>
      let (state, ended) := run settings (readLines content)
      let rest := state.rest.flatMap fun line =>
        if line.ended then line.text ++ ['\n'] else line.text
      if ending ≠ [] then
        let _ ← Shell.writeFile (keptName path ending) content false
      let _ ← Shell.writeFile path (state.printed.reverse.flatten ++ rest) false
      writeAll (writePaths settings.script) state.written
      if ended ≠ 0 then code := ended
  return code

/-- The options as they are read: those that edit in place may have an ending
written to them. -/
def splitEnding (operands : List Text) : List Text × Option Text :=
  let isEditing (operand : Text) : Bool :=
    "-i".toList.isPrefixOf operand || "--in-place".toList.isPrefixOf operand
      || operand = "-ni".toList || operand = "-Ei".toList || operand = "-ri".toList
  let ending (operand : Text) : Text :=
    if "--in-place=".toList.isPrefixOf operand then operand.drop 11
    else if "--".toList.isPrefixOf operand then []
    else if "-i".toList.isPrefixOf operand then operand.drop 2
    else []
  let before := operands.takeWhile (· != ['-', '-'])
  match before.find? isEditing with
  | some operand =>
    let left := before.flatMap fun other =>
      if !isEditing other then [other]
      else if "-i".toList.isPrefixOf other || "--".toList.isPrefixOf other then []
      else [other.filter (· != 'i')]
    (left ++ operands.drop before.length, some (ending operand))
  | none => (operands, none)

def editLines (operands : List Text) : Run Nat := do
  let (operands, ending) := splitEnding operands
  let given := OptionRules.read
    { flags := "nErsuz"
      valued := "efl"
      words := [("quiet", 'n'), ("silent", 'n'), ("regexp-extended", 'E'), ("expression", 'e'),
        ("file", 'f'), ("separate", 's')] }
    operands
  unlessRefused "sed" 1 given do
    let mut sources : List Text := []
    for (letter, value) in given.options do
      if letter = 'e' then sources := value :: sources
      if letter = 'f' then
        match ← readAll value with
        | .ok content => sources := withoutEnd content :: sources
        | .error _ => pure ()
    let isListed := given.has 'e' || given.has 'f'
    let source : Text :=
      if isListed then (['\n'] : Text).intercalate sources.reverse
      else given.operands.headD []
    let files := if isListed then given.operands else given.operands.drop 1
    let kind : Regex.Kind := if given.has 'E' || given.has 'r' then .extended else .basic
    match if isListed || given.operands ≠ [] then readScript kind source else none with
    | none => failWith 1 "sed: the script makes no sense"
    | some script =>
      let mut contents : List (Text × Text) := []
      for path in readPaths script do
        match ← Shell.contentOf path with
        | .ok content => contents := (path, content) :: contents
        | .error _ => pure ()
      let known := contents
      let settings : Settings :=
        { script
          quiet := given.has 'n' || "#n\n".toList.isPrefixOf source
          contentOf := fun path => (known.lookup path).getD [] }
      match ending with
      | some ending => editInPlace settings ending files
      | none =>
        let source ← peekInput
        let (inputs, complete) ← inputsOf "sed" files
        let lines := inputs.map fun input => readLines input.content
        let mut code := 0
        let mut written : List (Text × Text) := []
        let mut rest : List Line := []
        for lines in if given.has 's' then lines else [lines.flatten] do
          let (state, ended) := run settings lines
          say state.printed.reverse.flatten
          written := state.written ++ written
          rest := state.rest
          if ended ≠ 0 then code := ended
        writeAll (writePaths script) written
        if source.isFile ∧ files = [] then
          let left := rest.flatMap fun line => line.text ++ ['\n']
          leaveInput (source.content.drop (source.content.length - left.length))
        return if code ≠ 0 then code else if complete then 0 else 2

end AppLauncher.Tools.Editor
