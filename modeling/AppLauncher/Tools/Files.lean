import AppLauncher.Shell.Matching
import AppLauncher.Tools.Lines

/-!
# Programs for files

Programs that copy, move, remove, make and list files and directories, and
that tell something about paths.
-/

namespace AppLauncher.Tools

open Shell

/-! ## Names -/

def baseName (path ending : Text) : Text :=
  let trimmed := (path.reverse.dropWhile (· == '/')).reverse
  let name := (trimmed.reverse.takeWhile (· != '/')).reverse
  if trimmed = [] then path.take 1
  else if ending.isSuffixOf name && ending != name then name.take (name.length - ending.length)
  else name

def directoryName (path : Text) : Text :=
  let trimmed := (path.reverse.dropWhile (· == '/')).reverse
  let parent := ((trimmed.reverse.dropWhile (· != '/')).dropWhile (· == '/')).reverse
  if !trimmed.contains '/' then (if trimmed = [] && path != [] then ['/'] else ['.'])
  else if parent = [] then ['/']
  else parent

def printBaseNames (operands : List Text) : Run Nat := do
  let given := OptionRules.read
    { flags := "az", valued := "s", words := [("multiple", 'a'), ("suffix", 's')]
      anywhere := false }
    operands
  unlessRefused "basename" 1 given do
    match given.has 'a' || given.has 's', given.operands with
    | _, [] => failWith 1 "basename: missing operand"
    | true, paths =>
      say (unlines (paths.map (baseName · ((given.value? 's').getD []))))
      return 0
    | false, [path] =>
      say (baseName path [] ++ ['\n'])
      return 0
    | false, [path, ending] =>
      say (baseName path ending ++ ['\n'])
      return 0
    | false, _ => failWith 1 "basename: extra operand"

def printDirectoryNames (operands : List Text) : Run Nat := do
  let given := OptionRules.read { flags := "z" } operands
  unlessRefused "dirname" 1 given do
    if given.operands = [] then failWith 1 "dirname: missing operand"
    else
      say (unlines (given.operands.map directoryName))
      return 0

def printCurrent (_ : List Text) : Run Nat := do
  say (Text.ofBytes (Host.absolutePath (← get).host.current) ++ ['\n'])
  return 0

/-- The path from the root of what a path leads to, which may be missing in a
directory that is there. -/
def fullPath? (host : Host) (mustExist : Bool) (path : Text) : Option Text :=
  match host.locate true path.toBytes with
  | .ok (.taken location _) => some (Text.ofBytes (Host.absolutePath location))
  | .ok (.vacant directory name) =>
    if mustExist then none
    else some (Text.ofBytes (Host.absolutePath (directory ++ [name])))
  | .error _ => none

def printLinks (follows : Bool) (operands : List Text) : Run Nat := do
  let given := OptionRules.read
    { flags := "femnsqvzLP", words := [("canonicalize", 'f'), ("canonicalize-existing", 'e')] }
    operands
  unlessRefused "readlink" 1 given do
    let mut complete := !given.operands.isEmpty
    for path in given.operands do
      let host := (← get).host
      let target : Option Text :=
        if follows || given.has 'f' || given.has 'e' || given.has 'm' then
          fullPath? host (given.has 'e') path
        else
          match host.locate false path.toBytes with
          | .ok (.taken _ (.link target)) => some (Text.ofBytes target)
          | _ => none
      match target with
      | some target => say (if given.has 'n' then target else target ++ ['\n'])
      | none => complete := false
    return codeOf complete

/-! ## Changes -/

def withoutSlashes (path : Text) : Text :=
  let trimmed := (path.reverse.dropWhile (· == '/')).reverse
  if trimmed = [] then path.take 1 else trimmed

/-- Carry out a change of the files for each operand, and go on after one that
fails, of which a complaint tells that begins in a certain way. -/
def changeEach (complaint : String) (change : Host → Text → Except FileError Host)
    (operands : List Text) : Run Nat := do
  let mut complete := !operands.isEmpty
  for operand in operands do
    match change (← get).host operand with
    | .ok host => setHost host
    | .error error =>
      complain (complaint ++ " '" ++ Utf8.shown operand.toBytes ++ "': " ++ error.reason)
      complete := false
  return codeOf complete

def touchFiles (operands : List Text) : Run Nat := do
  let given := OptionRules.read
    { flags := "acmhf", valued := "drt"
      words := [("no-create", 'c'), ("date", 'd'), ("reference", 'r')] }
    operands
  unlessRefused "touch" 1 given do
    changeEach "touch: cannot touch"
      (fun host path =>
        match host.find path.toBytes with
        | .ok _ => .ok host
        | .error error =>
          if given.has 'c' then (if error.isNotFound then .ok host else .error error)
          else (host.openForWriting path.toBytes true).map (·.2))
      given.operands

def pathsTo (path : Text) : List Text :=
  (List.range (path.length + 1)).filterMap fun count =>
    let start := path.take count
    if start ≠ [] ∧ start.getLast? ≠ some '/'
        ∧ (count = path.length ∨ path[count]? = some '/') then some start
    else none

def makeAll (host : Host) (path : Text) : Except FileError Host :=
  (pathsTo path).foldl
    (fun result path =>
      result.bind fun host =>
        if isDirectory host path then .ok host else host.makeDirectory path.toBytes)
    (.ok host)

def makeDirectories (operands : List Text) : Run Nat := do
  let given := OptionRules.read
    { flags := "pv", valued := "m", words := [("parents", 'p'), ("mode", 'm')] } operands
  unlessRefused "mkdir" 1 given do
    changeEach "mkdir: cannot create directory"
      (fun host path =>
        if given.has 'p' then makeAll host path
        else host.makeDirectory (Text.toBytes (withoutSlashes path)))
      given.operands

def pathsAbove (path : Text) : List Text :=
  (pathsTo ((path.reverse.dropWhile (· == '/')).reverse)).reverse

def removeDirectories (operands : List Text) : Run Nat := do
  let given := OptionRules.read { flags := "pv", words := [("parents", 'p')] } operands
  unlessRefused "rmdir" 1 given do
    changeEach "rmdir: failed to remove"
      (fun host path =>
        (if given.has 'p' then pathsAbove path else [path]).foldl
          (fun result path => result.bind (·.removeDirectory path.toBytes)) (.ok host))
      given.operands

/-- Whether a path ends in a name that stands for a directory itself or for the
one above it. -/
def endsInDots (path : Text) : Bool :=
  let name := baseName path []
  name == ['.'] || name == ['.', '.'] || name == ['/']

def isConfirmed (question : String) : Run Bool := do
  emit 2 (Text.ofString question)
  let source ← peekInput
  let line := source.content.takeWhile (· != Bytes.lf)
  leaveInput (source.content.drop (line.length + 1))
  return line.head?.any fun byte => byte == UInt8.ofNat 'y'.toNat || byte == UInt8.ofNat 'Y'.toNat

def removeFiles (operands : List Text) : Run Nat := do
  let given := OptionRules.read
    { flags := "rRfdiIv"
      words := [("recursive", 'r'), ("force", 'f'), ("dir", 'd'), ("verbose", 'v')] }
    operands
  unlessRefused "rm" 1 given do
    let deep := given.has 'r' || given.has 'R'
    if given.operands = [] then
      if given.has 'f' then return 0 else failWith 1 "rm: missing operand"
    else
      let mut paths : List Text := []
      for path in given.operands do
        let asks := given.last? "if" = some 'i' && isTaken (← get).host path
        if ← (if asks then isConfirmed "rm: remove the file? " else pure true) then
          paths := path :: paths
      if paths = [] then return 0
      changeEach "rm: cannot remove"
        (fun host path =>
          let removed : Except FileError Host :=
            if deep && endsInDots path then .error (.os .accessDenied)
            else
              match host.removeFile path.toBytes with
              | .error (.os .isDirectory) =>
                if deep then host.removeTree path.toBytes
                else if given.has 'd' then host.removeDirectory path.toBytes
                else .error (.os .isDirectory)
              | result => result
          match removed with
          | .error error =>
            if given.has 'f' ∧ (error.isNotFound ∨ error = .os .notDirectory) then .ok host
            else .error error
          | result => result)
        paths.reverse

/-- Pairs of paths: from where, and to where.  What goes to a directory keeps its
name. -/
def pairs? (host : Host) (given : Given) : Option (List (Text × Text)) :=
  let into (directory : Text) (paths : List Text) : List (Text × Text) :=
    paths.map fun path => (path, directory ++ '/' :: baseName path [])
  match given.value? 't' with
  | some directory =>
    if isDirectory host directory ∧ given.operands ≠ [] then
      some (into directory given.operands)
    else none
  | none =>
    match given.operands.getLast?, given.operands.dropLast with
    | some target, paths@(first :: others) =>
      if isDirectory host target && !given.has 'T' then some (into target paths)
      else if others = [] ∧ (target.getLast? ≠ some '/' ∨ isDirectory host first) then
        some [(first, target)]
      else none
    | _, _ => none

def placeOf? (host : Host) (path : Text) : Option Location :=
  match host.locate false path.toBytes with
  | .ok (.taken location _) => some location
  | _ => none

def endOf? (host : Host) (path : Text) : Option Location :=
  match host.find path.toBytes with
  | .ok (location, _) => some location
  | .error _ => none

def merged : (fuel : Nat) → (below above : Node) → Node
  | 0, _, above => above
  | fuel + 1, .directory entries, .directory more =>
    .directory (more.foldl
      (fun entries (name, node) =>
        match entries.lookup name with
        | some known => Node.bind entries name (merged fuel known node)
        | none => Node.bind entries name node)
      entries)
  | _ + 1, .file _ executable, .file body _ => .file body executable
  | _ + 1, _, above => above

def treeDepth : Nat := 4096

def copyOne (given : Given) (host : Host) (source target : Text) : Except FileError Host :=
  let deep := given.has 'r' || given.has 'R' || given.has 'a'
  let keepsLinks := (deep || given.has 'd' || given.has 'P') && !given.has 'L'
  match host.locate (!keepsLinks) source.toBytes with
  | .error error => .error error
  | .ok (.vacant _ _) => .error (.os .noEntry)
  | .ok (.taken location node) =>
    if endOf? host target = some location then
      .error (.os .fileExists)
    else if given.has 'n' ∧ isTaken host target then
      .ok host
    else
      match node with
      | .directory _ =>
        if !deep then .error (.os .isDirectory)
        else
          match host.locate true (Text.toBytes (withoutSlashes target)) with
          | .ok (.vacant directory name) =>
            .ok { host with root := host.root.put (directory ++ [name]) node }
          | .ok (.taken place known) =>
            if location.isPrefixOf place then .error (.os .isDirectory)
            else if known.isDirectory then
              .ok { host with root := host.root.put place (merged treeDepth known node) }
            else .error (.os .notDirectory)
          | .error error => .error error
      | .link _ =>
        match host.removeFile target.toBytes with
        | .ok host => host.putNode target.toBytes node
        | .error _ => host.putNode target.toBytes node
      | .file body executable =>
        match host.locate true target.toBytes with
        | .ok (.vacant directory name) =>
          if isTaken host target then .error (.os .noEntry)
          else
            .ok { host with root := host.root.put (directory ++ [name]) (.file body executable) }
        | .ok (.taken _ (.file .void _)) => .ok host
        | .ok (.taken place (.file _ known)) =>
          .ok { host with root := host.root.put place (.file body known) }
        | .ok (.taken _ _) => .error (.os .isDirectory)
        | .error error => .error error

def changePairs (program : String) (given : Given)
    (change : Host → Text → Text → Except FileError Host) : Run Nat := do
  match pairs? (← get).host given with
  | none => failWith 1 (program ++ ": missing or wrong operand")
  | some pairs =>
    let mut complete := true
    for (source, target) in pairs do
      match change (← get).host source target with
      | .ok host => setHost host
      | .error error =>
        complain (program ++ ": cannot stat '" ++ Utf8.shown source.toBytes ++ "': "
          ++ error.reason)
        complete := false
    return codeOf complete

def copyFiles (operands : List Text) : Run Nat := do
  let given := OptionRules.read
    { flags := "rRapfinuvTLPHdx", valued := "tS"
      words := [("recursive", 'r'), ("archive", 'a'), ("force", 'f'), ("no-clobber", 'n'),
        ("preserve", 'p'), ("target-directory", 't'), ("no-target-directory", 'T')] }
    operands
  unlessRefused "cp" 1 given do
    match given.operands with
    | [source, target] =>
      if (descriptorPaths.lookup (String.ofList source)) = some 0 then
        let text ← takeInput
        return if ← writeFile target text false then 0 else 1
      else if source = "/dev/null".toList then
        return if ← writeFile target [] false then 0 else 1
      else
        changePairs "cp" given (copyOne given)
    | _ => changePairs "cp" given (copyOne given)

def moveOne (given : Given) (host : Host) (source target : Text) : Except FileError Host :=
  match host.locate false source.toBytes with
  | .error error => .error error
  | .ok (.vacant _ _) => .error (.os .noEntry)
  | .ok (.taken location node) =>
    if given.has 'n' ∧ isTaken host target then
      .ok host
    else
      let without := host.root.remove location
      let target := if node.isDirectory then withoutSlashes target else target
      match host.locate false target.toBytes with
      | .error error => .error error
      | .ok (.vacant directory name) =>
        if node.isDirectory && location.isPrefixOf directory then .error (.os .isDirectory)
        else .ok { host with root := without.put (directory ++ [name]) node }
      | .ok (.taken place known) =>
        if place = location then .error (.os .fileExists)
        else
          match node, known with
          | .directory _, .directory entries =>
            if entries ≠ [] ∨ location.isPrefixOf place then .error (.os .directoryNotEmpty)
            else .ok { host with root := without.put place node }
          | .directory _, _ => .error (.os .notDirectory)
          | _, .directory _ => .error (.os .isDirectory)
          | _, _ => .ok { host with root := without.put place node }

def moveFiles (operands : List Text) : Run Nat := do
  let given := OptionRules.read
    { flags := "finuvT", valued := "tS"
      words := [("force", 'f'), ("no-clobber", 'n'), ("target-directory", 't'),
        ("no-target-directory", 'T')] }
    operands
  unlessRefused "mv" 1 given do changePairs "mv" given (moveOne given)

/-- The host with a link to what a path names; one that is not symbolic is a copy
of it. -/
def linkOne (given : Given) (host : Host) (source target : Text) : Except FileError Host :=
  let cleared : Except FileError Host :=
    let place? := placeOf? host target
    if given.has 'f' ∧ place? ≠ none ∧ place? ≠ placeOf? host source then
      host.removeFile target.toBytes
    else .ok host
  cleared.bind fun host =>
    if given.has 's' then
      host.makeLink source.toBytes target.toBytes
    else
      match host.locate false source.toBytes with
      | .error error => .error error
      | .ok (.vacant _ _) => .error (.os .noEntry)
      | .ok (.taken _ (.directory _)) => .error (.os .isDirectory)
      | .ok (.taken _ node) =>
        if isTaken host target then .error (.os .fileExists)
        else host.putNode target.toBytes node

def linkFiles (operands : List Text) : Run Nat := do
  let given := OptionRules.read
    { flags := "sfnvTLPr", valued := "t", words := [("symbolic", 's'), ("force", 'f')] } operands
  let given := if given.has 'n' then given.withOption 'T' [] else given
  let given := match given.operands with
    | [path] => { given with operands := [path, ['.']] }
    | _ => given
  unlessRefused "ln" 1 given do changePairs "ln" given (linkOne given)

/-! ## Modes -/

/-- Whether a file can be run after a change of its mode by signs such as
`u+x,g-w`. -/
def changedBySigns? (executable : Bool) (mode : Text) : Option Bool :=
  (mode.splitOn ',').foldl
    (fun result clause =>
      result.bind fun executable =>
        let who := clause.takeWhile "ugoa".toList.contains
        let forAll := who = [] || who.contains 'a'
          || (who.contains 'u' && who.contains 'g' && who.contains 'o')
        match clause.drop who.length with
        | sign :: permissions =>
          let runs := permissions.contains 'x' || (permissions.contains 'X' && executable)
          if !permissions.all "rwxXst".toList.contains then none
          else
            match sign with
            | '+' => some (executable || runs)
            | '-' => some (executable && !(runs && forAll))
            | '=' => some (runs || (executable && !forAll))
            | _ => none
        | [] => none)
    (some executable)

/-- Whether a file can be run after a change of its mode; none if the mode makes
no sense. -/
def changedMode? (executable : Bool) (mode : Text) : Option Bool :=
  if mode ≠ [] ∧ mode.all isOctal then
    some ((mode.reverse.take 3).any fun digit => digitValue digit % 2 == 1)
  else
    changedBySigns? executable mode

def pathsBelow (host : Host) : (fuel : Nat) → Text → List Text
  | 0, _ => []
  | fuel + 1, path =>
    match host.locate false path.toBytes with
    | .ok (.taken _ (.directory entries)) =>
      path :: entries.flatMap fun (name, _) =>
        pathsBelow host fuel (path ++ '/' :: Text.ofBytes name)
    | _ => [path]

/-- Change the modes of files.  Only whether they can be run is known of them. -/
def changeModes (operands : List Text) : Run Nat := do
  let isMode (operand : Text) : Bool :=
    operand.head? == some '-' && operand.tail ≠ [] && operand.tail.all "rwxXst".toList.contains
  let mode := operands.find? fun operand => isMode operand || operand.head? != some '-'
  let given := OptionRules.read { flags := "Rvcf", words := [("recursive", 'R')] }
    (operands.filter fun operand => !isMode operand)
  let files := if mode.any isMode then given.operands else given.operands.drop 1
  unlessRefused "chmod" 1 given do
    match mode with
    | none => failWith 1 "chmod: missing operand"
    | some mode =>
      if (changedMode? false mode).isNone then failWith 1 "chmod: invalid mode"
      else
        let host := (← get).host
        let files := if given.has 'R' then files.flatMap (pathsBelow host treeDepth) else files
        changeEach "chmod: cannot access"
          (fun host path =>
            match host.find path.toBytes with
            | .error error => .error error
            | .ok (_, .file _ executable) =>
              host.setExecutable path.toBytes ((changedMode? executable mode).getD executable)
            | .ok _ => .ok host)
          files

/-! ## Lists -/

def signOf (given : Given) (node : Option Node) : Text :=
  match node with
  | some (.directory _) => if given.has 'F' || given.has 'p' then ['/'] else []
  | some (.link _) => if given.has 'F' then ['@'] else []
  | some (.file _ true) => if given.has 'F' then ['*'] else []
  | _ => []

def listed (given : Given) (names : List Text) : List Text :=
  if given.has 'U' || given.has 'f' then names
  else
    let sorted := names.mergeSort precedes
    if given.has 'r' then sorted.reverse else sorted

def listDirectory (given : Given) (entries : List (Bytes × Node)) : List Text :=
  let names := entries.map fun entry => Text.ofBytes entry.1
  let isShown (name : Text) : Bool :=
    given.has 'a' || given.has 'A' || given.has 'f' || name.head? != some '.'
  let all := (if given.has 'a' || given.has 'f' then [['.'], ['.', '.']] else [])
    ++ names.filter isShown
  let node? (name : Text) : Option Node :=
    if name = ['.'] ∨ name = ['.', '.'] then some .emptyDirectory
    else entries.lookup (Text.toBytes name)
  (listed given all).map fun name => name ++ signOf given (node? name)

def directoriesBelow (given : Given) : (fuel : Nat) → Text → List (Bytes × Node) →
    List (Text × List (Bytes × Node))
  | 0, _, _ => []
  | fuel + 1, path, entries =>
    let names := listed given (entries.map fun entry => Text.ofBytes entry.1)
    (path, entries) :: names.flatMap fun name =>
      match entries.lookup (Text.toBytes name) with
      | some (.directory inner) =>
        if name.head? = some '.' ∧ !given.has 'a' ∧ !given.has 'A' then []
        else directoriesBelow given fuel (path ++ '/' :: name) inner
      | _ => []

def listNames (operands : List Text) : Run Nat := do
  let given := OptionRules.read
    { flags := "1aAldRrtSFpUfhisCxmngGoBbLHkNqQucX"
      words := [("all", 'a'), ("almost-all", 'A'), ("directory", 'd'), ("recursive", 'R'),
        ("reverse", 'r'), ("classify", 'F')] }
    operands
  unlessRefused "ls" 2 given do
    let host := (← get).host
    let paths := if given.operands = [] then [['.']] else given.operands
    let mut complete := true
    let mut files : List Text := []
    let mut directories : List Text := []
    for path in paths do
      match host.locate (!given.has 'd') (Text.toBytes path) with
      | .ok (.taken _ (.directory _)) =>
        if given.has 'd' then files := path :: files else directories := path :: directories
      | .ok (.taken _ _) => files := path :: files
      | result =>
        if isTaken host path then files := path :: files
        else
          let error := match result with
            | .error error => error
            | .ok _ => .os .noEntry
          complain ("ls: cannot access '" ++ Utf8.shown (Text.toBytes path) ++ "': "
            ++ error.reason)
          complete := false
    let node? (path : Text) : Option Node :=
      match host.locate false path.toBytes with
      | .ok (.taken _ node) => some node
      | _ => none
    say (unlines ((listed given files).map fun path => path ++ signOf given (node? path)))
    let mut first := files.isEmpty
    for path in listed given directories do
      let entries := match host.find path.toBytes with
        | .ok (_, node) => node.entries
        | .error _ => []
      let all :=
        if given.has 'R' then directoriesBelow given treeDepth path entries else [(path, entries)]
      for (path, entries) in all do
        if !first then say ['\n']
        if 1 < paths.length ∨ given.has 'R' then say (path ++ [':', '\n'])
        say (unlines (listDirectory given entries))
        first := false
    return if complete then 0 else 2

/-! ## Comparing -/

/-- The place of the first difference of two texts, and the line that it is in,
both counted from one. -/
def firstDifference (place line : Nat) : Text → Text → Option (Nat × Nat)
  | a :: as, b :: bs =>
    if a = b then firstDifference (place + 1) (if a = '\n' then line + 1 else line) as bs
    else some (place, line)
  | _, _ => none

def compareInputs (brief : Bool) (operands : List Text) : Run Nat := do
  let given := OptionRules.read
    { flags := "sqblurNwBiEZa", valued := "nUC", words := [("silent", 's'), ("quiet", 's'),
        ("brief", 'q')] }
    operands
  let program := if brief then "diff" else "cmp"
  unlessRefused program 2 given do
    match given.operands with
    | [left, right] =>
      let (inputs, complete) ← inputsOf program [left, right]
      match complete, inputs with
      | true, [a, b] =>
        if a.content = b.content then return 0
        if !given.has 's' then
          if brief then
            if given.has 'q' then
              say ("Files ".toList ++ left ++ " and ".toList ++ right ++ " differ\n".toList)
          else
            match firstDifference 1 1 a.content b.content with
            | some (place, line) =>
              say (left ++ ' ' :: right ++ " differ: char ".toList ++ Text.ofNat place
                ++ ", line ".toList ++ Text.ofNat line ++ ['\n'])
            | none => complain "cmp: EOF"
        return 1
      | _, _ => return 2
    | _ => failWith 2 (program ++ ": missing operand")

end AppLauncher.Tools
