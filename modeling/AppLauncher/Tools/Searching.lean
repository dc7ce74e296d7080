import AppLauncher.Shell.Regex
import AppLauncher.Tools.Lines

/-!
# Searching

Lines that match one of some patterns are printed, counted, or only looked
for.  Patterns are regular expressions of either kind, or plain texts.
-/

namespace AppLauncher.Tools

open Shell

structure SearchOrder where
  patterns : List Regex
  ignoresCase : Bool
  wholeWords : Bool
  wholeLines : Bool

def SearchOrder.matchAt? (order : SearchOrder) (subject : Regex.Subject) (regex : Regex)
    (place : Nat) : Option Nat :=
  let isEdge (last : Nat) : Bool :=
    !order.wholeWords
      || (!(0 < place && subject.isWordAt (place - 1)) && !subject.isWordAt last)
  let fits (last : Nat) : Bool :=
    if order.wholeLines then place = 0 ∧ last = subject.text.size else isEdge last
  let ends := ((regex.ends subject { place }).map (·.place)).filter fits
  ends.foldl
    (fun best last =>
      match best with
      | some known => if known < last then some last else some known
      | none => some last)
    none

def SearchOrder.find? (order : SearchOrder) (subject : Regex.Subject) (places : List Nat) :
    Option (Nat × Nat) :=
  places.findSome? fun place =>
    (order.patterns.filterMap (order.matchAt? subject · place)).foldl
      (fun best last =>
        match best with
        | some (_, known) => if known < last then some (place, last) else best
        | none => some (place, last))
      none

def placesFrom (subject : Regex.Subject) (first : Nat) : List Nat :=
  (List.range (subject.text.size + 1 - first)).map (first + ·)

def SearchOrder.accepts (order : SearchOrder) (line : Text) : Bool :=
  let subject : Regex.Subject := { text := line.toArray, ignoresCase := order.ignoresCase }
  (order.find? subject (placesFrom subject 0)).isSome

def SearchOrder.matchesFrom (order : SearchOrder) (subject : Regex.Subject) :
    (fuel : Nat) → (first : Nat) → List Text
  | 0, _ => []
  | fuel + 1, first =>
    match order.find? subject (placesFrom subject first) with
    | none => []
    | some (start, last) =>
      if start = last then order.matchesFrom subject fuel (start + 1)
      else (subject.text.extract start last).toList :: order.matchesFrom subject fuel last

def readPatterns? (kind : Option Regex.Kind) (texts : List Text) : Option (List Regex) :=
  texts.mapM fun text =>
    match kind with
    | some kind => Regex.read? kind text
    | none => some (Regex.ofText text)

structure SearchReport where
  given : Given
  named : Bool

def SearchReport.heading (report : SearchReport) (mark : Char) (name : Text) (number : Nat) :
    Text :=
  (if report.named then name ++ [mark] else [])
    ++ (if report.given.has 'n' then Text.ofNat number ++ [mark] else [])

/-- The lines around lines that are wanted: each line with whether it is one of
those, without the lines that are too far from any. -/
def withContext (before after : Nat) (wanted : List Bool) : List (Option Bool) :=
  let hits := (wanted.zipIdx.filter (·.1)).map (·.2)
  wanted.zipIdx.map fun (hit, index) =>
    if hit then some true
    else if hits.any fun place =>
        (index < place && place ≤ index + before) || (place < index && index ≤ place + after) then
      some false
    else none

def searchInput (order : SearchOrder) (report : SearchReport) (input : Input) : Run Nat := do
  let given := report.given
  let lines := linesOf input.content
  let limit := ((given.value? 'm').map Word.number).getD lines.length
  let name := if input.name = ['-'] then "(standard input)".toList else input.name
  let verdicts := lines.map fun line => order.accepts line != given.has 'v'
  let hits := ((verdicts.zipIdx.filter (·.1)).map (·.2)).take limit
  let count := hits.length
  if given.has 'q' then
    return count
  if given.has 'l' || given.has 'L' then
    if (count ≠ 0) = given.has 'l' then say (name ++ ['\n'])
    return count
  if given.has 'c' then
    say ((if report.named then name ++ [':'] else []) ++ Text.ofNat count ++ ['\n'])
    return count
  let wanted := verdicts.zipIdx.map fun (verdict, index) => verdict && hits.contains index
  let distance (letter : Char) : Nat :=
    ((given.value? letter).or (given.value? 'C')).elim 0 Word.number
  let shown := if given.has 'o' then wanted.map fun hit => if hit then some true else none
    else withContext (distance 'B') (distance 'A') wanted
  let mut last : Option Nat := none
  for (line, kind, index) in (lines.zip shown).zipIdx.map fun ((a, b), c) => (a, b, c) do
    match kind with
    | none => pure ()
    | some hit =>
      if (distance 'A' ≠ 0 ∨ distance 'B' ≠ 0) ∧ last.any (· + 1 ≠ index) then
        say "--\n".toList
      last := some index
      let heading := report.heading (if hit then ':' else '-') name (index + 1)
      if given.has 'o' then
        if !given.has 'v' then
          let subject : Regex.Subject := { text := line.toArray, ignoresCase := order.ignoresCase }
          for found in order.matchesFrom subject (line.length + 1) 0 do
            say (heading ++ found ++ ['\n'])
      else
        say (heading ++ line ++ ['\n'])
  return count

def inputsBelow (host : Host) : (fuel : Nat) → Text → List Text
  | 0, _ => []
  | fuel + 1, path =>
    match host.find path.toBytes with
    | .ok (_, .directory entries) =>
      entries.flatMap fun (name, _) =>
        inputsBelow host fuel (path ++ '/' :: Text.ofBytes name)
    | _ => [path]

def directoryDepth : Nat := 4096

def searchLines (standard : Option Regex.Kind) (operands : List Text) : Run Nat := do
  let given := OptionRules.read
    { flags := "EFGivyncqlLohHxwsrRabzU"
      valued := "efmABC"
      words := [("count", 'c'), ("quiet", 'q'), ("silent", 'q'), ("invert-match", 'v'),
        ("ignore-case", 'i'), ("line-number", 'n'), ("only-matching", 'o'),
        ("files-with-matches", 'l'), ("files-without-match", 'L'), ("no-filename", 'h'),
        ("with-filename", 'H'), ("line-regexp", 'x'), ("word-regexp", 'w'),
        ("extended-regexp", 'E'), ("fixed-strings", 'F'), ("basic-regexp", 'G'),
        ("regexp", 'e'), ("file", 'f'), ("max-count", 'm'), ("no-messages", 's'),
        ("recursive", 'r'), ("after-context", 'A'), ("before-context", 'B'), ("context", 'C'),
        ("text", 'a')] }
    (withLetter ['-'] 'C' operands)
  unlessRefused "grep" 2 given do
    let kind : Option Regex.Kind :=
      match given.last? "EFG" with
      | some 'E' => some .extended
      | some 'F' => none
      | some 'G' => some .basic
      | _ => standard
    let isListed := given.has 'e' || given.has 'f'
    let written := if isListed then given.values 'e' else given.operands.take 1
    let files := if isListed then given.operands else given.operands.drop 1
    let mut texts := written.flatMap fun text => text.splitOn '\n'
    let mut readable := isListed || written ≠ []
    for path in given.values 'f' do
      match ← readAll path with
      | .ok content => texts := texts ++ linesOf content
      | .error _ => readable := false
    if !readable then
      failWith 2 "grep: no pattern"
    else
      match readPatterns? kind texts with
      | none => failWith 2 "grep: invalid regular expression"
      | some patterns =>
        let deep := given.has 'r' || given.has 'R'
        let host := (← get).host
        let names :=
          if deep then
            (if files = [] then [['.']] else files).flatMap (inputsBelow host directoryDepth)
          else files
        let (inputs, complete) ←
          if deep ∧ names = [] then pure ([], true) else inputsOf "grep" names
        let named :=
          match given.last? "hH" with
          | some letter => letter == 'H'
          | none => 1 < files.length || deep
        let order : SearchOrder :=
          { patterns
            ignoresCase := given.has 'i' || given.has 'y'
            wholeWords := given.has 'w'
            wholeLines := given.has 'x' }
        let mut found := false
        for input in inputs do
          let count ← searchInput order { given, named } input
          if (count = 0) = given.has 'L' then found := true
        if !complete && !(given.has 'q' && found) then return 2
        else return if found then 0 else 1

end AppLauncher.Tools
