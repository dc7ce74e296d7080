import AppLauncher.Tools.Operands

/-!
# Programs for lines

Programs that print their inputs whole or in part, number, count and compare
their lines, or put them in another order.
-/

namespace AppLauncher.Tools

open Shell

/-! ## Whole inputs -/

def numbered (all : Bool) : (next : Nat) → List Text → List Text
  | _, [] => []
  | next, segment :: rest =>
    if all || withoutEnd segment ≠ [] then
      (paddedNumber 6 next ++ '\t' :: segment) :: numbered all (next + 1) rest
    else
      segment :: numbered all next rest

def squeezed : List Text → List Text
  | ['\n'] :: ['\n'] :: rest => squeezed (['\n'] :: rest)
  | segment :: rest => segment :: squeezed rest
  | [] => []

def concatenate (operands : List Text) : Run Nat := do
  let given := OptionRules.read
    { flags := "AbeEnstTuv"
      words := [("number", 'n'), ("number-nonblank", 'b'), ("squeeze-blank", 's'),
        ("show-ends", 'E'), ("show-tabs", 'T'), ("show-all", 'A')] }
    operands
  unlessRefused "cat" 1 given do
    let (inputs, complete) ← inputsOf "cat" given.operands
    let text := inputs.flatMap (·.content)
    let marksEnds := given.has 'E' || given.has 'A' || given.has 'e'
    let marksTabs := given.has 'T' || given.has 'A' || given.has 't'
    if given.options = [] then
      say text
    else
      let lines := segments text
      let lines := if given.has 's' then squeezed lines else lines
      let lines :=
        if given.has 'b' then numbered false 1 lines
        else if given.has 'n' then numbered true 1 lines
        else lines
      let mark (c : Char) : Text :=
        if c = '\n' ∧ marksEnds then ['$', '\n']
        else if c = '\t' ∧ marksTabs then ['^', 'I']
        else [c]
      say (lines.flatMap (·.flatMap mark))
    return codeOf complete

def copyThrough (operands : List Text) : Run Nat := do
  let given := OptionRules.read
    { flags := "aip", words := [("append", 'a'), ("ignore-interrupts", 'i')] } operands
  unlessRefused "tee" 1 given do
    let text ← takeInput
    say text
    let mut complete := true
    for path in given.operands do
      if !(← writeFile path text (given.has 'a')) then complete := false
    return codeOf complete

def reverseLines (operands : List Text) : Run Nat := do
  let (inputs, complete) ← inputsOf "tac" (OptionRules.read {} operands).operands
  for input in inputs do say (segments input.content).reverse.flatten
  return codeOf complete

def reverseLetters (operands : List Text) : Run Nat := do
  let (inputs, complete) ← inputsOf "rev" (OptionRules.read {} operands).operands
  let turned (segment : Text) : Text :=
    (withoutEnd segment).reverse ++ segment.drop (withoutEnd segment).length
  for input in inputs do say ((segments input.content).flatMap turned)
  return codeOf complete

def numberLines (operands : List Text) : Run Nat := do
  let given := OptionRules.read { valued := "bwsnvi" } operands
  unlessRefused "nl" 1 given do
    let (inputs, complete) ← inputsOf "nl" given.operands
    let width := ((given.value? 'w').map Word.number).getD 6
    let between := (given.value? 's').getD ['\t']
    let mut next := ((given.value? 'v').map Word.number).getD 1
    let step := ((given.value? 'i').map Word.number).getD 1
    for line in linesOf (inputs.flatMap (·.content)) do
      if given.value? 'b' ≠ some ['n'] ∧ (line ≠ [] ∨ given.value? 'b' = some ['a']) then
        say (paddedNumber width next ++ between ++ line ++ ['\n'])
        next := next + step
      else
        say (List.replicate (width + between.length) ' ' ++ line ++ ['\n'])
    return codeOf complete

/-! ## Parts of inputs -/

/-- Options in which a hyphen is followed by a count itself. -/
def withLetter (signs : List Char) (meant : Char) : List Text → List Text
  | (sign :: digit :: more) :: rest =>
    if signs.contains sign && digit.isDigit then
      ['-', meant] :: (if sign = '+' then sign :: digit :: more else digit :: more) :: rest
    else
      (sign :: digit :: more) :: rest
  | operands => operands

def namesInputs (given : Given) (inputs : List Input) : Bool :=
  match given.last? "qv" with
  | some letter => letter == 'v'
  | none => 1 < inputs.length

def titleOf (first : Bool) (input : Input) : Text :=
  let name := if input.name = ['-'] then "standard input".toList else input.name
  (if first then [] else ['\n']) ++ "==> ".toList ++ name ++ " <==\n".toList

def printParts (given : Given) (part : Text → Text) (inputs : List Input) : Run Unit := do
  let mut first := true
  for input in inputs do
    if namesInputs given inputs then say (titleOf first input)
    say (part input.content)
    first := false

def firstPart (byLines : Bool) (count : Count) (text : Text) : Text :=
  let kept (total : Nat) : Nat :=
    if count.sign = some '-' then total - count.amount else count.amount
  if byLines then
    let lines := segments text
    (lines.take (kept lines.length)).flatten
  else
    text.take (kept text.length)

def lastPart (byLines : Bool) (count : Count) (text : Text) : Text :=
  let left (total : Nat) : Nat :=
    if count.sign = some '+' then count.amount - 1 else total - count.amount
  if byLines then
    let lines := segments text
    (lines.drop (left lines.length)).flatten
  else
    text.drop (left text.length)

def partRules (flags : String) : OptionRules :=
  { flags := "qv" ++ flags
    valued := "nc"
    words := [("lines", 'n'), ("bytes", 'c'), ("quiet", 'q'), ("verbose", 'v')] }

def wantedPart? (given : Given) : Option (Bool × Count) :=
  match given.options.reverse.find? fun option => option.1 == 'n' || option.1 == 'c' with
  | none => some (true, { amount := 10 })
  | some (letter, value) => (Count.ofText? value).map (letter == 'n', ·)

/-- Print the start of inputs.  What is not printed of an input file stays to be
read by others. -/
def printStart (operands : List Text) : Run Nat := do
  let given := (partRules "z").read (withLetter ['-'] 'n' operands)
  unlessRefused "head" 1 given do
    match wantedPart? given with
    | none => failWith 1 "head: invalid number"
    | some (byLines, count) =>
      let source ← peekInput
      let (inputs, complete) ← inputsOf "head" given.operands
      printParts given (firstPart byLines count) inputs
      if source.isFile ∧ inputs.any (·.name == ['-']) then
        let read := firstPart byLines count (Text.ofBytes source.content)
        leaveInput (source.content.drop read.length)
      return codeOf complete

def printEnd (operands : List Text) : Run Nat := do
  let given := (partRules "fFrz").read (withLetter ['-', '+'] 'n' operands)
  unlessRefused "tail" 1 given do
    match wantedPart? given with
    | none => failWith 1 "tail: invalid number"
    | some (byLines, count) =>
      let (inputs, complete) ← inputsOf "tail" given.operands
      printParts given (lastPart byLines count) inputs
      return codeOf complete

/-! ## Counting -/

def wordCount (text : Text) : Nat :=
  ((text.splitOnP (CharacterClass.contains · .space)).filter (· != [])).length

def countsOf (given : Given) (text : Text) : List Nat :=
  let all := given.options = []
  let longest := (linesOf text).foldl (fun n line => if n < line.length then line.length else n) 0
  (if all || given.has 'l' then [text.count '\n'] else [])
    ++ (if all || given.has 'w' then [wordCount text] else [])
    ++ (if given.has 'm' then [text.length] else [])
    ++ (if all || given.has 'c' then [text.length] else [])
    ++ (if given.has 'L' then [longest] else [])

def countLine (width : Nat) (counts : List Nat) (name : Text) : Text :=
  [' '].intercalate (counts.map (paddedNumber width))
    ++ (if name = [] then [] else ' ' :: name) ++ ['\n']

def countParts (operands : List Text) : Run Nat := do
  let given := OptionRules.read
    { flags := "lwcmL"
      words := [("lines", 'l'), ("words", 'w'), ("bytes", 'c'), ("chars", 'm'),
        ("max-line-length", 'L')] }
    operands
  unlessRefused "wc" 1 given do
    let source ← peekInput
    let (inputs, complete) ← inputsOf "wc" given.operands
    let isSized (input : Input) : Bool := input.name != ['-'] || source.isFile
    let total := inputs.flatMap (·.content)
    let width :=
      if given.operands.length ≤ 1 ∧ (countsOf given []).length = 1 then 1
      else
        let digits := (Text.ofNat total.length).length
        if inputs.head?.any fun input => given.operands.head?.all (· == input.name) then
          if inputs.all isSized || 7 ≤ digits then digits else 7
        else 1
    for input in inputs do
      let name := if given.operands = [] then [] else input.name
      say (countLine width (countsOf given input.content) name)
    if 1 < given.operands.length then
      let sums := inputs.foldl
        (fun sums input => (sums.zip (countsOf given input.content)).map fun (a, b) => a + b)
        ((countsOf given []).map fun _ => 0)
      say (countLine width sums "total".toList)
    return codeOf complete

/-- Lines that stand together because they are the same in what counts, and how
many they are. -/
def groups (same : Text → Text → Bool) : List Text → List (Text × Nat)
  | [] => []
  | line :: rest =>
    match groups same rest with
    | (next, count) :: more =>
      if same line next then (line, count + 1) :: more else (line, 1) :: (next, count) :: more
    | [] => [(line, 1)]

def skipFields : Nat → Text → Text
  | 0, line => line
  | n + 1, line =>
    skipFields n ((line.dropWhile Word.isBlank).dropWhile fun c => !Word.isBlank c)

def distinctLines (operands : List Text) : Run Nat := do
  let given := OptionRules.read
    { flags := "cduiDz"
      valued := "fsw"
      words := [("count", 'c'), ("repeated", 'd'), ("unique", 'u'), ("ignore-case", 'i')] }
    operands
  unlessRefused "uniq" 1 given do
    let number (letter : Char) : Option Nat := (given.value? letter).map Word.number
    let key (line : Text) : Text :=
      let line := (skipFields ((number 'f').getD 0) line).drop ((number 's').getD 0)
      let line := match number 'w' with
        | some width => line.take width
        | none => line
      if given.has 'i' then line.map Char.toLower else line
    let (inputs, complete) ← inputsOf "uniq" (given.operands.take 1)
    let wanted (count : Nat) : Bool :=
      if given.has 'd' && given.has 'u' then false
      else if given.has 'd' then 1 < count
      else if given.has 'u' then count = 1
      else true
    let found := (groups (fun a b => key a == key b)
      (linesOf (inputs.flatMap (·.content)))).filter (wanted ·.2)
    let output := found.flatMap fun (line, count) =>
      (if given.has 'c' then paddedNumber 7 count ++ [' '] else []) ++ line ++ ['\n']
    match given.operands with
    | [_, path] => return codeOf (complete && (← writeFile path output false))
    | _ =>
      say output
      return codeOf complete

/-! ## Fields -/

def places? (list : Text) : Option (List (Nat × Option Nat)) :=
  (list.splitOn ',').mapM fun item =>
    let first := item.takeWhile Char.isDigit
    match item.drop first.length with
    | [] => if first = [] then none else some (Word.number first, some (Word.number first))
    | '-' :: last =>
      if !last.all Char.isDigit || (first = [] && last = []) then none
      else
        some (if first = [] then 1 else Word.number first,
          if last = [] then none else some (Word.number last))
    | _ => none

def isAmong (places : List (Nat × Option Nat)) (place : Nat) : Bool :=
  places.any fun (first, last) => first ≤ place && last.all (place ≤ ·)

def chosen {α : Type} (wanted : Nat → Bool) (items : List α) : List α :=
  (items.zipIdx.filter fun (_, index) => wanted (index + 1)).map (·.1)

def cutLines (operands : List Text) : Run Nat := do
  let given := OptionRules.read
    { flags := "snzC"
      valued := "bcfdo"
      words := [("complement", 'C'), ("output-delimiter", 'o'), ("delimiter", 'd'),
        ("fields", 'f'), ("characters", 'c'), ("bytes", 'b'), ("only-delimited", 's')] }
    operands
  let lists := given.options.filter fun option => ['b', 'c', 'f'].contains option.1
  unlessRefused "cut" 1 given do
    match lists with
    | [(kind, list)] =>
      match places? list with
      | none => failWith 1 "cut: invalid list"
      | some places =>
        if places.any (·.1 == 0) then
          failWith 1 "cut: fields and positions are numbered from 1"
        else
          let (inputs, complete) ← inputsOf "cut" given.operands
          let wanted (place : Nat) : Bool := isAmong places place != given.has 'C'
          let separator := ((given.value? 'd').bind List.head?).getD '\t'
          let joint := (given.value? 'o').getD (if kind = 'f' then [separator] else [])
          for line in linesOf (inputs.flatMap (·.content)) do
            if kind ≠ 'f' then
              say (chosen wanted line ++ ['\n'])
            else if line.contains separator then
              say (joint.intercalate (chosen wanted (line.splitOn separator)) ++ ['\n'])
            else if !given.has 's' then
              say (line ++ ['\n'])
          return codeOf complete
    | _ => failWith 1 "cut: you must specify a list of bytes, characters, or fields"

def joinedInTurn (separators : List Text) : List Text → Text
  | [] => []
  | [text] => text
  | text :: rest =>
    match separators with
    | separator :: others => text ++ separator ++ joinedInTurn (others ++ [separator]) rest
    | [] => text ++ joinedInTurn [] rest

def rows : (count : Nat) → List (List Text) → List (List Text)
  | 0, _ => []
  | count + 1, columns => columns.map (·.headD []) :: rows count (columns.map List.tail)

/-- The separators in a list, in which a backslash and a letter stand for one
character. -/
def separatorList : Text → List Text
  | '\\' :: '0' :: rest => [] :: separatorList rest
  | '\\' :: c :: rest => [(letterEscape? c).getD c] :: separatorList rest
  | c :: rest => [c] :: separatorList rest
  | [] => []

def pasteLines (operands : List Text) : Run Nat := do
  let given := OptionRules.read
    { flags := "sz", valued := "d", words := [("serial", 's'), ("delimiters", 'd')] } operands
  unlessRefused "paste" 1 given do
    let (inputs, complete) ← inputsOf "paste" given.operands
    let separators := separatorList ((given.value? 'd').getD ['\t'])
    let columns := inputs.map fun input => linesOf input.content
    if given.has 's' then
      for column in columns do say (joinedInTurn separators column ++ ['\n'])
    else
      let count := columns.foldl (fun n column => if n < column.length then column.length else n) 0
      for row in rows count columns do say (joinedInTurn separators row ++ ['\n'])
    return codeOf complete

def folded (width : Nat) : (fuel : Nat) → Text → Text
  | 0, line => line
  | fuel + 1, line =>
    if line.length ≤ width ∨ width = 0 then line
    else line.take width ++ '\n' :: folded width fuel (line.drop width)

def foldLines (operands : List Text) : Run Nat := do
  let given := OptionRules.read { flags := "bs", valued := "w", words := [("width", 'w')] } operands
  unlessRefused "fold" 1 given do
    let (inputs, complete) ← inputsOf "fold" given.operands
    let width := ((given.value? 'w').map Word.number).getD 80
    for segment in segments (inputs.flatMap (·.content)) do
      let line := withoutEnd segment
      say (folded width (line.length + 1) line ++ segment.drop line.length)
    return codeOf complete

/-! ## Sequences -/

def integer? (text : Text) : Option Int :=
  let (negative, digits) := readSign text
  if digits ≠ [] ∧ digits.all Char.isDigit then
    some (if negative then -(Word.number digits : Int) else Word.number digits)
  else
    none

def numbersFrom (step last : Int) : (fuel : Nat) → (first : Int) → List Int
  | 0, _ => []
  | fuel + 1, first =>
    if (0 < step ∧ last < first) ∨ (step < 0 ∧ first < last) ∨ step = 0 then []
    else first :: numbersFrom step last fuel (first + step)

def printSequence (operands : List Text) : Run Nat := do
  let isNumber (operand : Text) : Bool :=
    operand.head? == some '-' && (operand.drop 1).head?.any Char.isDigit
  let options := operands.takeWhile (!isNumber ·)
  let given := OptionRules.read
    { flags := "w", valued := "sf", words := [("separator", 's'), ("equal-width", 'w')]
      anywhere := false }
    options
  unlessRefused "seq" 1 given do
    let numbers := (given.operands ++ operands.drop options.length).map integer?
    let printed (first step last : Int) : Run Nat := do
      let texts := (numbersFrom step last (((last - first).natAbs) + 1) first).map fun n =>
        (toString n).toList
      let width := texts.foldl (fun n text => if n < text.length then text.length else n) 0
      let shown := if !given.has 'w' then texts else texts.map fun text =>
        match text with
        | '-' :: digits => '-' :: List.replicate (width - text.length) '0' ++ digits
        | digits => List.replicate (width - text.length) '0' ++ digits
      if shown ≠ [] then say (((given.value? 's').getD ['\n']).intercalate shown ++ ['\n'])
      return 0
    match numbers with
    | [some last] => printed 1 1 last
    | [some first, some last] => printed first 1 last
    | [some first, some step, some last] =>
      if step = 0 then failWith 1 "seq: invalid Zero increment value" else printed first step last
    | _ => failWith 1 "seq: invalid floating point argument"

end AppLauncher.Tools
