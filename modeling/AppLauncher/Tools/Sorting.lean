import AppLauncher.Shell.Matching
import AppLauncher.Tools.Lines

/-!
# Sorting

Lines are put in order by keys, each a part of the line that is compared in a
way of its own.  Lines with equal keys are compared whole in the end, unless
the order in which they came is to be kept.
-/

namespace AppLauncher.Tools

open Shell

structure KeyOrder where
  numeric : Bool := false
  descending : Bool := false
  ignoresCase : Bool := false
  skipsBlanks : Bool := false
  wordsOnly : Bool := false
deriving DecidableEq, Repr

def KeyOrder.with (order : KeyOrder) (letter : Char) : KeyOrder :=
  match letter with
  | 'n' | 'g' | 'h' => { order with numeric := true }
  | 'r' => { order with descending := true }
  | 'f' => { order with ignoresCase := true }
  | 'b' => { order with skipsBlanks := true }
  | 'd' => { order with wordsOnly := true }
  | _ => order

structure LinePlace where
  field : Nat
  character : Nat
deriving DecidableEq, Repr

structure SortKey where
  first : LinePlace
  last : Option LinePlace := none
  order : KeyOrder := {}
deriving DecidableEq, Repr

/-- The place at the start of a text, the letters of an order after it, and what
follows. -/
def readPlace (text : Text) : LinePlace × Text × Text :=
  let field := text.takeWhile Char.isDigit
  let rest := text.drop field.length
  let (character, rest) : Text × Text :=
    match rest with
    | '.' :: rest => (rest.takeWhile Char.isDigit, rest.dropWhile Char.isDigit)
    | rest => ([], rest)
  (⟨Word.number field, Word.number character⟩, rest.takeWhile Char.isAlpha,
    rest.dropWhile Char.isAlpha)

/-- The key that a text describes.  Without an order of its own it is compared
as whole lines are. -/
def readKey? (general : KeyOrder) (text : Text) : Option SortKey :=
  let (first, letters, rest) := readPlace text
  let ordered (letters : Text) : KeyOrder :=
    if letters = [] then general else letters.foldl KeyOrder.with {}
  if first.field = 0 then
    none
  else
    match rest with
    | [] => some { first, order := ordered letters }
    | ',' :: rest =>
      match readPlace rest with
      | (last, more, []) =>
        if last.field = 0 then none
        else some { first, last := some last, order := ordered (letters ++ more) }
      | _ => none
    | _ => none

def afterFields (separator : Option Char) : Nat → Text → Text
  | 0, line => line
  | n + 1, line =>
    match separator with
    | some c => afterFields separator n ((line.dropWhile (· != c)).drop 1)
    | none =>
      afterFields separator n
        ((line.dropWhile Word.isBlank).dropWhile fun c => !Word.isBlank c)

def fromField (separator : Option Char) (skipsBlanks : Bool) (field : Nat) (line : Text) : Text :=
  let rest := afterFields separator (field - 1) line
  if skipsBlanks then rest.dropWhile Word.isBlank else rest

def afterKey (separator : Option Char) (skipsBlanks : Bool) (last : LinePlace) (line : Text) :
    Text :=
  if last.character = 0 then
    match separator with
    | some c => (afterFields separator (last.field - 1) line).dropWhile (· != c)
    | none => afterFields separator last.field line
  else
    (fromField separator skipsBlanks last.field line).drop last.character

def SortKey.part (key : SortKey) (separator : Option Char) (line : Text) : Text :=
  let start := (fromField separator key.order.skipsBlanks key.first.field line).drop
    (key.first.character - 1)
  match key.last with
  | none => start
  | some last =>
    start.take (start.length - (afterKey separator key.order.skipsBlanks last line).length)

/-- The number at the start of a text: its digits without the point, and how
many of them stand after it. -/
def numericValue (text : Text) : Int × Nat :=
  let text := text.dropWhile Word.isBlank
  let (negative, rest) : Bool × Text :=
    match text with
    | '-' :: rest => (true, rest)
    | rest => (false, rest)
  let whole := rest.takeWhile Char.isDigit
  let fraction : Text :=
    match rest.drop whole.length with
    | '.' :: rest => rest.takeWhile Char.isDigit
    | _ => []
  let digits := Word.number (whole ++ fraction)
  (if negative then -(digits : Int) else digits, fraction.length)

def compareNumeric (a b : Text) : Ordering :=
  let (m, i) := numericValue a
  let (n, j) := numericValue b
  compare (m * (Nat.pow 10 j : Nat)) (n * (Nat.pow 10 i : Nat))

def compareTexts (a b : Text) : Ordering :=
  if a = b then .eq else if precedes a b then .lt else .gt

def KeyOrder.compare (order : KeyOrder) (a b : Text) : Ordering :=
  let counted (text : Text) : Text :=
    let text := if order.skipsBlanks then text.dropWhile Word.isBlank else text
    let text :=
      if order.wordsOnly then text.filter fun c => Word.isBlank c || c.isAlphanum else text
    if order.ignoresCase then text.map Char.toUpper else text
  let result :=
    if order.numeric then compareNumeric a b else compareTexts (counted a) (counted b)
  if order.descending then result.swap else result

structure LineOrder where
  keys : List SortKey
  separator : Option Char
  general : KeyOrder
  stable : Bool

def LineOrder.compareKeys (order : LineOrder) (a b : Text) : Ordering :=
  if order.keys = [] then
    order.general.compare a b
  else
    order.keys.foldl
      (fun result key =>
        result.then (key.order.compare (key.part order.separator a) (key.part order.separator b)))
      .eq

def LineOrder.compare (order : LineOrder) (a b : Text) : Ordering :=
  let last := if order.general.descending then compareTexts b a else compareTexts a b
  let result := order.compareKeys a b
  if order.stable then result else result.then last

def LineOrder.distinct (order : LineOrder) : List Text → List Text
  | first :: second :: rest =>
    if order.compareKeys first second == .eq then order.distinct (first :: rest)
    else first :: order.distinct (second :: rest)
  | lines => lines
termination_by lines => lines.length

def LineOrder.isSorted (order : LineOrder) (strictly : Bool) : List Text → Bool
  | first :: second :: rest =>
    let result := order.compare first second
    (if strictly then result == .lt else result != .gt)
      && order.isSorted strictly (second :: rest)
  | _ => true

def separatorOf? (given : Given) : Option Char :=
  match given.value? 't' with
  | some ['\\', '0'] => some '\x00'
  | some (c :: _) => some c
  | _ => none

def sortLines (operands : List Text) : Run Nat := do
  let given := OptionRules.read
    { flags := "nrfbdugihMsczmCV"
      valued := "ktoST"
      words := [("numeric-sort", 'n'), ("reverse", 'r'), ("ignore-case", 'f'), ("unique", 'u'),
        ("key", 'k'), ("field-separator", 't'), ("output", 'o'), ("stable", 's'),
        ("check", 'c'), ("ignore-leading-blanks", 'b'), ("dictionary-order", 'd')] }
    operands
  unlessRefused "sort" 2 given do
    let general := (given.options.map (·.1)).foldl KeyOrder.with {}
    match (given.values 'k').mapM (readKey? general) with
    | none => failWith 2 "sort: invalid field specification"
    | some keys =>
      let order : LineOrder :=
        { keys, separator := separatorOf? given, general
          stable := given.has 's' || given.has 'u' }
      let (inputs, complete) ← inputsOf "sort" given.operands
      let lines := inputs.flatMap fun input => linesOf input.content
      if !complete then
        return 2
      else if given.has 'c' || given.has 'C' then
        if order.isSorted (given.has 'u') lines then return 0
        else if given.has 'C' then return 1
        else failWith 1 "sort: disorder"
      else
        let sorted := lines.mergeSort fun a b => order.compare a b != .gt
        let output := unlines (if given.has 'u' then order.distinct sorted else sorted)
        match given.value? 'o' with
        | some path => return if ← writeFile path output false then 0 else 2
        | none =>
          say output
          return 0

end AppLauncher.Tools
