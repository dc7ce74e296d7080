import AppLauncher.Tools.Operands

/-!
# Replacing characters

Characters of the input are replaced, deleted, or left once where they stand
several times in a row.  Sets of characters are written as lists of characters,
ranges, classes and repetitions.
-/

namespace AppLauncher.Tools

open Shell

inductive SetItem where
  | characters (list : Text)
  | filling (c : Char) (count : Nat)
deriving DecidableEq, Repr

def everyCharacter : Text :=
  (List.range 256).map Char.ofNat

def rangeOf (low high : Char) : Text :=
  (List.range (high.toNat + 1 - low.toNat)).map fun n => Char.ofNat (low.toNat + n)

def readCharacter : Text → Option (Char × Text)
  | [] => none
  | '\\' :: rest =>
    let digits := (rest.take 3).takeWhile isOctal
    if digits ≠ [] then
      some (octal digits, rest.drop digits.length)
    else
      match rest with
      | [] => some ('\\', [])
      | c :: rest => some ((letterEscape? c).getD c, rest)
  | c :: rest => some (c, rest)

def repetition? (text : Text) : Option (SetItem × Text) :=
  match readCharacter text with
  | some (c, '*' :: rest) =>
    let digits := rest.takeWhile Char.isDigit
    match rest.drop digits.length with
    | ']' :: rest =>
      let count :=
        if digits.head? = some '0' then digits.foldl (fun n c => n * 8 + digitValue c) 0
        else Word.number digits
      some (.filling c count, rest)
    | _ => none
  | _ => none

def readSet : (fuel : Nat) → Text → Option (List SetItem)
  | 0, _ => none
  | fuel + 1, text =>
    let ordinary : Option (List SetItem) :=
      match readCharacter text with
      | none => some []
      | some (low, '-' :: rest) =>
        match readCharacter rest with
        | some (high, rest) =>
          if low ≤ high then
            (readSet fuel rest).map (.characters (rangeOf low high) :: ·)
          else
            none
        | none => some [.characters [low, '-']]
      | some (c, rest) => (readSet fuel rest).map (.characters [c] :: ·)
    match text with
    | '[' :: ':' :: rest =>
      match Pattern.className? (Text.letters false rest) with
      | some (name, rest) =>
        match CharacterClass.ofName? name with
        | some meant =>
          (readSet fuel (plain rest)).map
            (.characters (everyCharacter.filter (CharacterClass.contains · meant)) :: ·)
        | none => none
      | none => ordinary
    | '[' :: '=' :: c :: '=' :: ']' :: rest =>
      (readSet fuel rest).map (.characters [c] :: ·)
    | '[' :: rest =>
      match repetition? rest with
      | some (item, rest) => (readSet fuel rest).map (item :: ·)
      | none => ordinary
    | _ => ordinary

/-- The characters of a set, as many as are needed where one is repeated without
a number. -/
def expandSet (needed : Nat) (items : List SetItem) : Text :=
  let fixed := items.foldl
    (fun n item =>
      match item with
      | .characters list => n + list.length
      | .filling _ count => n + count)
    0
  items.flatMap fun item =>
    match item with
    | .characters list => list
    | .filling c 0 => List.replicate (needed - fixed) c
    | .filling c count => List.replicate count c

/-- What characters are replaced by: those of the second list in the places of
those in the first; the last one of the second list stands for all further
ones, and the last place of a character counts. -/
def replacement (source target : Text) (c : Char) : Char :=
  let places := source.zipIdx.filter (·.1 == c)
  match places.getLast?, target.getLast? with
  | some (_, place), some last => target.getD place last
  | _, _ => c

/-- A text in which characters of a list stand once where they stood several
times in a row. -/
def squeeze (list : Text) : Text → Text
  | a :: b :: rest =>
    if a = b ∧ list.contains a then squeeze list (b :: rest) else a :: squeeze list (b :: rest)
  | text => text

def replaceLetters (operands : List Text) : Run Nat := do
  let given := OptionRules.read
    { flags := "cCdst"
      words := [("complement", 'c'), ("delete", 'd'), ("squeeze-repeats", 's'),
        ("truncate-set1", 't')]
      anywhere := false }
    operands
  let sets := given.operands.map fun operand => readSet (operand.length + 1) operand
  let negated := given.has 'c' || given.has 'C'
  let deletes := given.has 'd'
  let squeezes := given.has 's'
  let source (items : List SetItem) : Text :=
    let list := expandSet 0 items
    if negated then everyCharacter.filter (!list.contains ·) else list
  unlessRefused "tr" 1 given do
    match sets with
    | [some first] =>
      if !deletes && !squeezes then
        failWith 1 "tr: missing operand"
      else
        let text ← takeInput
        let list := source first
        say (if deletes then text.filter (!list.contains ·) else squeeze list text)
        return 0
    | [some first, some second] =>
      let list := source first
      let target := expandSet list.length second
      if deletes then
        if squeezes then
          let text ← takeInput
          say (squeeze target (text.filter (!list.contains ·)))
          return 0
        else
          failWith 1 "tr: extra operand"
      else if target = [] then
        failWith 1 "tr: when not truncating set1, string2 must be non-empty"
      else
        let list := if given.has 't' then list.take target.length else list
        let table := (everyCharacter.map (replacement list target)).toArray
        let text := (← takeInput).map fun c => table.getD c.toNat c
        say (if squeezes then squeeze target text else text)
        return 0
    | _ => failWith 1 "tr: wrong operands"

end AppLauncher.Tools
