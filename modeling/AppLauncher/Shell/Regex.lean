import AppLauncher.Shell.Pattern

/-!
# Regular expressions

Regular expressions of the basic and the extended kind.  A match is the
leftmost one, and the longest of those.  Groups remember what they matched.
-/

namespace AppLauncher.Shell

inductive Regex where
  | empty
  | any
  | one (c : Char)
  | among (set : CharacterSet)
  | start
  | finish
  /-- Between a character of a word and one that is none. -/
  | wordEdge (opening closing : Bool)
  /-- Between two characters of words, or between two that are none. -/
  | noWordEdge
  | group (index : Nat) (inner : Regex)
  | again (index : Nat)
  | sequence (first second : Regex)
  | either (first second : Regex)
  | repeated (inner : Regex) (least : Nat) (most : Option Nat)
deriving Repr

namespace Regex

/-! ## Reading -/

inductive Kind where
  | basic
  | extended
deriving DecidableEq, Repr

inductive Sign where
  | open
  | close
  | alternative
  | star
  | plus
  | optional
  | brace
  | dot
  | bracket
  | caret
  | dollar
  | escaped (c : Char)
  | literal (c : Char)
deriving DecidableEq, Repr

def sign? (kind : Kind) : Text → Option (Sign × Text)
  | [] => none
  | '\\' :: c :: rest =>
    let meant : Sign :=
      match kind, c with
      | .basic, '(' => .open
      | .basic, ')' => .close
      | .basic, '|' => .alternative
      | .basic, '+' => .plus
      | .basic, '?' => .optional
      | .basic, c => if c == '\x7b' then .brace else .escaped c
      | .extended, c => .escaped c
    some (meant, rest)
  | c :: rest =>
    let meant : Sign :=
      match kind, c with
      | _, '*' => .star
      | _, '.' => .dot
      | _, '[' => .bracket
      | _, '^' => .caret
      | _, '$' => .dollar
      | .extended, '(' => .open
      | .extended, ')' => .close
      | .extended, '|' => .alternative
      | .extended, '+' => .plus
      | .extended, '?' => .optional
      | .extended, c => if c == '\x7b' then .brace else .literal c
      | .basic, c => .literal c
    some (meant, rest)

def endsHere (kind : Kind) (text : Text) : Bool :=
  match sign? kind text with
  | none => true
  | some (.close, _) => true
  | some (.alternative, _) => true
  | _ => false

def bounds? (kind : Kind) (text : Text) : Option ((Nat × Option Nat) × Text) :=
  let least := text.takeWhile Char.isDigit
  let rest := text.drop least.length
  let closed (bounds : Nat × Option Nat) (rest : Text) : Option ((Nat × Option Nat) × Text) :=
    match kind, rest with
    | .extended, c :: rest => if c == '\x7d' then some (bounds, rest) else none
    | .basic, '\\' :: c :: rest => if c == '\x7d' then some (bounds, rest) else none
    | _, _ => none
  match rest with
  | ',' :: rest =>
    let most := rest.takeWhile Char.isDigit
    closed (Word.number least, if most = [] then none else some (Word.number most))
      (rest.drop most.length)
  | rest =>
    if least = [] then none else closed (Word.number least, some (Word.number least)) rest

/-- A list in brackets after its opening bracket, in which a backslash is an
ordinary character. -/
def set? (text : Text) : Option (CharacterSet × Text) :=
  let letters := text.map fun c => (⟨c, c == '\\'⟩ : Letter)
  let (negated, letters) := match letters with
    | ⟨'^', false⟩ :: rest => (true, rest)
    | letters => (false, letters)
  (Pattern.members? (letters.length + 1) true letters).map fun (members, rest) =>
    (⟨negated, members⟩, plain rest)

def wordSet (negated : Bool) : Regex :=
  .among ⟨negated, [.ofClass .alphanumeric, .range '_' '_']⟩

def spaceSet (negated : Bool) : Regex :=
  .among ⟨negated, [.ofClass .space]⟩

def escape (c : Char) : Regex :=
  match c with
  | 'n' => .one '\n'
  | 't' => .one '\t'
  | 'w' => wordSet false
  | 'W' => wordSet true
  | 's' => spaceSet false
  | 'S' => spaceSet true
  | '<' => .wordEdge true false
  | '>' => .wordEdge false true
  | 'b' => .wordEdge true true
  | 'B' => .noWordEdge
  | c => if '1' ≤ c && c ≤ '9' then .again (c.toNat - '0'.toNat) else .one c

/-- An expression that was read, the rest of the text, and the number of the
next group. -/
abbrev Reading := Option (Regex × Text × Nat)

mutual

def readEither (kind : Kind) : (fuel : Nat) → (next : Nat) → Text → Reading
  | 0, _, _ => none
  | fuel + 1, next, text =>
    match readSequence kind fuel true next text with
    | none => none
    | some (first, rest, next) =>
      match sign? kind rest with
      | some (.alternative, rest) =>
        (readEither kind fuel next rest).map fun (second, rest, next) =>
          (.either first second, rest, next)
      | _ => some (first, rest, next)

/-- Expressions in a row.  The flag tells whether nothing stands before. -/
def readSequence (kind : Kind) : (fuel : Nat) → (first : Bool) → (next : Nat) → Text → Reading
  | 0, _, _, _ => none
  | fuel + 1, first, next, text =>
    if endsHere kind text then
      some (.empty, text, next)
    else
      match readRepeated kind fuel first next text with
      | none => none
      | some (item, rest, next) =>
        let first := first && match item with
          | .start => true
          | _ => false
        (readSequence kind fuel first next rest).map fun (others, rest, next) =>
          (.sequence item others, rest, next)

def readRepeated (kind : Kind) : (fuel : Nat) → (first : Bool) → (next : Nat) → Text → Reading
  | 0, _, _, _ => none
  | fuel + 1, first, next, text =>
    match readItem kind fuel first next text with
    | none => none
    | some (.start, rest, next) => some (.start, rest, next)
    | some (item, rest, next) => readSigns kind fuel item next rest

def readSigns (kind : Kind) : (fuel : Nat) → Regex → (next : Nat) → Text → Reading
  | 0, _, _, _ => none
  | fuel + 1, item, next, text =>
    match sign? kind text with
    | some (.star, rest) => readSigns kind fuel (.repeated item 0 none) next rest
    | some (.plus, rest) => readSigns kind fuel (.repeated item 1 none) next rest
    | some (.optional, rest) => readSigns kind fuel (.repeated item 0 (some 1)) next rest
    | some (.brace, rest) =>
      match bounds? kind rest with
      | some ((least, most), rest) => readSigns kind fuel (.repeated item least most) next rest
      | none => if kind = .extended then some (item, text, next) else none
    | _ => some (item, text, next)

def readItem (kind : Kind) : (fuel : Nat) → (first : Bool) → (next : Nat) → Text → Reading
  | 0, _, _, _ => none
  | fuel + 1, first, next, text =>
    match sign? kind text with
    | none => none
    | some (.open, rest) =>
      match readEither kind fuel (next + 1) rest with
      | some (inner, rest, after) =>
        match sign? kind rest with
        | some (.close, rest) => some (.group next inner, rest, after)
        | _ => none
      | none => none
    | some (.bracket, rest) =>
      (set? rest).map fun (set, rest) => (.among set, rest, next)
    | some (.dot, rest) => some (.any, rest, next)
    | some (.caret, rest) =>
      some (if first || kind = .extended then .start else .one '^', rest, next)
    | some (.dollar, rest) =>
      some (if endsHere kind rest || kind = .extended then .finish else .one '$', rest, next)
    | some (.escaped c, rest) => some (escape c, rest, next)
    | some (.literal c, rest) => some (.one c, rest, next)
    | some (.brace, rest) => some (.one '\x7b', rest, next)
    | some (.star, rest) => some (.one '*', rest, next)
    | some (.plus, rest) => some (.one '+', rest, next)
    | some (.optional, rest) => some (.one '?', rest, next)
    | some (.close, _) => none
    | some (.alternative, _) => none

end

def read? (kind : Kind) (text : Text) : Option Regex :=
  match readEither kind (8 * text.length + 16) 1 text with
  | some (regex, [], _) => some regex
  | _ => none

def ofText (text : Text) : Regex :=
  text.foldr (fun c regex => .sequence (.one c) regex) .empty

def groupCount : Regex → Nat
  | .group _ inner => inner.groupCount + 1
  | .sequence first second => first.groupCount + second.groupCount
  | .either first second => first.groupCount + second.groupCount
  | .repeated inner _ _ => inner.groupCount
  | _ => 0

/-! ## Matching -/

structure Spot where
  place : Nat
  groups : List (Nat × Nat × Nat) := []
deriving DecidableEq, Repr

structure Subject where
  text : Array Char
  ignoresCase : Bool := false

def Subject.same (subject : Subject) (expected c : Char) : Bool :=
  expected == c || (subject.ignoresCase && expected.toLower == c.toLower)

def Subject.isIn (subject : Subject) (set : CharacterSet) (c : Char) : Bool :=
  if subject.ignoresCase then
    (set.members.any fun member => member.contains c.toLower || member.contains c.toUpper)
      != set.negated
  else set.contains c

def Subject.isWordAt (subject : Subject) (place : Nat) : Bool :=
  match subject.text[place]? with
  | some c => c.isAlphanum || c == '_'
  | none => false

/-- Spots with different places; of equal ones the first is kept. -/
def distinct (spots : List Spot) : List Spot :=
  (spots.foldl
    (fun kept spot => if kept.any (·.place == spot.place) then kept else spot :: kept)
    []).reverse

/-- The spots after repetitions of a step, those after more of them first. -/
def repetitions (step : Spot → List Spot) : (fuel : Nat) → (least : Nat) →
    (most : Option Nat) → Spot → List Spot
  | 0, _, _, _ => []
  | fuel + 1, least, most, spot =>
    let more :=
      if most = some 0 then []
      else
        ((step spot).filter fun next => spot.place < next.place || least ≠ 0).flatMap fun next =>
          repetitions step fuel (least - 1) (most.map (· - 1)) next
    distinct (if least = 0 then more ++ [spot] else more)

def ends (subject : Subject) : Regex → Spot → List Spot
  | .empty, spot => [spot]
  | .any, spot =>
    if spot.place < subject.text.size then [{ spot with place := spot.place + 1 }] else []
  | .one expected, spot =>
    match subject.text[spot.place]? with
    | some c => if subject.same expected c then [{ spot with place := spot.place + 1 }] else []
    | none => []
  | .among set, spot =>
    match subject.text[spot.place]? with
    | some c => if subject.isIn set c then [{ spot with place := spot.place + 1 }] else []
    | none => []
  | .start, spot => if spot.place = 0 then [spot] else []
  | .finish, spot => if spot.place = subject.text.size then [spot] else []
  | .wordEdge opening closing, spot =>
    let before := 0 < spot.place && subject.isWordAt (spot.place - 1)
    let after := subject.isWordAt spot.place
    if (opening && !before && after) || (closing && before && !after) then [spot] else []
  | .noWordEdge, spot =>
    if (0 < spot.place && subject.isWordAt (spot.place - 1)) == subject.isWordAt spot.place then
      [spot]
    else []
  | .group index inner, spot =>
    (inner.ends subject spot).map fun next =>
      { next with
        groups := (index, spot.place, next.place) :: next.groups.filter (·.1 != index) }
  | .again index, spot =>
    match spot.groups.lookup index with
    | none => []
    | some (first, last) =>
      let matched := (subject.text.extract first last).toList
      let here := (subject.text.extract spot.place (spot.place + matched.length)).toList
      if matched.length = here.length
          ∧ (matched.zip here).all (fun (expected, c) => subject.same expected c) then
        [{ spot with place := spot.place + matched.length }]
      else []
  | .sequence first second, spot =>
    distinct ((first.ends subject spot).flatMap (second.ends subject))
  | .either first second, spot =>
    distinct (first.ends subject spot ++ second.ends subject spot)
  | .repeated inner least most, spot =>
    repetitions (inner.ends subject) (subject.text.size + least + 1) least most spot

structure Match where
  first : Nat
  last : Nat
  groups : List (Nat × Nat × Nat)
deriving DecidableEq, Repr

def matchAt? (regex : Regex) (subject : Subject) (place : Nat) : Option Match :=
  let longest := (regex.ends subject { place }).foldl
    (fun best spot =>
      match best with
      | none => some spot
      | some known => if known.place < spot.place then some spot else some known)
    (none : Option Spot)
  longest.map fun spot => ⟨place, spot.place, spot.groups⟩

/-- The leftmost match that begins at a place or after it, so many places on at
most. -/
def matchFrom? (regex : Regex) (subject : Subject) : (count : Nat) → (place : Nat) → Option Match
  | 0, place => matchAt? regex subject place
  | count + 1, place =>
    match matchAt? regex subject place with
    | some found => some found
    | none => matchFrom? regex subject count (place + 1)

def search? (regex : Regex) (subject : Subject) (place : Nat) : Option Match :=
  if subject.text.size < place then none
  else matchFrom? regex subject (subject.text.size - place) place

/-- The text of a group of a match; group 0 is all of it. -/
def Match.group (found : Match) (subject : Subject) (index : Nat) : Text :=
  if index = 0 then (subject.text.extract found.first found.last).toList
  else
    match found.groups.lookup index with
    | some (first, last) => (subject.text.extract first last).toList
    | none => []

end Regex

end AppLauncher.Shell
