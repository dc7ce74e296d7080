import AppLauncher.Toml.Lexical

/-!
# Dates and times

A date, a time of day, or a date with a time that may have an offset.  Seconds
may be left out.  Only whether a text is such a value is of interest here, not
which.
-/

namespace AppLauncher.Toml.Moment

def digits? : (count : Nat) → (value : Nat) → Reader Nat
  | 0, value, text => some (value, text)
  | count + 1, value, c :: rest =>
    if c.isDigit then digits? count (value * 10 + digitValue c) rest else none
  | _ + 1, _, [] => none

def after? (expected : Char) : List Char → Option (List Char)
  | c :: rest => if c == expected then some rest else none
  | [] => none

def isLeap (year : Nat) : Bool :=
  year % 4 == 0 && (year % 100 != 0 || year % 400 == 0)

def daysIn (year month : Nat) : Nat :=
  if month = 2 then (if isLeap year then 29 else 28)
  else if month = 4 ∨ month = 6 ∨ month = 9 ∨ month = 11 then 30
  else 31

def afterDate? (text : List Char) : Option (List Char) := do
  let (year, text) ← digits? 4 0 text
  let text ← after? '-' text
  let (month, text) ← digits? 2 0 text
  let text ← after? '-' text
  let (day, text) ← digits? 2 0 text
  if 1 ≤ month ∧ month ≤ 12 ∧ 1 ≤ day ∧ day ≤ daysIn year month then some text
  else none

def afterFraction? (text : List Char) : Option (List Char) :=
  match text with
  | '.' :: rest =>
    if rest.head?.any Char.isDigit then some (rest.dropWhile Char.isDigit) else none
  | _ => some text

def afterTime? (text : List Char) : Option (List Char) := do
  let (hour, text) ← digits? 2 0 text
  let text ← after? ':' text
  let (minute, text) ← digits? 2 0 text
  if 23 < hour ∨ 59 < minute then none
  else
    match text with
    | ':' :: rest =>
      let (second, text) ← digits? 2 0 rest
      if 60 < second then none else afterFraction? text
    | _ => some text

def isOffset (text : List Char) : Bool :=
  match text with
  | [] => true
  | ['Z'] => true
  | ['z'] => true
  | sign :: rest =>
    (sign == '+' || sign == '-') &&
      match (do
        let (hour, text) ← digits? 2 0 rest
        let text ← after? ':' text
        let (minute, text) ← digits? 2 0 text
        some (hour, minute, text) : Option (Nat × Nat × List Char)) with
      | some (hour, minute, []) => hour ≤ 23 && minute ≤ 59
      | _ => false

def isSeparator (c : Char) : Bool :=
  c == 'T' || c == 't' || c == ' '

def accepts (text : List Char) : Bool :=
  match afterDate? text with
  | some [] => true
  | some (c :: rest) => isSeparator c && (afterTime? rest).any isOffset
  | none => afterTime? text == some []

end AppLauncher.Toml.Moment
