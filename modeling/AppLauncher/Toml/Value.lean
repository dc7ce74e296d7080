import AppLauncher.Decimal.Binary64

/-!
# Document values

A document is a table of values.  Every value remembers where it began, so that
an error can name its line.  Tables keep their entries in the order of their
keys and remember how they came about, because that decides what may still be
added.
-/

namespace AppLauncher.Toml

/-- A place in a text, given by all that the text holds from there on. -/
abbrev Place := List Char

inductive FloatLiteral where
  | numeral (value : Decimal.Numeral)
  | infinity (negative : Bool)
  | notANumber
deriving DecidableEq, Repr

inductive TableOrigin where
  /-- It has a header of its own, or is the top-level table. -/
  | header
  /-- A header of one of its children passed through it. -/
  | implied
  /-- A dotted key passed through it. -/
  | dotted
  /-- It was written between braces and is closed for good. -/
  | inline
deriving DecidableEq, Repr

mutual

inductive Value where
  | string (text : String)
  /-- A whole number; it may be well written and have no value. -/
  | integer (value : Option Int)
  | float (literal : FloatLiteral)
  | boolean (value : Bool)
  | moment
  /-- An array that was written between brackets and is closed for good. -/
  | array (items : List Node)
  /-- An array that grows with every header in double brackets, latest item first. -/
  | grown (items : List Node)
  | table (origin : TableOrigin) (entries : List Entry)

inductive Node where
  | mk (position : Place) (value : Value)

inductive Entry where
  | mk (key : String) (keyPosition : Place) (node : Node)

end

namespace Node

def position : Node → Place
  | .mk position _ => position

def value : Node → Value
  | .mk _ value => value

end Node

namespace Entry

def key : Entry → String
  | .mk key _ _ => key

def keyPosition : Entry → Place
  | .mk _ position _ => position

def node : Entry → Node
  | .mk _ _ node => node

end Entry

def Value.kindName : Value → String
  | .string _ => "string"
  | .integer _ => "integer"
  | .float _ => "float"
  | .boolean _ => "boolean"
  | .moment => "datetime"
  | .array _ | .grown _ => "array"
  | .table _ _ => "table"

def lookup (key : String) : List Entry → Option Node
  | [] => none
  | entry :: rest => if entry.key = key then some entry.node else lookup key rest

/-- Entries with one more, in the order of keys.  An entry with the same key
gives way but for the place of its key. -/
def insert (entry : Entry) : List Entry → List Entry
  | [] => [entry]
  | first :: rest =>
    if entry.key < first.key then entry :: first :: rest
    else if entry.key = first.key then
      .mk first.key first.keyPosition entry.node :: rest
    else first :: insert entry rest

def erase (key : String) (entries : List Entry) : List Entry :=
  entries.filter (·.key != key)

end AppLauncher.Toml
