import AppLauncher.Decimal.Shortest
import AppLauncher.Settings.Basic
import AppLauncher.Text.Quotation
import AppLauncher.Toml.Value

/-!
# Settings in a document

A document holds settings in three tables.  Keys are visited in their order,
unknown ones are passed over, and what is left out keeps its default.  A
value of the wrong shape is refused with the reason and the place.  Numbers
that cannot be represented are refused wherever they are visited, known key or
not.
-/

namespace AppLauncher

open Toml (Entry Value)

inductive Found where
  | boolean (value : Bool)
  | integer (value : Int)
  /-- A whole number that takes a signed 128-bit word. -/
  | wideInteger (value : Int)
  /-- A whole number that takes an unsigned 128-bit word. -/
  | widestInteger (value : Int)
  | float (value : Decimal.Binary64)
  | infinity (negative : Bool)
  | notANumber
  | string (text : String)
  | sequence
  | map
deriving DecidableEq, Repr

inductive Expected where
  | count
  | text
  | path
  | optionsTable
  | runtimeTable
  | reportTable
deriving DecidableEq, Repr

inductive ShapeCause where
  | integerOverflow
  | floatOverflow
  | wrongType (found : Found) (expected : Expected)
  | outOfRange (value : Int)
  | unknownKind (name : String)
  | kindOfOtherType
  | kindTableEmpty
  | kindTableCrowded
  | kindValue (kindName : String)
  | kindValueTable
  | kindValueArray
deriving DecidableEq, Repr

structure ShapeError where
  cause : ShapeCause
  position : Toml.Place
deriving DecidableEq, Repr

/-! ## Wording -/

def ticked (text : String) : String := "\x60" ++ text ++ "\x60"

def Found.describe : Found → String
  | .boolean value => "boolean " ++ ticked (if value then "true" else "false")
  | .integer value => "integer " ++ ticked (toString value)
  | .wideInteger value => "integer " ++ ticked (toString value) ++ " as i128"
  | .widestInteger value => "integer " ++ ticked (toString value) ++ " as u128"
  | .float value => "floating point " ++ ticked value.text
  | .infinity negative => "floating point " ++ ticked (if negative then "-inf" else "inf")
  | .notANumber => "floating point " ++ ticked "NaN"
  | .string text => "string " ++ Text.quotation text
  | .sequence => "sequence"
  | .map => "map"

def Expected.describe : Expected → String
  | .count => "usize"
  | .text => "a string"
  | .path => "path string"
  | .optionsTable => "struct OptionsConfig"
  | .runtimeTable => "struct RuntimeConfig"
  | .reportTable => "struct ReportConfig"

def ShapeCause.message : ShapeCause → String
  | .integerOverflow => "integer number overflowed"
  | .floatOverflow => "floating-point number overflowed"
  | .wrongType found expected =>
    "invalid type: " ++ found.describe ++ ", expected " ++ expected.describe
  | .outOfRange value =>
    "invalid value: integer " ++ ticked (toString value) ++ ", expected "
      ++ Expected.count.describe
  | .unknownKind name =>
    "unknown variant " ++ ticked name ++ ", expected " ++ ticked RuntimeKind.library.name
      ++ " or " ++ ticked RuntimeKind.process.name
  | .kindOfOtherType => "wanted string or table"
  | .kindTableEmpty => "wanted exactly 1 element, found 0 elements"
  | .kindTableCrowded => "wanted exactly 1 element, more than 1 element"
  | .kindValue kindName => "expected table, found " ++ kindName
  | .kindValueTable => "expected empty table"
  | .kindValueArray => "expected empty array"

/-! ## Values as they are found -/

/-- A whole number as it is found, unless it has no value or 128 bits cannot
hold it. -/
def Found.ofInteger : Option Int → Except ShapeCause Found
  | none => .error .integerOverflow
  | some value =>
    if -Int.pow 2 63 ≤ value ∧ value < Int.pow 2 64 then .ok (.integer value)
    else if -Int.pow 2 127 ≤ value ∧ value < Int.pow 2 127 then .ok (.wideInteger value)
    else if 0 ≤ value ∧ value < Int.pow 2 128 then .ok (.widestInteger value)
    else .error .integerOverflow

def Found.ofFloat : Toml.FloatLiteral → Except ShapeCause Found
  | .numeral numeral =>
    match numeral.value? with
    | some value => .ok (.float value)
    | none => .error .floatOverflow
  | .infinity negative => .ok (.infinity negative)
  | .notANumber => .ok .notANumber

def Found.ofValue : Value → Except ShapeCause Found
  | .string text => .ok (.string text)
  | .integer value => Found.ofInteger value
  | .float literal => Found.ofFloat literal
  | .boolean value => .ok (.boolean value)
  | .moment => .ok .map
  | .array _ | .grown _ => .ok .sequence
  | .table _ _ => .ok .map

def refuse {α : Type} (expected : Expected) (node : Toml.Node) : Except ShapeError α :=
  .error
    { cause :=
        match Found.ofValue node.value with
        | .ok found => .wrongType found expected
        | .error cause => cause
      position := node.position }

/-! ## Values that are passed over -/

mutual

/-- Visit a value without keeping it: every number must be representable. -/
def passOver : Toml.Node → Except ShapeError Unit
  | .mk position (.integer value) =>
    ((Found.ofInteger value).mapError (ShapeError.mk · position)).map fun _ => ()
  | .mk position (.float literal) =>
    ((Found.ofFloat literal).mapError (ShapeError.mk · position)).map fun _ => ()
  | .mk _ (.array items) => passOverItems items
  | .mk _ (.grown items) => passOverGrown items
  | .mk _ (.table _ entries) => passOverEntries entries
  | .mk _ (.string _) | .mk _ (.boolean _) | .mk _ .moment => .ok ()

def passOverItems : List Toml.Node → Except ShapeError Unit
  | [] => .ok ()
  | node :: rest =>
    match passOver node with
    | .ok () => passOverItems rest
    | .error error => .error error

/-- Visit the items of an array, which are given latest first. -/
def passOverGrown : List Toml.Node → Except ShapeError Unit
  | [] => .ok ()
  | node :: earlier =>
    match passOverGrown earlier with
    | .ok () => passOver node
    | .error error => .error error

def passOverEntries : List Entry → Except ShapeError Unit
  | [] => .ok ()
  | .mk _ _ node :: rest =>
    match passOver node with
    | .ok () => passOverEntries rest
    | .error error => .error error

end

/-! ## Fields -/

def readLimit (node : Toml.Node) : Except ShapeError UInt64 :=
  match node.value with
  | .integer (some value) =>
    if 0 ≤ value ∧ value < Int.pow 2 64 then .ok (UInt64.ofNat value.toNat)
    else if -Int.pow 2 63 ≤ value ∧ value < 0 then .error ⟨.outOfRange value, node.position⟩
    else refuse .count node
  | _ => refuse .count node

def readText (expected : Expected) (node : Toml.Node) : Except ShapeError String :=
  match node.value with
  | .string text => .ok text
  | _ => refuse expected node

def readPath (node : Toml.Node) : Except ShapeError Path :=
  (readText .path node).map Bytes.ofText

def RuntimeKind.ofName? (name : String) : Option RuntimeKind :=
  if name = RuntimeKind.library.name then some .library
  else if name = RuntimeKind.process.name then some .process
  else none

/-- Whether the value that a kind of runtime carries is empty, as it must be. -/
def checkKindValue (node : Toml.Node) : Except ShapeError Unit :=
  match node.value with
  | .array [] | .grown [] => .ok ()
  | .array _ | .grown _ => .error ⟨.kindValueArray, node.position⟩
  | .table _ [] => .ok ()
  | .table _ _ => .error ⟨.kindValueTable, node.position⟩
  | value => .error ⟨.kindValue value.kindName, node.position⟩

/-- A kind of runtime: its name, or a table that binds its name to nothing. -/
def readKind (node : Toml.Node) : Except ShapeError RuntimeKind :=
  match node.value with
  | .string name =>
    match RuntimeKind.ofName? name with
    | some kind => .ok kind
    | none => .error ⟨.unknownKind name, node.position⟩
  | .table _ [] => .error ⟨.kindTableEmpty, node.position⟩
  | .table _ [entry] =>
    match RuntimeKind.ofName? entry.key with
    | some kind => (checkKindValue entry.node).map fun _ => kind
    | none => .error ⟨.unknownKind entry.key, entry.keyPosition⟩
  | .table _ _ => .error ⟨.kindTableCrowded, node.position⟩
  | _ => .error ⟨.kindOfOtherType, node.position⟩

/-! ## Tables -/

/-- A field of a table of settings: its key, and how a value found there
changes what is known so far. -/
structure Field (α : Type) where
  key : String
  read : Toml.Node → α → Except ShapeError α

def Field.setting {α β : Type} (key : String) (read : Toml.Node → Except ShapeError β)
    (set : β → α → α) : Field α :=
  { key, read := fun node known => (read node).map (set · known) }

/-- What is known after an entry: a known key is read, another passed over. -/
def readEntry {α : Type} (fields : List (Field α)) (known : α) (entry : Entry) :
    Except ShapeError α :=
  match fields.find? (·.key = entry.key) with
  | some field => field.read entry.node known
  | none => (passOver entry.node).map fun _ => known

def readEntries {α : Type} (fields : List (Field α)) (known : α) (entries : List Entry) :
    Except ShapeError α :=
  entries.foldlM (readEntry fields) known

/-- What is known after the items of an array, which stand for the fields in
order.  Items beyond the fields are not visited. -/
def readItems {α : Type} (fields : List (Field α)) (known : α) (items : List Toml.Node) :
    Except ShapeError α :=
  (fields.zip items).foldlM (fun known (field, node) => field.read node known) known

/-- A table of settings.  It may be given as an array of its fields, and a date
or time stands for a table with no known key. -/
def readTable {α : Type} (expected : Expected) (fields : List (Field α)) (known : α)
    (node : Toml.Node) : Except ShapeError α :=
  match node.value with
  | .table _ entries => readEntries fields known entries
  | .array items => readItems fields known items
  | .grown items => readItems fields known items.reverse
  | .moment => .ok known
  | _ => refuse expected node

def Limits.fields : List (Field Limits) :=
  [.setting "max_options" readLimit fun value limits => { limits with maxOptions := value },
   .setting "max_line_length" readLimit fun value limits =>
     { limits with maxLineLength := value }]

def RuntimeSettings.fields : List (Field RuntimeSettings) :=
  [.setting "kind" readKind fun value runtime => { runtime with kind := value },
   .setting "library" readPath fun value runtime => { runtime with library := value },
   .setting "entry" (readText .text) fun value runtime => { runtime with entry := value },
   .setting "program" readPath fun value runtime => { runtime with program := value }]

def Messages.fields : List (Field Messages) :=
  [.setting "product_name" (readText .text) fun value messages =>
     { messages with productName := value },
   .setting "download_url" (readText .text) fun value messages =>
     { messages with downloadUrl := value }]

def Settings.fields : List (Field Settings) :=
  [.setting "options" (readTable .optionsTable Limits.fields {}) fun value settings =>
     { settings with options := value },
   .setting "runtime" (readTable .runtimeTable RuntimeSettings.fields {})
     fun value settings => { settings with runtime := value },
   .setting "report" (readTable .reportTable Messages.fields {}) fun value settings =>
     { settings with report := value }]

def Settings.ofEntries (entries : List Entry) : Except ShapeError Settings :=
  readEntries Settings.fields {} entries

end AppLauncher
