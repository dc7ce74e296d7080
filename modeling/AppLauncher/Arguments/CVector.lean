import AppLauncher.Arguments.Vector

/-!
# C argument vectors

A shared library receives its arguments as an array of pointers to
NUL-terminated strings, closed by a null pointer.  The layout is modelled as
one block of memory that holds the strings, each with its terminator, and an
array of offsets into it.  Reading the strings back is defined here too, by
the reader's rule: up to the first NUL byte.
-/

namespace AppLauncher

inductive ArgumentError where
  | interiorNul (index : Nat)
  | tooMany (count : Nat)
deriving DecidableEq, Repr

def ArgumentError.message : ArgumentError → String
  | .interiorNul index =>
    "Argument " ++ toString index ++ " contains an interior NUL byte"
  | .tooMany count => "Too many arguments (" ++ toString count ++ ")"

structure CVector where
  /-- The strings, one after the other, each closed by a NUL byte. -/
  memory : Array UInt8
  /-- Where each string starts; `none` is the null pointer. -/
  pointers : List (Option Nat)
deriving DecidableEq, Repr

namespace CVector

/-- The greatest number of arguments, which is the greatest value of a C int. -/
def greatestCount : Nat := 2147483647

def firstNul? (arguments : List Bytes) : Option Nat :=
  arguments.findIdx? Bytes.hasNul

def offsets (start : Nat) : List Bytes → List Nat
  | [] => []
  | argument :: rest => start :: offsets (start + argument.length + 1) rest

def layOut (arguments : List Bytes) : CVector :=
  { memory := (arguments.flatMap (· ++ [Bytes.nul])).toArray
    pointers := (offsets 0 arguments).map some ++ [none] }

/-- The C form of an argument list, unless there are too many arguments or a string
would be cut short. -/
def ofList (arguments : List Bytes) : Except ArgumentError CVector :=
  if greatestCount < arguments.length then
    .error (.tooMany arguments.length)
  else
    match firstNul? arguments with
    | some index => .error (.interiorNul index)
    | none => .ok (layOut arguments)

/-- The number of arguments; the closing null pointer is not counted. -/
def count (vector : CVector) : Nat :=
  vector.pointers.length - 1

def closed (vector : CVector) : Bool :=
  vector.pointers.getLast? == some none

def bytesUpToNul (memory : Array UInt8) (offset : Nat) : Bytes :=
  if h : offset < memory.size then
    if memory[offset] = Bytes.nul then [] else memory[offset] :: bytesUpToNul memory (offset + 1)
  else
    []
termination_by memory.size - offset

theorem bytesUpToNul_eq_takeWhile (memory : Array UInt8) (offset : Nat) :
    bytesUpToNul memory offset = (memory.toList.drop offset).takeWhile (· ≠ Bytes.nul) := by
  fun_induction bytesUpToNul memory offset with
  | case1 offset h nul =>
    rw [List.drop_eq_getElem_cons (by simpa using h)]
    simp [nul]
  | case2 offset h notNul rest =>
    rw [List.drop_eq_getElem_cons (by simpa using h), rest]
    simp [notNul]
  | case3 offset h =>
    rw [List.drop_eq_nil_of_le (by simpa using h)]
    rfl

def stringAt (vector : CVector) (offset : Nat) : Bytes :=
  bytesUpToNul vector.memory offset

/-- The strings that a reader finds before the first null pointer. -/
def strings (vector : CVector) : List Bytes :=
  (vector.pointers.takeWhile (·.isSome)).filterMap fun pointer =>
    pointer.map vector.stringAt

end CVector

def ArgumentVector.toCVector (vector : ArgumentVector) : Except ArgumentError CVector :=
  CVector.ofList vector.toList

end AppLauncher
