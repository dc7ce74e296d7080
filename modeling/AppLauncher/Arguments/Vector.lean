import AppLauncher.Options.Set

/-!
# Argument vectors

The runtime receives the launcher's own name, then the options, then the
caller's arguments.  Options always come first, so that a caller can override
them where the last occurrence wins.  Nothing is dropped, reordered or
re-encoded.
-/

namespace AppLauncher

structure ArgumentVector where
  /-- Element 0, the path of the invoking process. -/
  name : Bytes
  tail : List Bytes
deriving DecidableEq, Repr

namespace ArgumentVector

def toList (vector : ArgumentVector) : List Bytes :=
  vector.name :: vector.tail

def count (vector : ArgumentVector) : Nat :=
  vector.toList.length

def ofName (name : Bytes) : ArgumentVector := ⟨name, []⟩

def appendOptions (vector : ArgumentVector) (options : OptionSet) : ArgumentVector :=
  { vector with tail := vector.tail ++ options.options }

/-- The vector with a caller's arguments appended, all but the caller's own
element 0. -/
def appendCaller (vector : ArgumentVector) (caller : List Bytes) : ArgumentVector :=
  { vector with tail := vector.tail ++ caller.tail }

@[simp] theorem toList_ofName (name : Bytes) : (ofName name).toList = [name] := rfl

@[simp] theorem toList_appendOptions (vector : ArgumentVector) (options : OptionSet) :
    (vector.appendOptions options).toList = vector.toList ++ options.options := rfl

@[simp] theorem toList_appendCaller (vector : ArgumentVector) (caller : List Bytes) :
    (vector.appendCaller caller).toList = vector.toList ++ caller.tail := rfl

inductive Part where
  | options (set : OptionSet)
  | caller (arguments : List Bytes)

def append (vector : ArgumentVector) : Part → ArgumentVector
  | .options set => vector.appendOptions set
  | .caller arguments => vector.appendCaller arguments

def assemble (name : Bytes) (parts : List Part) : ArgumentVector :=
  parts.foldl append (ofName name)

/-- The vector for a launch: the caller's element 0, or an empty name when
there is none; the options; the caller's further arguments. -/
def compose (caller : List Bytes) (options : OptionSet) : ArgumentVector :=
  ((ofName (caller.headD [])).appendOptions options).appendCaller caller

theorem toList_compose (caller : List Bytes) (options : OptionSet) :
    (compose caller options).toList = caller.headD [] :: (options.options ++ caller.tail) := by
  simp [compose]

end ArgumentVector

end AppLauncher
