/-!
# Launch statuses

A launch ends with a signed 32-bit status.  A few values are agreed on; every
other value is the runtime's own.  The parent of the launcher sees only the
low eight bits.
-/

namespace AppLauncher

structure Status where
  code : Int32
deriving DecidableEq, Repr

namespace Status

def success : Status := ⟨0⟩

def runtimeNotFound : Status := ⟨201⟩

def runtimeInitFailed : Status := ⟨202⟩

def runtimeLoadFailed : Status := ⟨203⟩

def argumentsRejected : Status := ⟨204⟩

def programStartFailed : Status := ⟨205⟩

def isSuccess (status : Status) : Bool := status.code == 0

def text (status : Status) : String := toString status.code.toInt

/-- What the parent of a process that ends with this status observes. -/
def observed (status : Status) : Nat := (status.code.toInt % 256).toNat

end Status

end AppLauncher
