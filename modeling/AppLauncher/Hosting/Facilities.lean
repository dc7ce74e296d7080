import AppLauncher.Files.Node
import AppLauncher.Files.OsError

/-!
# The system underneath

A launcher asks its system to load libraries, to call into them and to execute
programs.  The system is a collaborator with a state of its own: what is asked of
it, with what arguments and in which order, is for the launcher to decide, and how
it answers is not.
-/

namespace AppLauncher

inductive Ending where
  | exited (code : Nat)
  | killed (signal : Nat)
deriving DecidableEq, Repr

/-- The code by which a shell knows how a program ended. -/
def Ending.code : Ending → Nat
  | .exited code => code % 256
  | .killed signal => 128 + signal

abbrev Exports := List (Bytes × EntryPoint)

/-- What is asked of the system.  Each call may change its state. -/
structure Facilities (σ : Type) where
  isFile : Path → σ → Bool
  /-- Load the library that a path leads to.  One that was loaded from there before
  is still there. -/
  load : Path → Option Exports → σ → Option Exports × σ
  call : EntryPoint → CVector → σ → Int32 × σ
  execute : Path → List Bytes → σ → Except FileError Ending × σ

namespace Facilities

/-- Strings with a NUL byte cannot be handed over. -/
def anyNul (program : Path) (arguments : List Bytes) : Bool :=
  (program :: arguments).any Bytes.hasNul

def spawn {σ : Type} (facilities : Facilities σ) (program : Path) (arguments : List Bytes)
    (state : σ) : Except FileError Ending × σ :=
  if anyNul program arguments then (.error .nulInPath, state)
  else facilities.execute program arguments state

end Facilities

end AppLauncher
