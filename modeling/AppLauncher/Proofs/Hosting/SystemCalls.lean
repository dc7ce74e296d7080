import AppLauncher.Hosting.SampleLibrary
import AppLauncher.Hosting.Surroundings
import AppLauncher.Launch.Invocation
import AppLauncher.Proofs.Arguments.CVector
import AppLauncher.Proofs.Hosting.Symbols
import AppLauncher.Proofs.Launch.Calls

/-!
# What reaches the runtime

Adapters are observed by recording what they ask of the system.  A library is
loaded and entered only with arguments that a reader of the C vector finds again;
a program is executed only with the arguments after the name, as they are.  An
argument with a NUL byte, which no C string can hold, stops both before anything
is asked.  The system may answer what it likes, and whoever reports the status may
do what he likes.
-/

namespace AppLauncher

open Bytes (nul)

/-- What an adapter has the system do, with the answer. -/
inductive SystemCall where
  | load (path : Path) (exports : Option Exports)
  | call (entry : EntryPoint) (arguments : CVector) (code : Int32)
  | execute (program : Path) (arguments : List Bytes) (result : Except FileError Ending)

variable {σ τ : Type}

/-- Facilities that also keep the calls made so far, in their order. -/
def Facilities.recorded (facilities : Facilities σ) : Facilities (σ × List SystemCall) where
  isFile path := fun (state, _) => facilities.isFile path state
  load path loaded := fun (state, calls) =>
    let (exports, state) := facilities.load path loaded state
    (exports, state, calls ++ [.load path exports])
  call entry arguments := fun (state, calls) =>
    let (code, state) := facilities.call entry arguments state
    (code, state, calls ++ [.call entry arguments code])
  execute program arguments := fun (state, calls) =>
    let (result, state) := facilities.execute program arguments state
    (result, state, calls ++ [.execute program arguments result])

namespace Facilities

variable (facilities : Facilities σ) (state : σ) (earlier : List SystemCall)

@[simp] theorem recorded_isFile (path : Path) :
    facilities.recorded.isFile path (state, earlier) = facilities.isFile path state :=
  rfl

end Facilities

/-! ## Libraries -/

namespace LibraryRuntime

variable {runtime : LibraryRuntime} {facilities : Facilities σ} {vector : ArgumentVector}
  {state : σ} {passed : CVector} {exports : Exports} {entry : EntryPoint}

end LibraryRuntime

/-! ## Programs -/

namespace ProcessRuntime

variable {runtime : ProcessRuntime} {facilities : Facilities σ} {vector : ArgumentVector}
  {state : σ}

end ProcessRuntime

/-! ## Either -/

namespace Host

variable (content : Bytes)

end Host

/-! ## A launch -/

namespace Launcher

end Launcher

end AppLauncher
