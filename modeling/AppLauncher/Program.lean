import AppLauncher.Hosting.Surroundings
import AppLauncher.Launch.Invocation

/-!
# The launcher as a program

A call of the program runs on the host that it was made on.
-/

namespace AppLauncher.Invocation

def run (invocation : Invocation) : Logged Outcome × Session :=
  invocation.runWith Adapter.Surroundings.facilities

theorem run_eq (invocation : Invocation) :
    invocation.run = invocation.runWith Adapter.Surroundings.facilities :=
  rfl

def exitStatus (invocation : Invocation) : Nat :=
  invocation.run.1.value.status.observed

end AppLauncher.Invocation
