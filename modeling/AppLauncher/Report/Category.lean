import AppLauncher.Launch.Status

/-!
# Failure categories

Only a few statuses carry guidance for the user.  Success and every status
that is not listed here pass through silently.
-/

namespace AppLauncher

inductive FailureCategory where
  /-- No usable runtime: not found, not initialised or not loaded. -/
  | runtimeMissing
  | badArguments
  | startFailure
deriving DecidableEq, Repr

def FailureCategory.classify (status : Status) : Option FailureCategory :=
  if status = .runtimeNotFound ∨ status = .runtimeInitFailed
      ∨ status = .runtimeLoadFailed then
    some .runtimeMissing
  else if status = .argumentsRejected then
    some .badArguments
  else if status = .programStartFailed then
    some .startFailure
  else
    none

end AppLauncher
