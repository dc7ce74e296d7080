import AppLauncher.Files.Host
import AppLauncher.Text.Utf8

/-!
# The install directory

A launcher works in the directory of its own executable, so that relative
paths mean the same no matter where it was started from.
-/

namespace AppLauncher

def installDirectory? (executable : Path) : Option Path :=
  (Path.parent? executable).filter (· ≠ [])

structure EnterError where
  directory : Path
  cause : FileError
deriving DecidableEq, Repr

def EnterError.message (error : EnterError) : String :=
  "failed to change directory to '" ++ Utf8.shown error.directory ++ "': "
    ++ error.cause.message

def Host.enterDirectory (host : Host) (directory : Path) : Except EnterError Host :=
  (host.enter directory).mapError (EnterError.mk directory)

end AppLauncher
