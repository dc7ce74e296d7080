import AppLauncher.Files.Host
import AppLauncher.Options.Reading
import AppLauncher.Options.Set

/-!
# Loading options from an install directory

The options file has a fixed name.  Loading never fails: where the file is
missing or unreadable the built-in table stands in, and only an unreadable
file is worth a warning.
-/

namespace AppLauncher

inductive OptionsError where
  | notFound (path : Path)
  | unreadable (path : Path) (error : FileError)
deriving DecidableEq, Repr

namespace OptionsError

def message : OptionsError → String
  | .notFound path => "Options file '" ++ Utf8.shown path ++ "' does not exist"
  | .unreadable path error =>
    "Failed to read options file '" ++ Utf8.shown path ++ "': " ++ error.message

def ofFileError (path : Path) (error : FileError) : OptionsError :=
  if error.isNotFound then .notFound path else .unreadable path error

end OptionsError

inductive OptionsWarning where
  | truncated
  | unreadable (error : OptionsError)
deriving DecidableEq, Repr

def OptionsWarning.message : OptionsWarning → String
  | .truncated => "Options file exceeds the option limit, ignoring the remainder"
  | .unreadable error => error.message ++ "; using default options"

structure OptionsLoader where
  directory : Path
  limits : Limits := {}
  variant : Variant := .current
deriving DecidableEq, Repr

namespace OptionsLoader

def fileName : Path := Bytes.ofText "launch.properties"

def path (loader : OptionsLoader) : Path :=
  loader.directory.join fileName

def parseFrom? (loader : OptionsLoader) (files : Files) :
    Except OptionsError Options.Parsed :=
  ((files.readAtMost loader.path loader.limits.budget).mapError
    (OptionsError.ofFileError loader.path)).map (Options.parse loader.limits)

def parseFile? (loader : OptionsLoader) (host : Host) :
    Except OptionsError Options.Parsed :=
  loader.parseFrom? host.files

def loadFile? (loader : OptionsLoader) (host : Host) : Except OptionsError OptionSet :=
  (loader.parseFile? host).map fun parsed => ⟨parsed.options, .file⟩

def load (loader : OptionsLoader) (host : Host) : OptionSet × List OptionsWarning :=
  match loader.parseFile? host with
  | .ok parsed =>
    (⟨parsed.options, .file⟩, if parsed.truncated then [.truncated] else [])
  | .error (.notFound _) => (loader.variant.builtInOptions, [])
  | .error error => (loader.variant.builtInOptions, [.unreadable error])

end OptionsLoader

end AppLauncher
