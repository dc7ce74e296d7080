import AppLauncher.Files.Host
import AppLauncher.Settings.Shape
import AppLauncher.Text.Utf8
import AppLauncher.Toml.Document

/-!
# Loading settings

The settings file has a fixed name in the install directory.  Where nothing
can be found under its path the defaults apply; what is found must be
readable, well formed, of the right shape, and keep the rules.
-/

namespace AppLauncher

inductive SettingsTextError where
  | malformed
  | shape (cause : ShapeCause) (line : Nat)
deriving DecidableEq, Repr

inductive SettingsError where
  | unreadable (path : Path) (error : FileError)
  | text (path : Path) (error : SettingsTextError)
  | invalid (fault : SettingsFault)
deriving DecidableEq, Repr

def SettingsFault.report (fault : SettingsFault) : String :=
  "Config validation failed: " ++ fault.message

def unreadableSettingsMessage (path : Path) (error : FileError) : String :=
  "Failed to read config file '" ++ Utf8.shown path ++ "': " ++ error.message

namespace Settings

def fileName : Path := Bytes.ofText "launcher.toml"

def pathIn (directory : Path) : Path := directory.join fileName

/-- The settings in a text, whether or not they keep the rules. -/
def parse (text : List Char) : Except SettingsTextError Settings :=
  match Toml.parse? text with
  | none => .error .malformed
  | some entries =>
    (ofEntries entries).mapError fun error =>
      .shape error.cause (Toml.lineOf text error.position)

def validate (settings : Settings) : Except SettingsFault Settings :=
  match settings.fault? with
  | some fault => .error fault
  | none => .ok settings

def ofContent (path : Path) (content : Bytes) : Except SettingsError Settings :=
  match Utf8.decode? content with
  | none => .error (.unreadable path .notUtf8)
  | some text =>
    match parse text with
    | .error error => .error (.text path error)
    | .ok settings => settings.validate.mapError .invalid

/-- The settings in the file at a path, or the defaults when the path leads
nowhere, for whatever reason. -/
def readFrom (files : Files) (path : Path) : Except SettingsError Settings :=
  match files.lookUp path with
  | .error _ => .ok {}
  | .ok () =>
    match files.content path with
    | .error error => .error (.unreadable path error)
    | .ok content => ofContent path content

def loadFrom (host : Host) (path : Path) : Except SettingsError Settings :=
  readFrom host.files path

def load (host : Host) (directory : Path) : Except SettingsError Settings :=
  loadFrom host (pathIn directory)

/-- The settings to work with.  Those that cannot be used count as none. -/
def orDefault : Except SettingsError Settings → Settings
  | .ok settings => settings
  | .error _ => {}

end Settings

end AppLauncher
