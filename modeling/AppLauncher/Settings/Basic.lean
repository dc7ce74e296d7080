import AppLauncher.Bytes
import AppLauncher.Files.Path
import AppLauncher.Options.Limits
import AppLauncher.Report.Dialog

/-!
# Settings

What a launcher can be told about itself: how much of an options file it
takes, how the hosted runtime is started, and what it says when that fails.
-/

namespace AppLauncher

inductive RuntimeKind where
  | library
  | process
deriving DecidableEq, Repr

def RuntimeKind.name : RuntimeKind → String
  | .library => "library"
  | .process => "process"

structure RuntimeSettings where
  kind : RuntimeKind := .process
  /-- The library, relative to the install directory. -/
  library : Path := Bytes.ofText "lib/liblaunch.so"
  entry : String := "launch"
  /-- The program, relative to the install directory. -/
  program : Path := Bytes.ofText "jre/bin/java"
deriving DecidableEq, Repr

structure Settings where
  options : Limits := {}
  runtime : RuntimeSettings := {}
  report : Messages := {}
deriving DecidableEq, Repr

inductive SettingsFault where
  | noOptions
  | noLineLength
  | noLibrary
  | noEntry
  | noProgram
deriving DecidableEq, Repr

def SettingsFault.message : SettingsFault → String
  | .noOptions => "options.max_options must be at least 1"
  | .noLineLength => "options.max_line_length must be at least 1"
  | .noLibrary => "runtime.library must not be empty"
  | .noEntry => "runtime.entry must not be empty"
  | .noProgram => "runtime.program must not be empty"

/-- The first rule that settings for a runtime break.  Only the fields that the
kind of runtime uses are looked at. -/
def RuntimeSettings.fault? (runtime : RuntimeSettings) : Option SettingsFault :=
  match runtime.kind with
  | .library =>
    if runtime.library = [] then some .noLibrary
    else if runtime.entry = "" then some .noEntry
    else none
  | .process => if runtime.program = [] then some .noProgram else none

def Settings.fault? (settings : Settings) : Option SettingsFault :=
  if settings.options.maxOptions = 0 then some .noOptions
  else if settings.options.maxLineLength = 0 then some .noLineLength
  else settings.runtime.fault?

end AppLauncher
