import AppLauncher.Settings.Basic
import AppLauncher.Text.Utf8
import AppLauncher.Toml.Quoted.Writing

/-!
# Writing settings

Settings are written as a document with one section for each table, keys in
their declared order, and a blank line between sections.  Paths that are not
text cannot be written.
-/

namespace AppLauncher

inductive RenderError where
  | pathNotText
deriving DecidableEq, Repr

def RenderError.message : RenderError → String
  | .pathNotText => "path contains invalid UTF-8 characters"

namespace Settings

def decimal (number : Nat) : List Char := Nat.toDigits 10 number

def binding (key : String) (value : List Char) : List Char :=
  key.toList ++ [' ', '=', ' '] ++ value ++ ['\n']

def heading (name : String) : List Char :=
  '[' :: (name.toList ++ [']', '\n'])

def pathText (path : Path) : Except RenderError (List Char) :=
  match Utf8.decode? path with
  | some text => .ok text
  | none => .error .pathNotText

def document (settings : Settings) (library program : List Char) : List Char :=
  heading "options"
    ++ binding "max_options" (decimal settings.options.maxOptions.toNat)
    ++ binding "max_line_length" (decimal settings.options.maxLineLength.toNat)
    ++ '\n' :: heading "runtime"
    ++ binding "kind" (Toml.Quoted.write settings.runtime.kind.name.toList)
    ++ binding "library" (Toml.Quoted.write library)
    ++ binding "entry" (Toml.Quoted.write settings.runtime.entry.toList)
    ++ binding "program" (Toml.Quoted.write program)
    ++ '\n' :: heading "report"
    ++ binding "product_name" (Toml.Quoted.write settings.report.productName.toList)
    ++ binding "download_url" (Toml.Quoted.write settings.report.downloadUrl.toList)

def render (settings : Settings) : Except RenderError (List Char) := do
  let library ← pathText settings.runtime.library
  let program ← pathText settings.runtime.program
  return document settings library program

end Settings

end AppLauncher
