import AppLauncher.Launch.Sequence
import AppLauncher.Settings.Basic

/-!
# Launchers from settings

Settings determine the limits on the options file and the texts of dialogs.
The built-in options are those of the current flavour.
-/

namespace AppLauncher

def Launcher.ofSettings (directory : Path) (settings : Settings) : Launcher :=
  { options := { directory, limits := settings.options }
    messages := settings.report }

end AppLauncher
