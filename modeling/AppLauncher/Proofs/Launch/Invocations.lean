import AppLauncher.Launch.Invocation
import AppLauncher.Proofs.Files.Reading
import AppLauncher.Proofs.Launch.Calls
import AppLauncher.Proofs.Options.Budget
import AppLauncher.Proofs.Settings.RoundTrip

/-!
# Calls of the program

A run takes its settings from the file in the place that it works in.  Called by a bare
name, the program stays where it is; in the root directory it finds its settings and its
options among the entries there.
-/

namespace AppLauncher

namespace Invocation

def settingsPath (invocation : Invocation) : Path :=
  Settings.pathIn (Host.absolutePath invocation.place.current)

theorem settings_eq (invocation : Invocation) :
    invocation.settings =
      Settings.orDefault (Settings.readFrom invocation.place.files invocation.settingsPath) :=
  rfl

theorem runWith_eq (invocation : Invocation) (facilities : Facilities Adapter.Surroundings) :
    invocation.runWith facilities =
      invocation.launcher.launch invocation.place invocation.arguments
        (Session.collaborators facilities) invocation.session :=
  rfl

theorem optionsPath_launcher (invocation : Invocation) :
    invocation.launcher.options.path =
      Path.join (Host.absolutePath invocation.place.current) OptionsLoader.fileName :=
  rfl

theorem arguments_runWith_of_content {invocation : Invocation} {content : Bytes}
    (hcontent : invocation.place.content invocation.launcher.options.path = .ok content)
    (facilities : Facilities Adapter.Surroundings) :
    (invocation.runWith facilities).1.value.arguments =
      ArgumentVector.compose invocation.arguments
        ⟨(Options.parseFile invocation.settings.options content).options, .file⟩ :=
  Launcher.arguments_launch_of_content hcontent _ _ _

theorem status_runWith (invocation : Invocation)
    (facilities : Facilities Adapter.Surroundings) :
    (invocation.runWith facilities).1.value.status =
      ((Adapter.ofSettings invocation.settings.runtime).launchWith facilities
        (invocation.runWith facilities).1.value.arguments
        { host := invocation.place, input := invocation.input }).1 := by
  rw [runWith_eq, Launcher.launch_value]
  rfl

/-! ## In the root directory -/

/-- A call by a bare name on a host with some entries in its root directory. -/
def inRoot (entries : List (Bytes × Node)) (arguments : List Bytes) : Invocation where
  host := { root := .directory entries }
  executable := []
  arguments

variable {entries : List (Bytes × Node)} {arguments : List Bytes}

theorem place_inRoot : (inRoot entries arguments).place = { root := .directory entries } := by
  have hstays : installDirectory? (inRoot entries arguments).executable = none := by
    show installDirectory? [] = none
    decide +kernel
  have horigin : (inRoot entries arguments).origin? = none := rfl
  simp only [place, enterInstallDirectory, hstays, horigin]
  rfl

theorem settingsPath_inRoot :
    (inRoot entries arguments).settingsPath = Bytes.slash :: Settings.fileName := by
  rw [settingsPath, place_inRoot]
  show Settings.pathIn (Host.absolutePath []) = Bytes.slash :: Settings.fileName
  decide +kernel

theorem optionsPath_inRoot :
    (inRoot entries arguments).launcher.options.path = Bytes.slash :: OptionsLoader.fileName := by
  rw [optionsPath_launcher, place_inRoot]
  show Path.join (Host.absolutePath []) OptionsLoader.fileName =
    Bytes.slash :: OptionsLoader.fileName
  decide +kernel

theorem content_settingsPath_inRoot {content : Bytes}
    (hentry : entries.lookup Settings.fileName = some (.plain content)) :
    (inRoot entries arguments).place.content (inRoot entries arguments).settingsPath =
      .ok content := by
  rw [settingsPath_inRoot, place_inRoot]
  exact Host.content_slash_of_entry Settings.isEntryName_fileName rfl hentry

theorem find_settingsPath_inRoot (hentry : entries.lookup Settings.fileName = none) :
    (inRoot entries arguments).place.find (inRoot entries arguments).settingsPath =
      .error (.os .noEntry) := by
  rw [settingsPath_inRoot, place_inRoot, Host.find_slash Settings.isEntryName_fileName rfl]
  exact Host.find_of_no_entry Settings.isEntryName_fileName rfl rfl hentry

theorem content_optionsPath_inRoot {content : Bytes}
    (hentry : entries.lookup OptionsLoader.fileName = some (.plain content)) :
    (inRoot entries arguments).place.content (inRoot entries arguments).launcher.options.path =
      .ok content := by
  rw [optionsPath_inRoot, place_inRoot]
  exact Host.content_slash_of_entry OptionsLoader.isEntryName_fileName rfl hentry

theorem settings_inRoot {text : List Char} {settings : Settings}
    (hentry : entries.lookup Settings.fileName = some (.plain (Utf8.encode text)))
    (hparse : Settings.parse text = .ok settings) (hkept : settings.fault? = none) :
    (inRoot entries arguments).settings = settings := by
  have hcontent : (inRoot entries arguments).place.content
      (Settings.pathIn (Host.absolutePath (inRoot entries arguments).place.current)) =
      .ok (Utf8.encode text) := content_settingsPath_inRoot hentry
  show Settings.orDefault (Settings.load (inRoot entries arguments).place
    (Host.absolutePath (inRoot entries arguments).place.current)) = settings
  rw [Settings.load_of_content hcontent hparse]
  simp only [Settings.validate, hkept]
  rfl

end Invocation

end AppLauncher
