import AppLauncher.Options.Load
import AppLauncher.Proofs.Files.Reading
import AppLauncher.Proofs.Options.Budget
import AppLauncher.Proofs.Settings.RoundTrip
import AppLauncher.Settings.Load

/-!
# Absent and unreadable settings

A settings file that cannot be reached is passed over, whatever the reason, and the
defaults stand in.  Options are more careful: only the answer that there is no such file
counts as absence, and any other failure is told.  The two agree on a settings file
exactly when the only reason for not reaching it is that it does not exist.
-/

namespace AppLauncher

namespace Settings

section Obstacles

variable (files : Files) (path : Path)

/-- The defaults are given whatever the file may hold. -/
def StandInUnread : Prop :=
  ∀ content, readFrom { files with content } path = .ok {}

/-- What keeps a file from being reached and read as text. -/
def obstacle? : Option FileError :=
  match files.lookUp path with
  | .error error => some error
  | .ok () =>
    match files.content path with
    | .error error => some error
    | .ok content => if (Utf8.decode? content).isNone then some .notUtf8 else none

/-- The file is looked up, and the answer is that it does not exist. -/
def ReportedAbsent : Prop :=
  ∃ error, files.lookUp path = .error error ∧ error.isNotFound = true

/-- The defaults stand in unread for an absent file only, and any other obstacle is
told. -/
structure SilentOnlyWhenAbsent : Prop where
  silent : StandInUnread files path → ReportedAbsent files path
  told : ¬ReportedAbsent files path → ∀ error, obstacle? files path = some error →
    readFrom files path = .error (.unreadable path error)

end Obstacles

variable {files : Files} {path : Path}

theorem readFrom_of_unreached {error : FileError} (hlookUp : files.lookUp path = .error error) :
    readFrom files path = .ok {} := by
  simp only [readFrom, hlookUp]

theorem standInUnread_iff :
    StandInUnread files path ↔ ∃ error, files.lookUp path = .error error := by
  constructor
  · intro hunread
    cases hlookUp : files.lookUp path with
    | error error => exact ⟨error, rfl⟩
    | ok found =>
        have hread := hunread fun _ => .error .notUtf8
        simp [readFrom, hlookUp] at hread
  · rintro ⟨error, hlookUp⟩ content
    exact readFrom_of_unreached hlookUp

theorem readFrom_of_obstacle {error : FileError} (hlookUp : files.lookUp path = .ok ())
    (hobstacle : obstacle? files path = some error) :
    readFrom files path = .error (.unreadable path error) := by
  simp only [obstacle?, hlookUp] at hobstacle
  simp only [readFrom, hlookUp]
  cases hcontent : files.content path with
  | error cause =>
      simp only [hcontent, Option.some.injEq] at hobstacle
      rw [hobstacle]
  | ok content =>
      simp only [hcontent] at hobstacle
      cases hdecode : Utf8.decode? content with
      | none =>
          simp only [hdecode, Option.isNone_none, if_true, Option.some.injEq] at hobstacle
          simp only [ofContent, hdecode, hobstacle]
      | some text => simp [hdecode] at hobstacle

theorem silentOnlyWhenAbsent_iff :
    SilentOnlyWhenAbsent files path ↔
      ∀ error, files.lookUp path = .error error → error.isNotFound = true := by
  constructor
  · intro hsilent error hlookUp
    obtain ⟨reported, hreported, habsent⟩ := hsilent.silent (standInUnread_iff.mpr ⟨error, hlookUp⟩)
    rw [hlookUp, Except.error.injEq] at hreported
    rwa [hreported]
  · intro habsent
    refine ⟨fun hunread => ?_, fun hpresent error hobstacle => ?_⟩
    · obtain ⟨error, hlookUp⟩ := standInUnread_iff.mp hunread
      exact ⟨error, hlookUp, habsent error hlookUp⟩
    · cases hlookUp : files.lookUp path with
      | error cause => exact absurd ⟨cause, hlookUp, habsent cause hlookUp⟩ hpresent
      | ok found => exact readFrom_of_obstacle hlookUp hobstacle

end Settings

theorem OptionsLoader.parseFrom?_of_error {loader : OptionsLoader} {files : Files}
    {error : FileError}
    (hread : files.readAtMost loader.path loader.limits.budget = .error error) :
    loader.parseFrom? files =
      .error (if error.isNotFound then .notFound loader.path
        else .unreadable loader.path error) := by
  simp only [parseFrom?, hread]
  rfl

namespace Settings

/-- The defaults stand in, unread, for every settings file that cannot be reached.  What
can be reached and not be read as text is told.  So the file is passed over in silence
only when it is absent, as an options file is, exactly when no other reason keeps it from
being reached. -/
theorem readFrom_passes_over_iff (files : Files) (path : Path) (loader : OptionsLoader) :
    (SilentOnlyWhenAbsent files path ↔
      ∀ error, files.lookUp path = .error error → error.isNotFound = true) ∧
    (StandInUnread files path ↔ ∃ error, files.lookUp path = .error error) ∧
    (files.lookUp path = .ok () → ∀ error, obstacle? files path = some error →
      readFrom files path = .error (.unreadable path error)) ∧
    ∀ error, files.readAtMost loader.path loader.limits.budget = .error error →
      loader.parseFrom? files =
        .error (if error.isNotFound then .notFound loader.path
          else .unreadable loader.path error) :=
  ⟨silentOnlyWhenAbsent_iff, standInUnread_iff, fun hlookUp _ => readFrom_of_obstacle hlookUp,
    fun _ => OptionsLoader.parseFrom?_of_error⟩

/-- Without leave to search the directory, the settings are passed over and the options
are not; a directory in place of the settings file is told. -/
theorem readFrom_passes_over_of_denied :
    let path := pathIn (Bytes.ofText "app")
    let loader : OptionsLoader := { directory := Bytes.ofText "app" }
    let denied : Files :=
      { lookUp := fun _ => .error (.os .accessDenied)
        content := fun _ => .error (.os .accessDenied)
        readAtMost := fun _ _ => .error (.os .accessDenied) }
    let directory : Files :=
      { lookUp := fun _ => .ok ()
        content := fun _ => .error (.os .isDirectory)
        readAtMost := fun _ _ => .error (.os .isDirectory) }
    ¬SilentOnlyWhenAbsent denied path ∧ StandInUnread denied path ∧
      loader.parseFrom? denied = .error (.unreadable loader.path (.os .accessDenied)) ∧
      readFrom directory path = .error (.unreadable path (.os .isDirectory)) := by
  intro path loader denied directory
  obtain ⟨hsilent, hunread, -, hoptions⟩ := readFrom_passes_over_iff denied path loader
  obtain ⟨-, -, htold, -⟩ := readFrom_passes_over_iff directory path loader
  refine ⟨fun hrule => ?_, hunread.mpr ⟨_, rfl⟩, hoptions _ rfl, htold rfl _ rfl⟩
  exact absurd (hsilent.mp hrule _ rfl) (by decide)

/-- A settings file that is a link to itself is there, cannot be reached, and is passed
over; an options file of that kind is told. -/
theorem looping_link_passed_over :
    let host : Host :=
      { root := .directory
          [(fileName, .link fileName), (OptionsLoader.fileName, .link OptionsLoader.fileName)] }
    let loader : OptionsLoader := { directory := [] }
    host.files.lookUp (pathIn []) = .error (.os .tooManyLinks) ∧
      load host [] = .ok {} ∧
      ¬SilentOnlyWhenAbsent host.files (pathIn []) ∧
      loader.loadFile? host = .error (.unreadable loader.path (.os .tooManyLinks)) := by
  intro host loader
  have hpath : pathIn [] = fileName := by decide +kernel
  have hfind : host.find fileName = .error (.os .tooManyLinks) :=
    Host.find_of_loop isEntryName_fileName rfl rfl List.lookup_cons_self
  have hlookUp : host.files.lookUp (pathIn []) = .error (.os .tooManyLinks) := by
    simp only [Host.files, hpath, hfind]
    rfl
  have hoptionsPath : loader.path = OptionsLoader.fileName := by decide +kernel
  have hoptionsEntry :
      [(fileName, Node.link fileName),
        (OptionsLoader.fileName, .link OptionsLoader.fileName)].lookup OptionsLoader.fileName =
        some (.link OptionsLoader.fileName) := by
    rw [List.lookup_cons, show (OptionsLoader.fileName == fileName) = false by decide +kernel]
    exact List.lookup_cons_self
  have hfindOptions : host.find loader.path = .error (.os .tooManyLinks) := by
    rw [hoptionsPath]
    exact Host.find_of_loop OptionsLoader.isEntryName_fileName rfl rfl hoptionsEntry
  have hread : host.files.readAtMost loader.path loader.limits.budget =
      .error (.os .tooManyLinks) := by
    simp only [Host.files, Host.readAtMost, hfindOptions]
    rfl
  refine ⟨hlookUp, readFrom_of_unreached hlookUp, fun hrule => ?_, ?_⟩
  · exact absurd (silentOnlyWhenAbsent_iff.mp hrule _ hlookUp) (by decide)
  · unfold OptionsLoader.loadFile? OptionsLoader.parseFile?
    rw [OptionsLoader.parseFrom?_of_error hread]
    rfl

end Settings

end AppLauncher
