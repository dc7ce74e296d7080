import AppLauncher.Proofs.Launch.Invocations
import AppLauncher.Proofs.Settings.Absence
import AppLauncher.Proofs.Settings.Fields

/-!
# Falling back to the defaults

Settings are taken all or nothing.  They are those of the file, or the defaults when the
file cannot be read, is no document, has the wrong shape anywhere, or breaks a rule.
A launch has no other way to learn about the file, so one with a file that fails goes on
as one without any.
-/

namespace AppLauncher

/-! ## The settings in use -/

namespace Settings

/-- The file holds a document, and these are the settings in it, which keep the rules. -/
structure Usable (files : Files) (path : Path) (entries : List Toml.Entry)
    (settings : Settings) : Prop where
  found : files.lookUp path = .ok ()
  text : ∃ content text, files.content path = .ok content ∧ Utf8.decode? content = some text ∧
    Toml.parse? text = some entries
  shaped : ofEntries entries = .ok settings
  valid : settings.validate = .ok settings

variable {files : Files} {path : Path} {settings : Settings}

theorem validate_eq_ok_iff {result : Settings} :
    settings.validate = .ok result ↔ settings = result ∧ settings.fault? = none := by
  unfold validate
  cases settings.fault? with
  | none => simp
  | some fault => simp

theorem parse_eq_ok_iff {text : List Char} :
    parse text = .ok settings ↔
      ∃ entries, Toml.parse? text = some entries ∧ ofEntries entries = .ok settings := by
  unfold parse
  cases Toml.parse? text with
  | none => simp
  | some entries => cases hshape : ofEntries entries <;> simp [hshape, Except.mapError]

theorem ofContent_eq_ok_iff {content : Bytes} :
    ofContent path content = .ok settings ↔
      ∃ text, Utf8.decode? content = some text ∧ parse text = .ok settings ∧
        settings.validate = .ok settings := by
  unfold ofContent
  cases Utf8.decode? content with
  | none => simp
  | some text =>
      simp only [Option.some.injEq, exists_eq_left']
      cases parse text with
      | error error => simp
      | ok read =>
          have hkept : read.validate.mapError SettingsError.invalid = .ok settings ↔
              read.validate = .ok settings := by
            cases read.validate <;> simp [Except.mapError]
          simp only [hkept, validate_eq_ok_iff, Except.ok.injEq]
          constructor
          · rintro ⟨rfl, hfault⟩
            exact ⟨rfl, trivial, hfault⟩
          · rintro ⟨rfl, -, hfault⟩
            exact ⟨rfl, hfault⟩

theorem usable_iff :
    (∃ entries, Usable files path entries settings) ↔
      files.lookUp path = .ok () ∧ readFrom files path = .ok settings := by
  constructor
  · rintro ⟨entries, hfound, ⟨content, text, hcontent, hdecode, hentries⟩, hshape, hvalid⟩
    refine ⟨hfound, ?_⟩
    simp only [readFrom, hfound, hcontent]
    exact ofContent_eq_ok_iff.mpr
      ⟨text, hdecode, parse_eq_ok_iff.mpr ⟨entries, hentries, hshape⟩, hvalid⟩
  · rintro ⟨hfound, hread⟩
    simp only [readFrom, hfound] at hread
    cases hcontent : files.content path with
    | error error => simp [hcontent] at hread
    | ok content =>
        rw [hcontent] at hread
        obtain ⟨text, hdecode, hparse, hvalid⟩ := ofContent_eq_ok_iff.mp hread
        obtain ⟨entries, hentries, hshape⟩ := parse_eq_ok_iff.mp hparse
        exact ⟨entries, hfound, ⟨content, text, hcontent, hdecode, hentries⟩, hshape, hvalid⟩

/-- Settings that break a rule cannot be used. -/
theorem not_usable_of_fault {content : Bytes} {text : List Char} {fault : SettingsFault}
    (hcontent : files.content path = .ok content) (hdecode : Utf8.decode? content = some text)
    (hparse : parse text = .ok settings) (hfault : settings.fault? = some fault)
    (entries : List Toml.Entry) (other : Settings) : ¬Usable files path entries other := by
  intro husable
  obtain ⟨hfound, hread⟩ := usable_iff.mp ⟨entries, husable⟩
  simp only [readFrom, hfound, hcontent, ofContent, hdecode, hparse, validate, hfault] at hread
  exact absurd hread (by simp [Except.mapError])

theorem validate_default : validate {} = .ok {} := by
  decide +kernel

/-- The settings that a launcher goes on with are those of the file, or the defaults. -/
theorem orDefault_readFrom (files : Files) (path : Path) :
    (∃ entries, Usable files path entries (orDefault (readFrom files path))) ∨
      (∀ entries settings, ¬Usable files path entries settings) ∧
        orDefault (readFrom files path) = {} := by
  cases hlookUp : files.lookUp path with
  | error error =>
      refine .inr ⟨fun entries settings husable => ?_, ?_⟩
      · exact absurd husable.found (by simp [hlookUp])
      · rw [readFrom_of_unreached hlookUp]
        rfl
  | ok found =>
      cases hread : readFrom files path with
      | ok settings => exact .inl (usable_iff.mpr ⟨hlookUp, hread⟩)
      | error error =>
          refine .inr ⟨fun entries settings husable => ?_, rfl⟩
          have hok := (usable_iff.mp ⟨entries, husable⟩).2
          exact absurd (hread.symm.trans hok) (by simp)

theorem orDefault_of_not_usable
    (hunusable : ∀ entries settings, ¬Usable files path entries settings) :
    orDefault (readFrom files path) = {} := by
  rcases orDefault_readFrom files path with ⟨entries, husable⟩ | ⟨-, hdefault⟩
  · exact absurd husable (hunusable entries _)
  · exact hdefault

theorem validate_orDefault_readFrom (files : Files) (path : Path) :
    (orDefault (readFrom files path)).validate = .ok (orDefault (readFrom files path)) := by
  rcases orDefault_readFrom files path with ⟨entries, husable⟩ | ⟨-, hdefault⟩
  · exact husable.valid
  · rw [hdefault]
    exact validate_default

end Settings

/-! ## Launches -/

namespace Session

structure SameStreams (session other : Session) : Prop where
  console : session.console = other.console
  output : session.output = other.output

theorem SameStreams.withHost {session other : Session} (hsame : SameStreams session other)
    (host host' : Host) : SameStreams { session with host } { other with host := host' } :=
  ⟨hsame.console, hsame.output⟩

theorem SameStreams.reportFailure {session other : Session} (hsame : SameStreams session other)
    (facilities : Facilities Adapter.Surroundings) (messages : Messages) (status : Status) :
    SameStreams (reportFailure (collaborators facilities) messages status session).2
      (reportFailure (collaborators facilities) messages status other).2 := by
  unfold AppLauncher.reportFailure
  cases FailureCategory.classify status with
  | none => exact hsame
  | some category =>
      cases category with
      | runtimeMissing =>
          simp only [collaborators, hsame.console]
          rcases other.console.prompt (messages.dialog .runtimeMissing) with
            ⟨choice, warnings, console⟩
          have hasked : SameStreams { session with console } { other with console } :=
            ⟨rfl, hsame.output⟩
          -- the address is opened on different hosts, which the streams do not notice
          cases choice with
          | accept => exact hasked.withHost _ _
          | cancel => exact hasked
      | badArguments =>
          simp only [collaborators, hsame.console]
          exact ⟨rfl, hsame.output⟩
      | startFailure =>
          simp only [collaborators, hsame.console]
          exact ⟨rfl, hsame.output⟩

theorem status_start_congr {facilities : Facilities Adapter.Surroundings}
    {session other : Session} {runtime : ProcessRuntime}
    (hadapter : session.adapter = .process runtime) (hother : other.adapter = .process runtime)
    (hexecute : ∀ program arguments around around',
      (facilities.execute program arguments around).1 =
        (facilities.execute program arguments around').1)
    (vector : ArgumentVector) :
    (start facilities vector session).1 = (start facilities vector other).1 := by
  simp only [start, hadapter, hother, Adapter.launchWith, ProcessRuntime.launch,
    Facilities.spawn]
  cases Facilities.anyNul runtime.program vector.tail with
  | true => rfl
  | false => exact congrArg ProcessRuntime.status (hexecute _ _ _ _)

end Session

namespace OptionsLoader

/-- Loading options asks a host for the first bytes of one file and nothing else. -/
theorem load_congr {loader : OptionsLoader} {host other : Host}
    (hread : host.readAtMost loader.path loader.limits.budget =
      other.readAtMost loader.path loader.limits.budget) :
    loader.load host = loader.load other := by
  have hparse : loader.parseFile? host = loader.parseFile? other := by
    simp only [parseFile?, parseFrom?, Host.files, hread]
  simp only [load, hparse]

end OptionsLoader

theorem Launcher.launch_congr {σ : Type} {launcher : Launcher} {host other : Host}
    (hread : host.readAtMost launcher.options.path launcher.options.limits.budget =
      other.readAtMost launcher.options.path launcher.options.limits.budget)
    (caller : List Bytes) (collaborators : Collaborators σ) (state : σ) :
    launcher.launch host caller collaborators state =
      launcher.launch other caller collaborators state := by
  simp only [launch_eq, OptionsLoader.load_congr hread]

namespace Invocation

/-- A call of the program with a settings file that fails, and one without a settings
file, in surroundings that are alike as far as a launch reads them. -/
structure DifferInSettings (failing without : Invocation) : Prop where
  fails : ∀ entries settings,
    ¬Settings.Usable failing.place.files failing.settingsPath entries settings
  absent : Settings.ReportedAbsent without.place.files without.settingsPath
  current : failing.place.current = without.place.current
  optionsFile : ∀ count,
    failing.place.readAtMost failing.launcher.options.path count =
      without.place.readAtMost failing.launcher.options.path count
  arguments : failing.arguments = without.arguments
  input : failing.input = without.input
  inputIsTerminal : failing.inputIsTerminal = without.inputIsTerminal
  errorIsTerminal : failing.errorIsTerminal = without.errorIsTerminal

namespace DifferInSettings

variable {failing without : Invocation}

theorem settings_failing (hdiffer : DifferInSettings failing without) :
    failing.settings = {} :=
  Settings.orDefault_of_not_usable hdiffer.fails

theorem settings_without (hdiffer : DifferInSettings failing without) :
    without.settings = {} := by
  obtain ⟨error, hlookUp, -⟩ := hdiffer.absent
  rw [settings_eq, Settings.readFrom_of_unreached hlookUp]
  rfl

theorem launcher_eq (hdiffer : DifferInSettings failing without) :
    failing.launcher = without.launcher := by
  simp only [launcher, hdiffer.current, hdiffer.settings_failing, hdiffer.settings_without]

theorem session_eq (hdiffer : DifferInSettings failing without) :
    failing.session = { without.session with host := failing.place } := by
  simp only [session, hdiffer.settings_failing, hdiffer.settings_without, hdiffer.input,
    hdiffer.inputIsTerminal, hdiffer.errorIsTerminal]

theorem launch_eq (hdiffer : DifferInSettings failing without) {σ : Type}
    (collaborators : Collaborators σ) (state : σ) :
    failing.launcher.launch failing.place failing.arguments collaborators state =
      without.launcher.launch without.place without.arguments collaborators state := by
  rw [Launcher.launch_congr (hdiffer.optionsFile _), hdiffer.launcher_eq, hdiffer.arguments]

variable (facilities : Facilities Adapter.Surroundings)

theorem runWith_failing (hdiffer : DifferInSettings failing without) :
    failing.runWith facilities = without.launcher.launch without.place without.arguments
      (Session.collaborators facilities) failing.session := by
  rw [runWith_eq, hdiffer.launch_eq]

theorem arguments_runWith (hdiffer : DifferInSettings failing without) :
    (failing.runWith facilities).1.value.arguments =
      (without.runWith facilities).1.value.arguments := by
  rw [hdiffer.runWith_failing, runWith_eq, Launcher.launch_value, Launcher.launch_value]

variable {facilities}

theorem value_runWith (hdiffer : DifferInSettings failing without)
    (hstatus : (Session.start facilities (failing.runWith facilities).1.value.arguments
        failing.session).1 =
      (Session.start facilities (failing.runWith facilities).1.value.arguments
        without.session).1) :
    (failing.runWith facilities).1.value = (without.runWith facilities).1.value := by
  rw [hdiffer.arguments_runWith] at hstatus
  -- the value of a launch is settled by its arguments and its status
  simp only [hdiffer.runWith_failing, runWith_eq, Launcher.launch_value,
    Session.start_collaborators] at hstatus ⊢
  simp only [hstatus]

/-- Where the runtime leaves the streams alike, too, the user is shown the same. -/
theorem streams_runWith (hdiffer : DifferInSettings failing without)
    (hstatus : (Session.start facilities (failing.runWith facilities).1.value.arguments
        failing.session).1 =
      (Session.start facilities (failing.runWith facilities).1.value.arguments
        without.session).1)
    (hstreams : Session.SameStreams
      (Session.start facilities (failing.runWith facilities).1.value.arguments
        failing.session).2
      (Session.start facilities (failing.runWith facilities).1.value.arguments
        without.session).2) :
    Session.SameStreams (failing.runWith facilities).2 (without.runWith facilities).2 := by
  rw [hdiffer.arguments_runWith] at hstatus hstreams
  simp only [hdiffer.runWith_failing, runWith_eq, Launcher.launch_value] at hstatus hstreams ⊢
  simp only [Launcher.launch_eq, Session.start_collaborators, hstatus]
  exact hstreams.reportFailure _ _ _

/-- In the root directory the one call has a settings file and the other has none; they
have the same options file. -/
theorem of_inRoot {entries entries' : List (Bytes × Node)} {content : Bytes}
    {arguments : List Bytes}
    (hfails : ∀ read settings, ¬Settings.Usable (inRoot entries arguments).place.files
      (inRoot entries arguments).settingsPath read settings)
    (habsent : entries'.lookup Settings.fileName = none)
    (hoptions : entries.lookup OptionsLoader.fileName = some (.plain content))
    (hoptions' : entries'.lookup OptionsLoader.fileName = some (.plain content)) :
    DifferInSettings (inRoot entries arguments) (inRoot entries' arguments) where
  fails := hfails
  absent := by
    refine ⟨.os .noEntry, ?_, rfl⟩
    simp only [Host.files, find_settingsPath_inRoot habsent]
    rfl
  current := by rw [place_inRoot, place_inRoot]
  optionsFile count := by
    have hsame : (inRoot entries arguments).launcher.options.path =
        (inRoot entries' arguments).launcher.options.path := by
      rw [optionsPath_inRoot, optionsPath_inRoot]
    have hcontent := @content_optionsPath_inRoot entries' arguments content hoptions'
    rw [Host.readAtMost_of_content (content_optionsPath_inRoot hoptions), hsame,
      Host.readAtMost_of_content hcontent]
  arguments := rfl
  input := rfl
  inputIsTerminal := rfl
  errorIsTerminal := rfl

end DifferInSettings

/-- The settings of a run keep the rules, and are either those of the file, with defaults
for what it leaves out, or the defaults, where the file cannot be used.  The limits, the
texts, the kind of runtime and what is started are all taken from them, and the run is a
launch with these, whose status is what that runtime answers.  So a run with a file that
fails in any way cannot be told from a run without one: it has the same limits, texts and
adapter, makes the same calls with the same arguments, and ends alike if the runtime
does. -/
theorem settings_all_or_nothing (facilities : Facilities Adapter.Surroundings) :
    (∀ (files : Files) (path : Path),
      let used := Settings.orDefault (Settings.readFrom files path)
      used.validate = .ok used ∧
        ((∃ entries, Settings.Usable files path entries used ∧ used.SaidBy entries) ∨
          (∀ entries settings, ¬Settings.Usable files path entries settings) ∧ used = {})) ∧
    (∀ invocation : Invocation,
      let used :=
        Settings.orDefault (Settings.readFrom invocation.place.files invocation.settingsPath)
      let launcher := invocation.launcher
      let session := invocation.session
      let run := invocation.runWith facilities
      launcher.options.directory = Host.absolutePath invocation.place.current ∧
      launcher.options.limits = used.options ∧
      launcher.options.variant = .current ∧
      launcher.messages = used.report ∧
      (used.runtime.kind = .process →
        session.adapter = .process { program := used.runtime.program }) ∧
      (used.runtime.kind = .library →
        session.adapter = .library { path := used.runtime.library, entry := used.runtime.entry }) ∧
      run = launcher.launch invocation.place invocation.arguments
        (Session.collaborators facilities) session ∧
      run.1.value.status = (session.adapter.launchWith facilities run.1.value.arguments
        { host := invocation.place, input := invocation.input }).1) ∧
    ∀ failing without : Invocation, DifferInSettings failing without →
      let run := failing.runWith facilities
      let run' := without.runWith facilities
      let arguments := run.1.value.arguments
      let started := Session.start facilities arguments failing.session
      let started' := Session.start facilities arguments without.session
      failing.settings = {} ∧ without.settings = {} ∧
      failing.launcher = without.launcher ∧
      failing.session = { without.session with host := failing.place } ∧
      (∀ {σ : Type} (collaborators : Collaborators σ) (state : σ),
        failing.launcher.launch failing.place failing.arguments collaborators state =
          without.launcher.launch without.place without.arguments collaborators state) ∧
      run'.1.value.arguments = arguments ∧
      (started.1 = started'.1 →
        run.1.value = run'.1.value ∧
        failing.exitStatusWith facilities = without.exitStatusWith facilities ∧
        (Session.SameStreams started.2 started'.2 → Session.SameStreams run.2 run'.2)) := by
  refine ⟨fun files path => ?_, fun invocation => ?_, fun failing without hdiffer => ?_⟩
  · refine ⟨Settings.validate_orDefault_readFrom files path, ?_⟩
    rcases Settings.orDefault_readFrom files path with ⟨entries, husable⟩ | hdefault
    · exact .inl ⟨entries, husable, Settings.saidBy_of_ofEntries husable.shaped⟩
    · exact .inr hdefault
  · rw [← settings_eq]
    exact ⟨rfl, rfl, rfl, rfl, Adapter.ofSettings_of_process, Adapter.ofSettings_of_library,
      invocation.runWith_eq facilities, invocation.status_runWith facilities⟩
  · refine ⟨hdiffer.settings_failing, hdiffer.settings_without, hdiffer.launcher_eq,
      hdiffer.session_eq, hdiffer.launch_eq, (hdiffer.arguments_runWith facilities).symm,
      fun hstatus => ?_⟩
    have hvalue := hdiffer.value_runWith hstatus
    refine ⟨hvalue, ?_, hdiffer.streams_runWith hstatus⟩
    simp only [exitStatusWith, hvalue]

/-- A file that is kept names a library, a limit and a product.  In another one, a program
that was accepted does not outlive a limit that is refused. -/
theorem settings_all_or_nothing_of_late_fault :
    let facilities : Facilities Adapter.Surroundings :=
      { isFile := fun _ _ => true
        load := fun _ loaded around => (loaded, around)
        call := fun entry arguments around => (entry arguments, around)
        execute := fun _ _ around => (.ok (.exited 3), around) }
    let kept :=
      "options.max_options=7\nreport.product_name='P'\n[runtime]\nkind='library'\nlibrary='t'"
    let text := "[runtime]\nprogram='jre'\n[options]\nmax_options=0"
    let options := (OptionsLoader.fileName, Node.plain (Bytes.ofText "-verbose\n"))
    let run (text : String) := inRoot
      [(Settings.fileName, Node.plain (Utf8.encode text.toList)), options] [Bytes.ofText "app"]
    let without := inRoot [options] [Bytes.ofText "app"]
    (run kept).launcher.options.limits = { maxOptions := 7 } ∧
      (run kept).launcher.messages = { productName := "P" } ∧
      (run kept).session.adapter =
        .library { path := Bytes.ofText "t", entry := "launch" } ∧
      (Settings.parse text.toList).toOption.map (·.runtime.program) =
        some (Bytes.ofText "jre") ∧
      DifferInSettings (run text) without ∧
      (run text).launcher.options.limits = {} ∧
      (run text).session.adapter = without.session.adapter ∧
      ((run text).runWith facilities).1.value.status = ⟨3⟩ ∧
      ((run text).runWith facilities).1.value = (without.runWith facilities).1.value ∧
      (run text).exitStatusWith facilities = without.exitStatusWith facilities := by
  intro facilities kept text options run without
  obtain ⟨-, htaken, hruns⟩ := settings_all_or_nothing facilities
  have hkept : (run kept).settings =
      { options := { maxOptions := 7 }
        runtime := { kind := .library, library := Bytes.ofText "t" }
        report := { productName := "P" } } :=
    settings_inRoot List.lookup_cons_self (by decide +kernel) rfl
  have hparse : Settings.parse text.toList =
      .ok { options := { maxOptions := 0 }, runtime := { program := Bytes.ofText "jre" } } := by
    decide +kernel
  have hsettings : (run text).place.files.content (run text).settingsPath =
      .ok (Utf8.encode text.toList) := content_settingsPath_inRoot List.lookup_cons_self
  have hdiffer : DifferInSettings (run text) without :=
    .of_inRoot (Settings.not_usable_of_fault hsettings (Utf8.decode?_encode _) hparse rfl)
      rfl rfl rfl
  obtain ⟨-, hlimits, -, hmessages, -, hlibrary, -⟩ := htaken (run kept)
  obtain ⟨-, hlimits', -, -, hprocess, -, -, hstatus⟩ := htaken (run text)
  obtain ⟨hfailing, -, -, hsession, -, -, halike⟩ := hruns (run text) without hdiffer
  rw [← settings_eq, hkept] at hlimits hmessages hlibrary
  rw [← settings_eq, hfailing] at hlimits' hprocess
  have hadapter : (run text).session.adapter = without.session.adapter := by rw [hsession]
  obtain ⟨hvalue, hexit, -⟩ := halike
    (Session.status_start_congr (hprocess rfl) (hadapter ▸ hprocess rfl) (fun _ _ _ _ => rfl) _)
  have harguments : ((run text).runWith facilities).1.value.arguments =
      .compose [Bytes.ofText "app"] ⟨[Bytes.ofText "-verbose"], .file⟩ := by
    rw [arguments_runWith_of_content (content_optionsPath_inRoot rfl), hfailing]
    decide +kernel
  have hended : ((run text).runWith facilities).1.value.status = ⟨3⟩ := by
    rw [hstatus, hprocess rfl, harguments]
    decide +kernel
  rw [hparse]
  exact ⟨hlimits, hmessages, hlibrary rfl, rfl, hdiffer, hlimits', hadapter, hended, hvalue,
    hexit⟩

end Invocation

end AppLauncher
