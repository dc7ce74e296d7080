import AppLauncher.Launch.Sequence
import AppLauncher.Proofs.Options.Budget

/-!
# The calls of a launch

Collaborators are observed by recording their calls, which leaves what they do
as it is.  A launch starts the runtime once and before everything else, with the
arguments in their order; what follows is determined by the category of the
status and by the user's answer.  The outcome is settled by the status alone, so
neither the reporter nor the browser has a say in it.
-/

namespace AppLauncher

variable {σ : Type}

/-- A call that a launch makes, with the answer that matters for what follows. -/
inductive Call where
  | start (arguments : ArgumentVector) (status : Status)
  | prompt (dialog : Dialog) (choice : Choice)
  | tell (dialog : Dialog)
  | openUrl (address : String)
deriving DecidableEq, Repr

/-- Collaborators that also keep the calls made so far, in their order. -/
def Collaborators.recorded (collaborators : Collaborators σ) :
    Collaborators (σ × List Call) where
  start arguments := fun (state, calls) =>
    let (status, state) := collaborators.start arguments state
    (status, state, calls ++ [.start arguments status])
  prompt dialog := fun (state, calls) =>
    let (choice, warnings, state) := collaborators.prompt dialog state
    (choice, warnings, state, calls ++ [.prompt dialog choice])
  tell dialog := fun (state, calls) =>
    let (warnings, state) := collaborators.tell dialog state
    (warnings, state, calls ++ [.tell dialog])
  openUrl address := fun (state, calls) =>
    let (result, state) := collaborators.openUrl address state
    (result, state, calls ++ [.openUrl address])

theorem Collaborators.recorded_start (collaborators : Collaborators σ)
    (arguments : ArgumentVector) (state : σ) (calls : List Call) :
    collaborators.recorded.start arguments (state, calls) =
      ((collaborators.start arguments state).1, (collaborators.start arguments state).2,
        calls ++ [.start arguments (collaborators.start arguments state).1]) :=
  rfl

/-- The calls that explain a category to the user.  The address is opened for a
user who accepts, and for nobody else. -/
inductive Explains (messages : Messages) : Option FailureCategory → List Call → Prop where
  | silent : Explains messages none []
  | declined :
      Explains messages (some .runtimeMissing)
        [.prompt (messages.dialog .runtimeMissing) .cancel]
  | accepted :
      Explains messages (some .runtimeMissing)
        [.prompt (messages.dialog .runtimeMissing) .accept, .openUrl messages.downloadUrl]
  | told {category : FailureCategory} (hcategory : category ≠ .runtimeMissing) :
      Explains messages (some category) [.tell (messages.dialog category)]

theorem reportFailure_value (collaborators : Collaborators σ) (messages : Messages)
    (status : Status) (state : σ) :
    (reportFailure collaborators messages status state).1.value =
      FailureCategory.classify status := by
  unfold reportFailure
  cases FailureCategory.classify status with
  | none => rfl
  | some category =>
      cases category with
      | runtimeMissing =>
          cases hprompt : collaborators.prompt (messages.dialog .runtimeMissing) state with
          | mk choice rest => cases choice <;> rfl
      | badArguments => rfl
      | startFailure => rfl

/-- Explaining a status adds the calls that explain its category, and recording
them changes nothing else. -/
theorem reportFailure_recorded (collaborators : Collaborators σ) (messages : Messages)
    (status : Status) (state : σ) (earlier : List Call) :
    ∃ calls, Explains messages (FailureCategory.classify status) calls ∧
      reportFailure collaborators.recorded messages status (state, earlier) =
        ((reportFailure collaborators messages status state).1,
          (reportFailure collaborators messages status state).2, earlier ++ calls) := by
  unfold reportFailure
  cases FailureCategory.classify status with
  | none => exact ⟨[], .silent, by simp⟩
  | some category =>
      cases category with
      | runtimeMissing =>
          cases hprompt : collaborators.prompt (messages.dialog .runtimeMissing) state with
          | mk choice rest =>
              cases choice with
              | accept =>
                  refine ⟨_, .accepted, ?_⟩
                  simp [Collaborators.recorded, hprompt]
              | cancel =>
                  refine ⟨_, .declined, ?_⟩
                  simp [Collaborators.recorded, hprompt]
      | badArguments => exact ⟨_, .told (by decide), rfl⟩
      | startFailure => exact ⟨_, .told (by decide), rfl⟩

/-- The options of a launch are those in the first bytes of the file, and the built-in
ones where these cannot be read. -/
theorem OptionsLoader.load_fst (loader : OptionsLoader) (host : Host) :
    (loader.load host).1 =
      match host.readAtMost (loader.directory.join fileName) loader.limits.budget with
      | .ok bytes => ⟨(Options.parse loader.limits bytes).options, .file⟩
      | .error _ => loader.variant.builtInOptions := by
  have hread : host.files.readAtMost loader.path loader.limits.budget =
      host.readAtMost (loader.directory.join fileName) loader.limits.budget := rfl
  unfold load parseFile? parseFrom?
  rw [hread]
  cases host.readAtMost (loader.directory.join fileName) loader.limits.budget with
  | ok bytes => rfl
  | error error =>
      -- a missing file is silent and any other failure is not, but neither has options
      simp only [Except.mapError, Except.map, OptionsError.ofFileError]
      cases error.isNotFound <;> rfl

namespace Launcher

theorem launch_eq (launcher : Launcher) (host : Host) (caller : List Bytes)
    (collaborators : Collaborators σ) (state : σ) :
    launcher.launch host caller collaborators state =
      let arguments := ArgumentVector.compose caller (launcher.options.load host).1
      let started := collaborators.start arguments state
      let reported :=
        reportFailure collaborators launcher.messages started.1 started.2
      (⟨⟨arguments, started.1, reported.1.value⟩,
        (launcher.options.load host).2.map .options ++ reported.1.warnings⟩, reported.2) :=
  rfl

theorem launch_value (launcher : Launcher) (host : Host) (caller : List Bytes)
    (collaborators : Collaborators σ) (state : σ) :
    (launcher.launch host caller collaborators state).1.value =
      let arguments := ArgumentVector.compose caller (launcher.options.load host).1
      let status := (collaborators.start arguments state).1
      ⟨arguments, status, FailureCategory.classify status⟩ := by
  simp only [launch_eq, reportFailure_value]

/-- The runtime is called first, and recording the calls changes nothing else. -/
theorem launch_recorded (launcher : Launcher) (host : Host) (caller : List Bytes)
    (collaborators : Collaborators σ) (state : σ) :
    let launched := launcher.launch host caller collaborators state
    ∃ reports,
      Explains launcher.messages (FailureCategory.classify launched.1.value.status) reports ∧
      launcher.launch host caller collaborators.recorded (state, []) =
        (launched.1, launched.2,
          .start launched.1.value.arguments launched.1.value.status :: reports) := by
  intro launched
  let arguments := ArgumentVector.compose caller (launcher.options.load host).1
  let started := collaborators.start arguments state
  obtain ⟨reports, hreports, hrecorded⟩ := reportFailure_recorded collaborators
    launcher.messages started.1 started.2 [.start arguments started.1]
  refine ⟨reports, hreports, ?_⟩
  simp only [launch_eq, Collaborators.recorded_start, List.nil_append]
  rw [hrecorded]
  rfl

theorem arguments_launch_of_content {launcher : Launcher} {host : Host} {content : Bytes}
    (hcontent : host.content launcher.options.path = .ok content) (caller : List Bytes)
    (collaborators : Collaborators σ) (state : σ) :
    (launcher.launch host caller collaborators state).1.value.arguments =
      ArgumentVector.compose caller
        ⟨(Options.parseFile launcher.options.limits content).options, .file⟩ := by
  rw [launch_value, OptionsLoader.load_of_content hcontent]

/-- A launch calls the runtime once and first, with the name of the caller, the
options and the caller's further arguments, and then makes the calls that explain
the category of its status.  The options are those of the file if that can be read,
and otherwise those of the variant.  The outcome carries the arguments, the status as
it came back and its category, whatever the reporter and the browser do. -/
theorem launch_calls (launcher : Launcher) (host : Host) (caller : List Bytes)
    (collaborators : Collaborators σ) (state : σ) :
    let loader := launcher.options
    let path := loader.directory.join OptionsLoader.fileName
    ∃ (set : OptionSet) (arguments : ArgumentVector) (status : Status)
        (reports : List Call),
      set = (match host.readAtMost path loader.limits.budget with
        | .ok bytes => ⟨(Options.parse loader.limits bytes).options, .file⟩
        | .error _ => loader.variant.builtInOptions) ∧
      (∀ content, host.content path = .ok content →
        set = ⟨(Options.parseFile loader.limits content).options, .file⟩) ∧
      (loader.load host).1 = set ∧
      arguments.toList = caller.headD [] :: (set.options ++ caller.tail) ∧
      status = (collaborators.start arguments state).1 ∧
      Explains launcher.messages (FailureCategory.classify status) reports ∧
      launcher.launch host caller collaborators.recorded (state, []) =
        ((launcher.launch host caller collaborators state).1,
          (launcher.launch host caller collaborators state).2,
          .start arguments status :: reports) ∧
      (launcher.launch host caller collaborators state).1.value =
        ⟨arguments, status, FailureCategory.classify status⟩ ∧
      ∀ prompt tell openUrl,
        (launcher.launch host caller
            { collaborators with prompt, tell, openUrl } state).1.value =
          (launcher.launch host caller collaborators state).1.value := by
  intro loader path
  let arguments := ArgumentVector.compose caller (loader.load host).1
  let status := (collaborators.start arguments state).1
  obtain ⟨reports, hreports, hrecorded⟩ :=
    launcher.launch_recorded host caller collaborators state
  refine ⟨(loader.load host).1, arguments, status, reports, loader.load_fst host,
    fun content hcontent => ?_, rfl, ArgumentVector.toList_compose caller _, rfl, hreports,
    hrecorded, launcher.launch_value host caller collaborators state, ?_⟩
  · exact congrArg Prod.fst (OptionsLoader.load_of_content hcontent)
  · intro prompt tell openUrl
    rw [launch_value, launch_value]

/-- A user without a runtime who agrees is sent to the download address.  The state
counts the calls. -/
theorem launch_calls_of_consent :
    let launcher : Launcher := { options := { directory := [] } }
    let host := Host.withOptionsFile (Bytes.ofText "-x\n")
    let caller := ["app", "file"].map Bytes.ofText
    let collaborators : Collaborators Nat :=
      { start := fun _ count => (.runtimeNotFound, count + 1)
        prompt := fun _ count => (.accept, [], count + 1)
        tell := fun _ count => ([], count + 1)
        openUrl := fun _ count => (.error .unavailable, count + 1) }
    let launched := launcher.launch host caller collaborators.recorded (0, [])
    host.content (launcher.options.directory.join OptionsLoader.fileName) =
        .ok (Bytes.ofText "-x\n") ∧
      launched.1.value.arguments.toList = ["app", "-x", "file"].map Bytes.ofText ∧
      launched.1.value.reported = some .runtimeMissing ∧
      launched.2.1 = 3 ∧
      launched.2.2 =
        [.start launched.1.value.arguments .runtimeNotFound,
          .prompt (launcher.messages.dialog .runtimeMissing) .accept,
          .openUrl "http://www.java.com/"] := by
  intro launcher host caller collaborators launched
  have hcontent : host.content (launcher.options.directory.join OptionsLoader.fileName) =
      .ok (Bytes.ofText "-x\n") := OptionsLoader.content_path_withOptionsFile {} _
  obtain ⟨set, arguments, status, reports, -, hset, -, harguments, -, -, hlaunched, hvalue, -⟩ :=
    launcher.launch_calls host caller collaborators 0
  have hrecorded : launched.1.value.arguments = arguments := by
    simp only [launched, hlaunched, hvalue]
  have hoptions : (Options.parseFile {} (Bytes.ofText "-x\n")).options = [Bytes.ofText "-x"] := by
    decide +kernel
  have hlist : arguments.toList = ["app", "-x", "file"].map Bytes.ofText := by
    rw [harguments, hset _ hcontent, hoptions]
    rfl
  exact ⟨hcontent, by rw [hrecorded, hlist], rfl, rfl, rfl⟩

end Launcher

end AppLauncher
