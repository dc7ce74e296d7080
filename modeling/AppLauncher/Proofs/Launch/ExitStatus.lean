import AppLauncher.Program
import AppLauncher.Proofs.Arguments.CVector
import AppLauncher.Proofs.Launch.Invocations

/-!
# What the parent sees

A status has 32 bits and the parent of the launcher sees eight of them.  The statuses of
the launcher's own and the ends of child processes lie in the range of a byte, so they are
told.  The answer of an entry point is handed on whatever it is; a failure that is a
multiple of 256 looks like a success.
-/

namespace AppLauncher

variable {σ : Type}

/-! ## Statuses -/

namespace Status

/-- The parent observes the status itself. -/
def IsTold (status : Status) : Prop :=
  (status.observed : Int) = status.code.toInt

instance : DecidablePred IsTold := fun status =>
  inferInstanceAs (Decidable ((status.observed : Int) = status.code.toInt))

theorem isTold_iff (status : Status) :
    status.IsTold ↔ 0 ≤ status.code.toInt ∧ status.code.toInt < 256 := by
  unfold IsTold observed
  omega

theorem observed_eq_zero_iff (status : Status) :
    status.observed = 0 ↔ (256 : Int) ∣ status.code.toInt := by
  unfold observed
  omega

theorem isTold_ofNat {code : Nat} (hcode : code < 256) : IsTold ⟨Int32.ofNat code⟩ := by
  have hint : (Int32.ofNat code).toInt = code := Int32.toInt_ofNat_of_lt (by omega)
  simp only [isTold_iff, hint]
  omega

theorem isTold_ofEnding {ending : Ending}
    (hsignal : ∀ signal, ending = .killed signal → signal < 128) : (ofEnding ending).IsTold := by
  apply isTold_ofNat
  cases ending with
  | exited code => exact Nat.mod_lt code (by decide)
  | killed signal =>
      have hlow := hsignal signal rfl
      simp only [Ending.code]
      omega

theorem isTold_ofSpawnError (error : FileError) : (ofSpawnError error).IsTold := by
  unfold ofSpawnError
  split
  · decide
  · decide

end Status

/-! ## Adapters -/

/-- A program's status is told unless a signal ended it that no system has. -/
theorem ProcessRuntime.isTold_launch {runtime : ProcessRuntime} {facilities : Facilities σ}
    {vector : ArgumentVector} {state : σ}
    (hsignals : ∀ signal, (facilities.execute runtime.program vector.tail state).1 =
      .ok (.killed signal) → signal < 128) :
    (runtime.launch facilities vector state).1.IsTold := by
  unfold launch Facilities.spawn
  cases Facilities.anyNul runtime.program vector.tail with
  | true => exact Status.isTold_ofSpawnError _
  | false =>
      simp only [Bool.false_eq_true, if_false]
      cases hexecute : (facilities.execute runtime.program vector.tail state).1 with
      | error error => exact Status.isTold_ofSpawnError error
      | ok ending =>
          refine Status.isTold_ofEnding fun signal hkilled => hsignals signal ?_
          rw [hexecute, hkilled]

namespace LibraryRuntime

/-- The entry point is reached, and this is its answer. -/
def Answers (runtime : LibraryRuntime) (facilities : Facilities σ) (vector : ArgumentVector)
    (state : σ) (code : Int32) : Prop :=
  ∃ arguments exports entry after,
    facilities.isFile runtime.path state = true ∧
      vector.toCVector = .ok arguments ∧
      facilities.load runtime.path runtime.loaded state = (some exports, after) ∧
      runtime.entryPoint? exports = some entry ∧
      code = (facilities.call entry arguments after).1

variable {runtime : LibraryRuntime} {facilities : Facilities σ} {vector : ArgumentVector}
  {state : σ}

theorem launch_of_answers {code : Int32} (hanswers : runtime.Answers facilities vector state code) :
    (runtime.launch facilities vector state).1 = ⟨code⟩ := by
  obtain ⟨arguments, exports, entry, after, hfile, hvector, hload, hentry, rfl⟩ := hanswers
  have hsame : entryPoint? { runtime with loaded := some exports } exports = some entry := hentry
  simp [launch, hfile, hvector, hload, hsame]

theorem exists_answers_or_isTold :
    (∃ code, runtime.Answers facilities vector state code) ∨
      (runtime.launch facilities vector state).1.IsTold := by
  cases hfile : facilities.isFile runtime.path state with
  | false =>
      simp only [launch, hfile, Bool.not_false, if_true]
      exact .inr (show Status.IsTold .runtimeNotFound by decide)
  | true =>
      simp only [launch, hfile, Bool.not_true, Bool.false_eq_true, if_false]
      cases hvector : vector.toCVector with
      | error error => exact .inr (show Status.IsTold .argumentsRejected by decide)
      | ok arguments =>
          cases hload : facilities.load runtime.path runtime.loaded state with
          | mk answer after =>
              cases answer with
              | none => exact .inr (show Status.IsTold .runtimeLoadFailed by decide)
              | some exports =>
                  cases hentry : runtime.entryPoint? exports with
                  | some entry =>
                      exact .inl ⟨_, arguments, exports, entry, after, hfile, hvector, hload,
                        hentry, rfl⟩
                  | none =>
                      have hnone :
                          entryPoint? { runtime with loaded := some exports } exports = none :=
                        hentry
                      simp only [hnone]
                      exact .inr (show Status.IsTold .runtimeInitFailed by decide)

theorem entryPoint?_cons {name : Bytes} {entry : EntryPoint} {exports : Exports}
    (hsymbol : symbol? runtime.entry = some name) :
    runtime.entryPoint? ((name, entry) :: exports) = some entry := by
  simp [entryPoint?, hsymbol]

/-- On a host, the library that the path leads to is entered. -/
theorem answers_of_open (around : Adapter.Surroundings) {arguments : CVector} {exports : Exports}
    {entry : EntryPoint} (hunloaded : runtime.loaded = none)
    (hfile : around.host.isFile runtime.path = true)
    (hvector : vector.toCVector = .ok arguments)
    (hopen : open? around.host runtime.path = some exports)
    (hentry : runtime.entryPoint? (exports ++ SystemLibrary.exports) = some entry) :
    runtime.Answers Adapter.Surroundings.facilities vector around (entry arguments) := by
  refine ⟨arguments, exports ++ SystemLibrary.exports, entry, around, hfile, hvector, ?_, hentry,
    rfl⟩
  simp only [Adapter.Surroundings.facilities, hunloaded, hopen, Option.none_or, Option.map_some]

end LibraryRuntime

namespace Adapter

variable {settings : RuntimeSettings} {facilities : Facilities σ} {vector : ArgumentVector}
  {state : σ}

theorem launchWith_of_process (hkind : settings.kind = .process) :
    ((ofSettings settings).launchWith facilities vector state).1 =
      (ProcessRuntime.launch ⟨settings.program⟩ facilities vector state).1 := by
  simp only [ofSettings_of_process hkind, launchWith]

theorem launchWith_of_library (hkind : settings.kind = .library) :
    ((ofSettings settings).launchWith facilities vector state).1 =
      (LibraryRuntime.launch { path := settings.library, entry := settings.entry } facilities
        vector state).1 := by
  simp only [ofSettings_of_library hkind, launchWith]

end Adapter

/-! ## Runs -/

namespace Invocation

/-- The parent observes the status of a run exactly when it lies in the range of a byte,
and takes a failure for a success exactly when its code is a multiple of 256.  The status
is the adapter's.  What a program leads to is always in the range, if no signal of a number
from 128 on ended it.  What a library leads to is in the range, too, unless it is the answer
of the entry point: whatever that is, it becomes the status. -/
theorem exitStatus_tells_status_iff (invocation : Invocation)
    (system : Facilities Adapter.Surroundings) :
    let run := invocation.runWith system
    let status := run.1.value.status
    let exitStatus := invocation.exitStatusWith system
    ((exitStatus : Int) = status.code.toInt ↔
        0 ≤ status.code.toInt ∧ status.code.toInt < 256) ∧
      (exitStatus = 0 ↔ (256 : Int) ∣ status.code.toInt) ∧
      status = ((Adapter.ofSettings invocation.settings.runtime).launchWith system
        run.1.value.arguments { host := invocation.place, input := invocation.input }).1 ∧
      ∀ {σ : Type} (facilities : Facilities σ) (settings : RuntimeSettings)
        (vector : ArgumentVector) (state : σ),
        let answer := ((Adapter.ofSettings settings).launchWith facilities vector state).1
        let library : LibraryRuntime := { path := settings.library, entry := settings.entry }
        (settings.kind = .process →
          (∀ signal, (facilities.execute settings.program vector.tail state).1 =
            .ok (.killed signal) → signal < 128) → answer.IsTold) ∧
        (settings.kind = .library →
          (∀ code, library.Answers facilities vector state code → answer = ⟨code⟩) ∧
            ((∃ code, library.Answers facilities vector state code) ∨ answer.IsTold)) := by
  refine ⟨Status.isTold_iff _, Status.observed_eq_zero_iff _, invocation.status_runWith system,
    ?_⟩
  intro σ facilities settings vector state answer library
  constructor
  · intro hkind hsignals
    have hanswer : answer =
        (ProcessRuntime.launch ⟨settings.program⟩ facilities vector state).1 :=
      Adapter.launchWith_of_process hkind
    rw [hanswer]
    exact ProcessRuntime.isTold_launch hsignals
  · intro hkind
    have hanswer : answer = (library.launch facilities vector state).1 :=
      Adapter.launchWith_of_library hkind
    rw [hanswer]
    exact ⟨fun code => LibraryRuntime.launch_of_answers,
      LibraryRuntime.exists_answers_or_isTold⟩

/-- A program that is killed, and an entry point that answers out of range. -/
theorem exitStatus_tells_status_of_kill :
    let answer : EntryPoint := fun _ => 256
    let facilities : Facilities Unit :=
      { isFile := fun _ _ => true
        load := fun _ _ state => (some [(Bytes.ofText "launch", answer)], state)
        call := fun entry arguments state => (entry arguments, state)
        execute := fun _ _ state => (.ok (.killed 9), state) }
    let vector := ArgumentVector.compose [Bytes.ofText "app"] ⟨[], .file⟩
    let status kind := ((Adapter.ofSettings { kind }).launchWith facilities vector ()).1
    (status .process).IsTold ∧ status .process = ⟨137⟩ ∧ status .library = ⟨256⟩ ∧
      ¬(status .library).IsTold := by
  intro answer facilities vector status
  obtain ⟨-, -, -, hadapters⟩ := exitStatus_tells_status_iff
    { host := { root := .emptyDirectory }, executable := [], arguments := [] }
    Adapter.Surroundings.facilities
  obtain ⟨hprocess, -⟩ := hadapters facilities { kind := .process } vector ()
  obtain ⟨-, hlibrary⟩ := hadapters facilities { kind := .library } vector ()
  obtain ⟨arguments, harguments⟩ : ∃ arguments, vector.toCVector = .ok arguments :=
    CVector.exists_ofList_eq_ok (by decide) (by decide +kernel)
  have hanswer : status .library = ⟨256⟩ := (hlibrary rfl).1 256
      ⟨arguments, _, answer, (), rfl, harguments, rfl,
      LibraryRuntime.entryPoint?_cons (by decide +kernel), rfl⟩
  have htold : (status .process).IsTold := hprocess rfl fun signal hkilled => by
    obtain rfl : 9 = signal := by simpa [facilities] using hkilled
    decide
  refine ⟨htold, rfl, hanswer, ?_⟩
  rw [hanswer]
  decide

/-- An entry point answers with a failure, and the parent sees a success. -/
theorem failure_seen_as_success :
    let text := "[runtime]\nkind='library'\nlibrary='/t.so'"
    let exports : Exports := [(Bytes.ofText "launch", fun _ => 256)]
    let invocation := inRoot
      [(Settings.fileName, .plain (Utf8.encode text.toList)),
        (OptionsLoader.fileName, .plain []), (Bytes.ofText "t.so", .file (.library exports) false)]
      [Bytes.ofText "app"]
    let status := invocation.run.1.value.status
    status = ⟨256⟩ ∧ status.isSuccess = false ∧ invocation.exitStatus = 0 := by
  intro text exports invocation status
  let runtime : RuntimeSettings := { kind := .library, library := Bytes.ofText "/t.so" }
  have hparse : Settings.parse text.toList = .ok { runtime } := by decide +kernel
  have hsettings : invocation.settings = { runtime } :=
    settings_inRoot List.lookup_cons_self hparse rfl
  have harguments : (invocation.runWith Adapter.Surroundings.facilities).1.value.arguments =
      ArgumentVector.compose [Bytes.ofText "app"] ⟨[], .file⟩ := by
    have hnone : (Options.parseFile {} []).options = [] := by decide +kernel
    rw [arguments_runWith_of_content (content_optionsPath_inRoot rfl), hsettings, hnone]
    rfl
  -- the library is there, and nothing about the arguments keeps it from being entered
  have hfind : invocation.place.find runtime.library =
      .ok ([Bytes.ofText "t.so"], .file (.library exports) false) := by
    have hname : Host.IsEntryName (Bytes.ofText "t.so") := by
      constructor <;> decide +kernel
    have hpath : runtime.library = Bytes.slash :: Bytes.ofText "t.so" := by decide +kernel
    rw [hpath, place_inRoot, Host.find_slash hname rfl]
    exact Host.find_of_entry hname rfl rfl rfl
  have hlibrary : invocation.place.isFile runtime.library = true := by
    simp only [Host.isFile, hfind]
  have hopen : LibraryRuntime.open? invocation.place runtime.library = some exports := by
    have htokens : LibraryRuntime.expandTokens invocation.place.origin
        (runtime.library.length + 1) runtime.library = some runtime.library := by decide +kernel
    have hslash : runtime.library.contains Bytes.slash = true := by decide +kernel
    simp only [LibraryRuntime.open?, hslash, if_true, htokens, Option.map_some, hfind]
  have hentry : LibraryRuntime.entryPoint? { path := runtime.library, entry := runtime.entry }
      (exports ++ SystemLibrary.exports) = some fun _ => 256 :=
    LibraryRuntime.entryPoint?_cons (by decide +kernel)
  obtain ⟨carried, hcarried⟩ : ∃ carried,
      (ArgumentVector.compose [Bytes.ofText "app"] ⟨[], .file⟩).toCVector = .ok carried :=
    CVector.exists_ofList_eq_ok (by decide) (by decide +kernel)
  have hstatus : status = ⟨256⟩ := by
    simp only [status]
    rw [run_eq, status_runWith, harguments, hsettings]
    exact LibraryRuntime.launch_of_answers (LibraryRuntime.answers_of_open
      { host := invocation.place } rfl hlibrary hcarried hopen hentry)
  refine ⟨hstatus, ?_, ?_⟩
  · rw [hstatus]
    decide
  · show status.observed = 0
    rw [hstatus]
    decide

end Invocation

end AppLauncher
