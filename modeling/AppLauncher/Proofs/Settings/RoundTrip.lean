import AppLauncher.Proofs.Files.Reading
import AppLauncher.Proofs.Settings.WrittenLines
import AppLauncher.Proofs.Text.Decoding
import AppLauncher.Proofs.Toml.Tables
import AppLauncher.Settings.Load

/-!
# Settings, written and read

Settings whose paths are text come back unchanged from the document they are
written as, whatever their numbers and texts are.  So loading that document gives
the settings when they keep the rules, and the rule they break otherwise.
-/

namespace AppLauncher

open Toml

/-! ## Fields -/

theorem readLimit_of_toNat (position : Place) (limit : UInt64) :
    readLimit (.mk position (.integer (some limit.toNat))) = .ok limit := by
  have hbelow : (limit.toNat : Int) < Int.pow 2 64 := by
    have hlimit : limit.toNat < 18446744073709551616 := limit.toNat_lt
    have hpow : Int.pow 2 64 = 18446744073709551616 := rfl
    omega
  simp only [readLimit, Node.value]
  rw [if_pos ⟨Int.natCast_nonneg _, hbelow⟩, Int.toNat_natCast, UInt64.ofNat_toNat]

theorem readText_of_toList (expected : Expected) (position : Place) (text : String) :
    readText expected (.mk position (.string (String.ofList text.toList))) = .ok text := by
  simp [readText, Node.value]

theorem readPath_of_encode (position : Place) (text : List Char) :
    readPath (.mk position (.string (String.ofList text))) = .ok (Utf8.encode text) := by
  simp [readPath, readText, Node.value, Except.map, Bytes.ofText, Utf8.encode]

theorem readKind_of_name (position : Place) (kind : RuntimeKind) :
    readKind (.mk position (.string (String.ofList kind.name.toList))) = .ok kind := by
  cases kind with
  | library => simp [readKind, Node.value, RuntimeKind.ofName?]
  | process => simp [readKind, Node.value, RuntimeKind.ofName?, RuntimeKind.name]

/-! ## Tables -/

section Tables

variable {α β : Type} {fields : List (Field α)} {known : α}

theorem readEntries_cons {key : String} {read : Toml.Node → Except ShapeError β}
    {set : β → α → α} {value : β} {entry : Entry} (entries : List Entry)
    (hfind : fields.find? (·.key = entry.key) = some (.setting key read set))
    (hread : read entry.node = .ok value) :
    readEntries fields known (entry :: entries) =
      readEntries fields (set value known) entries := by
  have hentry : readEntry fields known entry = .ok (set value known) := by
    simp [readEntry, hfind, Field.setting, hread, Except.map]
  rw [readEntries, List.foldlM_cons, hentry]
  rfl

/-- A section whose assignments are read as a table of settings. -/
def ReadsAs (expected : Expected) (fields : List (Field α)) (known : α)
    (assignments : List Assignment) (value : α) : Prop :=
  ∃ entries, defineAll assignments [] = some entries ∧
    ∀ position, readTable expected fields known (.mk position (.table .header entries)) =
      .ok value

theorem readsAs_of_readEntries {expected : Expected} {assignments : List Assignment}
    {value : α} (entries : List Entry)
    (hpath : ∀ a ∈ assignments, a.path = [])
    (hdistinct : (assignments.map (·.key.name)).Nodup)
    (hentries : assignments.foldl
        (fun entries a => Toml.insert (.mk a.key.name a.key.position a.node) entries) [] =
      entries)
    (hread : readEntries fields known entries = .ok value) :
    ReadsAs expected fields known assignments value := by
  refine ⟨entries, ?_, fun _ => hread⟩
  rw [defineAll_of_new hpath (fun _ _ => rfl) hdistinct, hentries]

end Tables

section Written

variable {first second third fourth : Toml.Node} (k₁ k₂ k₃ k₄ : Place)

theorem Limits.readsAs_written {limits : Limits}
    (hoptions : readLimit first = .ok limits.maxOptions)
    (hlength : readLimit second = .ok limits.maxLineLength) :
    ReadsAs .optionsTable Limits.fields {}
      [⟨[], ⟨"max_options", k₁⟩, first⟩, ⟨[], ⟨"max_line_length", k₂⟩, second⟩] limits := by
  apply readsAs_of_readEntries
    [.mk "max_line_length" k₂ second, .mk "max_options" k₁ first] (by simp) (by simp)
  · simp (disch := decide) only [List.foldl_cons, List.foldl_nil, insert_nil, insert_of_lt]
  · rw [readEntries_cons _ (by rfl) hlength, readEntries_cons _ (by rfl) hoptions]
    rfl

theorem RuntimeSettings.readsAs_written {runtime : RuntimeSettings}
    (hkind : readKind first = .ok runtime.kind)
    (hlibrary : readPath second = .ok runtime.library)
    (hentry : readText .text third = .ok runtime.entry)
    (hprogram : readPath fourth = .ok runtime.program) :
    ReadsAs .runtimeTable RuntimeSettings.fields {}
      [⟨[], ⟨"kind", k₁⟩, first⟩, ⟨[], ⟨"library", k₂⟩, second⟩, ⟨[], ⟨"entry", k₃⟩, third⟩,
        ⟨[], ⟨"program", k₄⟩, fourth⟩] runtime := by
  apply readsAs_of_readEntries
    [.mk "entry" k₃ third, .mk "kind" k₁ first, .mk "library" k₂ second, .mk "program" k₄ fourth]
    (by simp) (by simp)
  · simp (disch := decide) only [List.foldl_cons, List.foldl_nil, insert_nil, insert_of_lt,
      insert_of_not_lt]
  · rw [readEntries_cons _ (by rfl) hentry, readEntries_cons _ (by rfl) hkind,
      readEntries_cons _ (by rfl) hlibrary, readEntries_cons _ (by rfl) hprogram]
    rfl

theorem Messages.readsAs_written {messages : Messages}
    (hname : readText .text first = .ok messages.productName)
    (hurl : readText .text second = .ok messages.downloadUrl) :
    ReadsAs .reportTable Messages.fields {}
      [⟨[], ⟨"product_name", k₁⟩, first⟩, ⟨[], ⟨"download_url", k₂⟩, second⟩] messages := by
  apply readsAs_of_readEntries
    [.mk "download_url" k₂ second, .mk "product_name" k₁ first] (by simp) (by simp)
  · simp (disch := decide) only [List.foldl_cons, List.foldl_nil, insert_nil, insert_of_lt]
  · rw [readEntries_cons _ (by rfl) hurl, readEntries_cons _ (by rfl) hname]
    rfl

end Written

/-! ## Documents -/

namespace Settings

theorem exists_assemble {settings : Settings} {options runtime report : List Assignment}
    (hoptions : ReadsAs .optionsTable Limits.fields {} options settings.options)
    (hruntime : ReadsAs .runtimeTable RuntimeSettings.fields {} runtime settings.runtime)
    (hreport : ReadsAs .reportTable Messages.fields {} report settings.report)
    (k₁ k₂ k₃ p₁ p₂ p₃ : Place) :
    ∃ entries,
      [⟨⟨p₁, false, [], ⟨"options", k₁⟩⟩, options⟩, ⟨⟨p₂, false, [], ⟨"runtime", k₂⟩⟩, runtime⟩,
        ⟨⟨p₃, false, [], ⟨"report", k₃⟩⟩, report⟩].foldlM addSection [] = some entries ∧
      ofEntries entries = .ok settings := by
  obtain ⟨optionEntries, hdefine₁, hread₁⟩ := hoptions
  obtain ⟨runtimeEntries, hdefine₂, hread₂⟩ := hruntime
  obtain ⟨reportEntries, hdefine₃, hread₃⟩ := hreport
  let optionEntry : Entry := .mk "options" k₁ (.mk p₁ (.table .header optionEntries))
  let runtimeEntry : Entry := .mk "runtime" k₂ (.mk p₂ (.table .header runtimeEntries))
  let reportEntry : Entry := .mk "report" k₃ (.mk p₃ (.table .header reportEntries))
  have hfirst : addSection [] ⟨⟨p₁, false, [], ⟨"options", k₁⟩⟩, options⟩ =
      some [optionEntry] :=
    addSection_of_new hdefine₁ rfl
  have hsecond : addSection [optionEntry] ⟨⟨p₂, false, [], ⟨"runtime", k₂⟩⟩, runtime⟩ =
      some [optionEntry, runtimeEntry] := by
    rw [addSection_of_new hdefine₂ (lookup_cons_of_ne _ _ _ (by decide)),
      insert_of_not_lt _ _ _ _ _ (by decide) (by decide), insert_nil]
  have hthird :
      addSection [optionEntry, runtimeEntry] ⟨⟨p₃, false, [], ⟨"report", k₃⟩⟩, report⟩ =
        some [optionEntry, reportEntry, runtimeEntry] := by
    have hnew : lookup "report" [optionEntry, runtimeEntry] = none := by
      simp (disch := decide) only [optionEntry, runtimeEntry, lookup_cons_of_ne, lookup_nil]
    rw [addSection_of_new hdefine₃ hnew, insert_of_not_lt _ _ _ _ _ (by decide) (by decide),
      insert_of_lt _ _ _ _ _ (by decide)]
  refine ⟨[optionEntry, reportEntry, runtimeEntry], ?_, ?_⟩
  · simp only [List.foldlM_cons, List.foldlM_nil, hfirst, hsecond, hthird,
      Option.bind_eq_bind, Option.bind_some, Option.pure_def]
  · unfold ofEntries
    rw [readEntries_cons _ (by rfl) (hread₁ p₁), readEntries_cons _ (by rfl) (hread₃ p₃),
      readEntries_cons _ (by rfl) (hread₂ p₂)]
    rfl

def lines (settings : Settings) (library program : List Char) : List Line :=
  [.heading { name := "options" },
    .binding { name := "max_options" } (.number settings.options.maxOptions.toNat),
    .binding { name := "max_line_length" } (.number settings.options.maxLineLength.toNat),
    .blank,
    .heading { name := "runtime" },
    .binding { name := "kind" } (.quoted settings.runtime.kind.name.toList),
    .binding { name := "library" } (.quoted library),
    .binding { name := "entry" } (.quoted settings.runtime.entry.toList),
    .binding { name := "program" } (.quoted program),
    .blank,
    .heading { name := "report" },
    .binding { name := "product_name" } (.quoted settings.report.productName.toList),
    .binding { name := "download_url" } (.quoted settings.report.downloadUrl.toList)]

theorem document_eq_linesText (settings : Settings) (library program : List Char) :
    document settings library program = linesText (lines settings library program) := by
  simp only [document, lines, linesText, List.flatMap_cons, List.flatMap_nil, Line.text,
    WrittenValue.number, WrittenValue.quoted, decimal, List.append_assoc, List.append_nil,
    List.cons_append, List.nil_append]

variable {settings : Settings} {library program : List Char}

theorem exists_assemble_lines (hlibrary : Utf8.encode library = settings.runtime.library)
    (hprogram : Utf8.encode program = settings.runtime.program) :
    ∃ entries, assemble (statementsOf (lines settings library program)) = some entries ∧
      ofEntries entries = .ok settings := by
  simp only [lines, statementsOf, assemble, sections, defineAll, List.foldlM_nil,
    Option.pure_def, Option.bind_some, WrittenValue.number, WrittenValue.quoted]
  apply exists_assemble
  · exact Limits.readsAs_written _ _ (readLimit_of_toNat _ _) (readLimit_of_toNat _ _)
  · apply RuntimeSettings.readsAs_written
    · exact readKind_of_name _ _
    · rw [readPath_of_encode, hlibrary]
    · exact readText_of_toList _ _ _
    · rw [readPath_of_encode, hprogram]
  · exact Messages.readsAs_written _ _ (readText_of_toList _ _ _) (readText_of_toList _ _ _)

theorem parse_document (hlibrary : Utf8.encode library = settings.runtime.library)
    (hprogram : Utf8.encode program = settings.runtime.program) :
    parse (document settings library program) = .ok settings := by
  obtain ⟨entries, hassemble, hread⟩ := exists_assemble_lines hlibrary hprogram
  simp only [parse, document_eq_linesText, parse?_linesText, hassemble, hread]
  rfl

/-! ## Rendering and loading -/

/-- Whether the paths of settings are text. -/
def PathsAreText (settings : Settings) : Prop :=
  (∃ library, Utf8.encode library = settings.runtime.library) ∧
    ∃ program, Utf8.encode program = settings.runtime.program

theorem pathText_encode (text : List Char) : pathText (Utf8.encode text) = .ok text := by
  simp only [pathText, Utf8.decode?_encode]

theorem pathText_of_not_text {path : Path} (hpath : ¬∃ text, Utf8.encode text = path) :
    pathText path = .error .pathNotText := by
  unfold pathText
  split
  next text hdecode => exact absurd ⟨text, Utf8.encode_of_decode? hdecode⟩ hpath
  next => rfl

theorem render_of_encode (hlibrary : Utf8.encode library = settings.runtime.library)
    (hprogram : Utf8.encode program = settings.runtime.program) :
    render settings = .ok (document settings library program) := by
  unfold render
  rw [← hlibrary, ← hprogram, pathText_encode, pathText_encode]
  rfl

theorem render_of_not_pathsAreText (hpaths : ¬settings.PathsAreText) :
    render settings = .error .pathNotText := by
  unfold render
  by_cases hlibrary : ∃ library, Utf8.encode library = settings.runtime.library
  · have hprogram : ¬∃ program, Utf8.encode program = settings.runtime.program :=
      fun h => hpaths ⟨hlibrary, h⟩
    obtain ⟨library, hlibrary⟩ := hlibrary
    rw [← hlibrary, pathText_encode, pathText_of_not_text hprogram]
    rfl
  · rw [pathText_of_not_text hlibrary]
    rfl

theorem load_of_content {host : Host} {directory : Path} {text : List Char}
    (hfile : host.content (pathIn directory) = .ok (Utf8.encode text))
    (hparse : parse text = .ok settings) :
    load host directory = settings.validate.mapError .invalid := by
  have hfound := Host.lookUp_of_content hfile
  have hcontent : host.files.content (pathIn directory) = .ok (Utf8.encode text) := hfile
  simp only [load, loadFrom, readFrom, hfound, hcontent, ofContent, Utf8.decode?_encode, hparse]

/-- Settings can be written when their paths are text, and only then.  What is
written is read back as the settings, so loading it gives the settings or the rule
they break. -/
theorem render_read_back (settings : Settings) :
    (settings.PathsAreText →
      ∃ text, settings.render = .ok text ∧ parse text = .ok settings ∧
        ∀ (host : Host) directory,
          host.content (pathIn directory) = .ok (Utf8.encode text) →
            load host directory =
              match settings.validate with
              | .ok _ => .ok settings
              | .error fault => .error (.invalid fault)) ∧
    (¬settings.PathsAreText → settings.render = .error .pathNotText) := by
  refine ⟨?_, render_of_not_pathsAreText⟩
  rintro ⟨⟨library, hlibrary⟩, program, hprogram⟩
  have hparse := parse_document hlibrary hprogram
  refine ⟨_, render_of_encode hlibrary hprogram, hparse, fun host directory hfile => ?_⟩
  rw [load_of_content hfile hparse]
  unfold validate
  cases settings.fault? with
  | none => rfl
  | some fault => rfl

theorem isEntryName_fileName : Host.IsEntryName fileName where
  noNul := by decide +kernel
  short := by decide +kernel
  relative := by decide +kernel
  single := by decide +kernel
  named := by decide +kernel
  notParent := by decide +kernel

theorem content_pathIn_withFile (content : Bytes) :
    (Host.withFile fileName content).content (pathIn []) = .ok content := by
  have hpath : pathIn [] = fileName := by decide +kernel
  rw [hpath]
  exact Host.content_withFile isEntryName_fileName content

/-- Texts that need every form of quotation, and paths of which one is no text. -/
theorem render_read_back_of_all_forms :
    let settings : Settings :=
      { options := { maxOptions := 18446744073709551615, maxLineLength := 9223372036854775808 }
        runtime :=
          { kind := .library
            library := Bytes.ofText "lib\x5c\x22\x27\x27\x27\r\né"
            entry := "\x22\x22\x22\n\x5c"
            program := Bytes.ofText "\x00\x7F" }
        report := { productName := "it\x27s\n\x22\x22", downloadUrl := "\x5c\x22\t" } }
    let broken : Settings := { runtime := { program := [0xFF] } }
    settings.PathsAreText ∧
      (∃ text, settings.render = .ok text ∧ parse text = .ok settings ∧
        load (Host.withFile fileName (Utf8.encode text)) [] = .ok settings) ∧
      ¬broken.PathsAreText ∧ broken.render = .error .pathNotText := by
  intro settings broken
  have hpaths : settings.PathsAreText := ⟨⟨_, rfl⟩, _, rfl⟩
  have hbroken : ¬broken.PathsAreText := by
    rintro ⟨-, program, hprogram⟩
    have hdecode : Utf8.decode? [0xFF] = some program :=
      Utf8.decode?_eq_some_iff.mpr hprogram
    have hnone : Utf8.decode? [0xFF] = none := by decide +kernel
    rw [hnone] at hdecode
    contradiction
  obtain ⟨text, hrender, hparse, hload⟩ := (render_read_back settings).1 hpaths
  refine ⟨hpaths, ⟨text, hrender, hparse, ?_⟩, hbroken, (render_read_back broken).2 hbroken⟩
  exact hload _ _ (content_pathIn_withFile (Utf8.encode text))

end Settings

end AppLauncher
