import AppLauncher.Proofs.Settings.Fields
import AppLauncher.Proofs.Settings.KeyedReading
import AppLauncher.Proofs.Settings.RoundTrip
import AppLauncher.Proofs.Settings.SameValues

/-!
# The keys that matter

Settings are read under eight keys in three tables.  Documents that agree on these keys give
the same settings, or are refused for the same reason, whatever else they hold and in
whatever order it is written.  What is read has the value of each key that is there, and the
default for each that is not.
-/

namespace AppLauncher

open Toml (Entry Value lookup)

/-! ## Keys of sections -/

namespace Toml

def Value.isTable : Value → Bool
  | .table _ _ => true
  | _ => false

def Value.entries : Value → List Entry
  | .table _ entries => entries
  | _ => []

def tableAt (name : String) (entries : List Entry) : List Entry :=
  ((lookup name entries).map (·.value.entries)).getD []

def valueAt? (name key : String) (entries : List Entry) : Option Value :=
  (lookup key (tableAt name entries)).map Node.value

variable {name : String} {entries : List Entry}

/-- What holds of no entries and of those of the value with a name holds of the table with the
name. -/
theorem tableAt_of_lookup {p : List Entry → Prop} (hnil : p [])
    (htable : ∀ node, lookup name entries = some node → p node.value.entries) :
    p (tableAt name entries) := by
  unfold tableAt
  cases hlookup : lookup name entries with
  | none => exact hnil
  | some node => exact htable node hlookup

theorem Ordered.tableAt (hentries : Ordered entries) : Ordered (tableAt name entries) := by
  refine tableAt_of_lookup ordered_nil fun node hlookup => ?_
  have hvalue := hentries.of_lookup hlookup
  cases hnode : node.value with
  | table origin inner =>
      rw [hnode] at hvalue
      exact (Value.ordered_table_iff origin inner).mp hvalue
  | _ => exact ordered_nil

theorem hasRepresentable_tableAt (hentries : hasRepresentable entries) :
    hasRepresentable (tableAt name entries) := by
  refine tableAt_of_lookup (p := (hasRepresentable ·)) rfl fun node hlookup => ?_
  obtain ⟨entry, hentry, -, rfl⟩ := exists_mem_of_lookup hlookup
  have hvalue := hasRepresentable_iff.mp hentries entry hentry
  cases hnode : entry.node.value with
  | table origin inner =>
      rw [hnode, Value.isRepresentable] at hvalue
      exact hvalue
  | _ => rfl

/-- Of entries in key order the last with a key is the only one. -/
theorem lookup_reverse_bindings (hascending : entries.Pairwise (·.key < ·.key)) (key : String) :
    (entries.map (·.binding)).reverse.lookup key = lookup key entries := by
  induction entries with
  | nil => rfl
  | cons entry entries ih =>
      obtain ⟨hafter, hrest⟩ := List.pairwise_cons.mp hascending
      rw [List.map_cons, List.reverse_cons, List.lookup_append, ih hrest, Entry.binding]
      by_cases hkey : entry.key = key
      · subst hkey
        rw [lookup_eq_none_of_before hafter, lookup, if_pos rfl]
        simp
      · rw [lookup, if_neg hkey]
        simp [List.lookup_cons, beq_false_of_ne (Ne.symm hkey)]

end Toml

/-! ## Documents that agree -/

namespace Settings

/-- The keys of the settings, each with the name of its table. -/
def knownKeys : List (String × String) :=
  [("options", "max_options"), ("options", "max_line_length"),
   ("runtime", "kind"), ("runtime", "library"), ("runtime", "entry"), ("runtime", "program"),
   ("report", "product_name"), ("report", "download_url")]

/-- A document of which every section is absent or a table, and every number can be
represented. -/
structure Regular (entries : List Entry) : Prop where
  sections : ∀ name ∈ ["options", "runtime", "report"],
    (lookup name entries).all (·.value.isTable)
  representable : Toml.hasRepresentable entries

/-- Each known key is absent in both documents, or has the same value in both. -/
def AgreeOnKnownKeys (first second : List Entry) : Prop :=
  ∀ known ∈ knownKeys,
    Toml.sameIfAny (Toml.valueAt? known.1 known.2 first) (Toml.valueAt? known.1 known.2 second)

instance (entries : List Entry) : Decidable (Regular entries) :=
  decidable_of_iff
    ((∀ name ∈ ["options", "runtime", "report"], (lookup name entries).all (·.value.isTable)) ∧
      Toml.hasRepresentable entries)
    ⟨fun h => ⟨h.1, h.2⟩, fun h => ⟨h.sections, h.representable⟩⟩

instance (first second : List Entry) : Decidable (AgreeOnKnownKeys first second) :=
  inferInstanceAs (Decidable (∀ known ∈ knownKeys, _))

end Settings

/-! ## Reading the same from both -/

section Alike

variable {α β : Type} {first second entries : List Entry}

theorem alike_readFrom {key : String} {read : Toml.Node → Except ShapeError β}
    {set : β → α → α}
    (hread : ∀ {value other position place}, value.same other →
      Alike (read (.mk position value)) (read (.mk place other)))
    (hsame : Toml.sameIfAny ((lookup key first).map Toml.Node.value)
      ((lookup key second).map Toml.Node.value)) (known : α) :
    Alike (Field.readFrom first known (.setting key read set))
      (Field.readFrom second known (.setting key read set)) := by
  simp only [Field.readFrom, Field.setting]
  cases hfirst : lookup key first with
  | none =>
      cases hsecond : lookup key second with
      | none => exact .ok known
      | some node => simp [hfirst, hsecond, Toml.sameIfAny] at hsame
  | some node =>
      cases hsecond : lookup key second with
      | none => simp [hfirst, hsecond, Toml.sameIfAny] at hsame
      | some other =>
          rw [hfirst, hsecond] at hsame
          obtain ⟨position, value⟩ := node
          obtain ⟨place, other⟩ := other
          exact (hread hsame).map _

theorem alike_readEntries {fields order : List (Field α)} (hlisted : Field.Listed fields order)
    (hfirst : Toml.Readable first) (hsecond : Toml.Readable second)
    (hfields : ∀ field ∈ fields, ∀ known,
      Alike (Field.readFrom first known field) (Field.readFrom second known field)) (known : α) :
    Alike (readEntries fields known first) (readEntries fields known second) := by
  rw [hlisted.readEntries_eq hfirst, hlisted.readEntries_eq hsecond]
  exact .foldlM (fun field hfield => hfields field (hlisted.perm.mem_iff.mp hfield)) known

/-- A section that is absent is read as an empty table. -/
theorem readFrom_section {key : String} {expected : Expected} {fields : List (Field β)}
    {initial : β} {set : β → α → α} {known : α}
    (htable : (lookup key entries).all (·.value.isTable)) (hinitial : set initial known = known) :
    Field.readFrom entries known (.setting key (readTable expected fields initial) set) =
      (readEntries fields initial (Toml.tableAt key entries)).map (set · known) := by
  simp only [Field.readFrom, Field.setting, Toml.tableAt]
  cases hlookup : lookup key entries with
  | none => exact congrArg Except.ok hinitial.symm
  | some node =>
      obtain ⟨position, value⟩ := node
      rw [hlookup] at htable
      cases value with
      | table origin inner => rfl
      | _ => contradiction

end Alike

theorem Limits.listed : Field.Listed fields fields.reverse where
  ascending := by decide
  perm := List.reverse_perm fields

theorem Messages.listed : Field.Listed fields fields.reverse where
  ascending := by decide
  perm := List.reverse_perm fields

theorem RuntimeSettings.listed :
    Field.Listed fields [fields[2], fields[0], fields[1], fields[3]] where
  ascending := by decide
  perm := (@List.perm_middle _ fields[2] [fields[0], fields[1]] [fields[3]]).symm

namespace Settings

variable {first second entries : List Entry}

theorem listed : Field.Listed fields [fields[0], fields[2], fields[1]] where
  ascending := by decide
  perm := .cons _ (.swap _ _ _)

theorem ofEntries_eq (hentries : Toml.Ordered entries) (hregular : Regular entries) :
    ofEntries entries = do
      let options ← readEntries Limits.fields {} (Toml.tableAt "options" entries)
      let report ← readEntries Messages.fields {} (Toml.tableAt "report" entries)
      let runtime ← readEntries RuntimeSettings.fields {} (Toml.tableAt "runtime" entries)
      return { options, runtime, report } := by
  have htable := hregular.sections
  rw [ofEntries, listed.readEntries_eq ⟨hentries.ascending, hregular.representable⟩]
  simp only [List.foldlM_cons, List.foldlM_nil, fields, List.getElem_cons_zero,
    List.getElem_cons_succ]
  -- each section is still at its default when its turn comes, so that an absent one may as
  -- well be an empty table
  rw [readFrom_section (htable "options" (by simp)) rfl]
  cases readEntries Limits.fields {} (Toml.tableAt "options" entries) with
  | error error => rfl
  | ok options =>
      simp only [Except.map, bind, Except.bind]
      rw [readFrom_section (htable "report" (by simp)) rfl]
      cases readEntries Messages.fields {} (Toml.tableAt "report" entries) with
      | error error => rfl
      | ok report =>
          simp only [Except.map]
          rw [readFrom_section (htable "runtime" (by simp)) rfl]
          cases readEntries RuntimeSettings.fields {} (Toml.tableAt "runtime" entries) with
          | error error => rfl
          | ok runtime => rfl

theorem Regular.readable_tableAt (hregular : Regular entries) (hentries : Toml.Ordered entries)
    (name : String) : Toml.Readable (Toml.tableAt name entries) :=
  ⟨hentries.tableAt.ascending, Toml.hasRepresentable_tableAt hregular.representable⟩

/-- Documents that agree on the known keys give the same settings, or the same reason why they
give none. -/
theorem alike_ofEntries (hfirst : Toml.Ordered first) (hsecond : Toml.Ordered second)
    (hregular : Regular first) (hregular' : Regular second)
    (hagree : AgreeOnKnownKeys first second) : Alike (ofEntries first) (ofEntries second) := by
  simp only [AgreeOnKnownKeys, knownKeys, List.forall_mem_cons] at hagree
  obtain ⟨hoptions, hlength, hkind, hlibrary, hentry, hprogram, hproduct, hurl, -⟩ := hagree
  have hreadable := hregular.readable_tableAt hfirst
  have hreadable' := hregular'.readable_tableAt hsecond
  have hlimits : Alike (readEntries Limits.fields {} (Toml.tableAt "options" first))
      (readEntries Limits.fields {} (Toml.tableAt "options" second)) := by
    refine alike_readEntries Limits.listed (hreadable _) (hreadable' _) ?_ _
    simp only [Limits.fields, List.forall_mem_cons]
    exact ⟨alike_readFrom alike_readLimit hoptions, alike_readFrom alike_readLimit hlength,
      by simp⟩
  have hmessages : Alike (readEntries Messages.fields {} (Toml.tableAt "report" first))
      (readEntries Messages.fields {} (Toml.tableAt "report" second)) := by
    refine alike_readEntries Messages.listed (hreadable _) (hreadable' _) ?_ _
    simp only [Messages.fields, List.forall_mem_cons]
    exact ⟨alike_readFrom (alike_readText .text) hproduct,
      alike_readFrom (alike_readText .text) hurl, by simp⟩
  have hruntime : Alike (readEntries RuntimeSettings.fields {} (Toml.tableAt "runtime" first))
      (readEntries RuntimeSettings.fields {} (Toml.tableAt "runtime" second)) := by
    refine alike_readEntries RuntimeSettings.listed (hreadable _) (hreadable' _) ?_ _
    simp only [RuntimeSettings.fields, List.forall_mem_cons]
    exact ⟨alike_readFrom alike_readKind hkind, alike_readFrom alike_readPath hlibrary,
      alike_readFrom (alike_readText .text) hentry, alike_readFrom alike_readPath hprogram,
      by simp⟩
  rw [ofEntries_eq hfirst hregular, ofEntries_eq hsecond hregular']
  exact hlimits.bind fun _ => hmessages.bind fun _ => hruntime.bind fun _ => .ok _

end Settings

/-! ## What values mean -/

section Meaning

def IsLimit (value : Value) (limit : UInt64) : Prop :=
  value = .integer (some limit.toNat)

def IsText (value : Value) (text : String) : Prop :=
  value = .string text

def IsPath (value : Value) (path : Path) : Prop :=
  ∃ text, value = .string text ∧ path = Bytes.ofText text

def IsVoid : Value → Prop
  | .array [] | .grown [] | .table _ [] => True
  | _ => False

/-- A kind of runtime is given by its name, or by a table that binds the name to nothing. -/
def IsKind (value : Value) (kind : RuntimeKind) : Prop :=
  value = .string kind.name ∨
    ∃ origin place node, value = .table origin [.mk kind.name place node] ∧ IsVoid node.value

variable {node : Toml.Node}

theorem isLimit_of_readLimit {limit : UInt64} (hread : readLimit node = .ok limit) :
    IsLimit node.value limit := by
  unfold readLimit at hread
  split at hread
  next number hvalue =>
    have hword : Int.pow 2 64 = UInt64.size := rfl
    split at hread
    next hrange =>
      have hnumber : (UInt64.ofNat number.toNat).toNat = number.toNat :=
        UInt64.toNat_ofNat_of_lt' (by omega)
      rw [← Except.ok.inj hread, IsLimit, hvalue, hnumber, Int.toNat_of_nonneg hrange.1]
    next =>
      split at hread
      next => contradiction
      next => contradiction
  next => contradiction

theorem isText_of_readText {expected : Expected} {text : String}
    (hread : readText expected node = .ok text) : IsText node.value text := by
  unfold readText at hread
  split at hread
  next hvalue => rw [← Except.ok.inj hread, IsText, hvalue]
  next => contradiction

theorem isPath_of_readPath {path : Path} (hread : readPath node = .ok path) :
    IsPath node.value path := by
  unfold readPath at hread
  cases htext : readText .path node with
  | error error =>
      rw [htext] at hread
      contradiction
  | ok text =>
      rw [htext] at hread
      exact ⟨text, isText_of_readText htext, (Except.ok.inj hread).symm⟩

theorem RuntimeKind.name_of_ofName? {name : String} {kind : RuntimeKind}
    (hkind : ofName? name = some kind) : name = kind.name := by
  unfold ofName? at hkind
  split at hkind
  next hname => rw [hname, ← Option.some.inj hkind]
  next =>
    split at hkind
    next hname => rw [hname, ← Option.some.inj hkind]
    next => contradiction

theorem isVoid_of_checkKindValue (hcheck : checkKindValue node = .ok ()) : IsVoid node.value := by
  unfold checkKindValue at hcheck
  split at hcheck
  next hvalue => rw [hvalue]; trivial
  next hvalue => rw [hvalue]; trivial
  next => contradiction
  next => contradiction
  next hvalue => rw [hvalue]; trivial
  next => contradiction
  next => contradiction

theorem isKind_of_readKind {kind : RuntimeKind} (hread : readKind node = .ok kind) :
    IsKind node.value kind := by
  unfold readKind at hread
  split at hread
  next name hvalue =>
    split at hread
    next found hname =>
      obtain rfl := Except.ok.inj hread
      rw [RuntimeKind.name_of_ofName? hname] at hvalue
      exact .inl hvalue
    next => contradiction
  next => contradiction
  next origin entry hvalue =>
    split at hread
    next found hname =>
      cases hcheck : checkKindValue entry.node with
      | error error =>
          rw [hcheck] at hread
          contradiction
      | ok =>
          rw [hcheck] at hread
          obtain rfl : found = kind := Except.ok.inj hread
          obtain ⟨key, place, inner⟩ := entry
          obtain rfl := RuntimeKind.name_of_ofName? hname
          exact .inr ⟨origin, place, inner, hvalue, isVoid_of_checkKindValue hcheck⟩
    next => contradiction
  next => contradiction
  next => contradiction

/-- A component is what the value of its key means, or the default where the key is absent. -/
def SetBy {β : Type} (means : Value → β → Prop) (default : β) (value? : Option Value)
    (component : β) : Prop :=
  match value? with
  | some value => means value component
  | none => component = default

theorem setBy_of_given {β : Type} {means : Toml.Node → β → Prop} {means' : Value → β → Prop}
    {default component : β} {key : String} {entries : List Entry}
    (hmeans : ∀ {node}, means node component → means' node.value component)
    (hascending : entries.Pairwise (·.key < ·.key))
    (hgiven : Given means default (entries.map (·.binding)) key component) :
    SetBy means' default ((lookup key entries).map Toml.Node.value) component := by
  rw [Given, Toml.lookup_reverse_bindings hascending] at hgiven
  cases hlookup : lookup key entries with
  | none => rwa [hlookup] at hgiven
  | some node =>
      rw [hlookup] at hgiven
      exact hmeans hgiven

end Meaning

namespace Settings

variable {entries : List Entry} {settings : Settings}

/-- Each component of settings is the value of its key in a document, or its default where the
key is absent. -/
structure HoldKnownKeys (entries : List Entry) (settings : Settings) : Prop where
  maxOptions : SetBy IsLimit 100 (Toml.valueAt? "options" "max_options" entries)
    settings.options.maxOptions
  maxLineLength : SetBy IsLimit 98 (Toml.valueAt? "options" "max_line_length" entries)
    settings.options.maxLineLength
  kind : SetBy IsKind .process (Toml.valueAt? "runtime" "kind" entries) settings.runtime.kind
  library : SetBy IsPath (Bytes.ofText "lib/liblaunch.so")
    (Toml.valueAt? "runtime" "library" entries) settings.runtime.library
  entry : SetBy IsText "launch" (Toml.valueAt? "runtime" "entry" entries) settings.runtime.entry
  program : SetBy IsPath (Bytes.ofText "jre/bin/java")
    (Toml.valueAt? "runtime" "program" entries) settings.runtime.program
  productName : SetBy IsText "MuWire" (Toml.valueAt? "report" "product_name" entries)
    settings.report.productName
  downloadUrl : SetBy IsText "http://www.java.com/"
    (Toml.valueAt? "report" "download_url" entries) settings.report.downloadUrl

theorem exists_of_bind_eq_ok {α β : Type} {read : Except ShapeError α}
    {next : α → Except ShapeError β} {result : β} (hread : read >>= next = .ok result) :
    ∃ value, read = .ok value ∧ next value = .ok result := by
  cases read with
  | error error => contradiction
  | ok value => exact ⟨value, rfl, hread⟩

theorem holdKnownKeys_of_ofEntries (hentries : Toml.Ordered entries) (hregular : Regular entries)
    (hread : ofEntries entries = .ok settings) : settings.HoldKnownKeys entries := by
  rw [ofEntries_eq hentries hregular] at hread
  obtain ⟨options, hoptions, hread⟩ := exists_of_bind_eq_ok hread
  obtain ⟨report, hreport, hread⟩ := exists_of_bind_eq_ok hread
  obtain ⟨runtime, hruntime, hread⟩ := exists_of_bind_eq_ok hread
  obtain rfl : { options, runtime, report } = settings := Except.ok.inj hread
  have hascending (name : String) := (@Toml.Ordered.tableAt name entries hentries).ascending
  -- what a table binds does not depend on where it stands, so any place will do
  obtain ⟨hmaxOptions, hmaxLineLength⟩ :=
    @Limits.saidBy_of_readTable (.mk [] (.table .header _)) options hoptions
  obtain ⟨hkind, hlibrary, hentry, hprogram⟩ :=
    @RuntimeSettings.saidBy_of_readTable (.mk [] (.table .header _)) runtime hruntime
  obtain ⟨hproductName, hdownloadUrl⟩ :=
    @Messages.saidBy_of_readTable (.mk [] (.table .header _)) report hreport
  exact {
    maxOptions := setBy_of_given isLimit_of_readLimit (hascending _) hmaxOptions
    maxLineLength := setBy_of_given isLimit_of_readLimit (hascending _) hmaxLineLength
    kind := setBy_of_given isKind_of_readKind (hascending _) hkind
    library := setBy_of_given isPath_of_readPath (hascending _) hlibrary
    entry := setBy_of_given isText_of_readText (hascending _) hentry
    program := setBy_of_given isPath_of_readPath (hascending _) hprogram
    productName := setBy_of_given isText_of_readText (hascending _) hproductName
    downloadUrl := setBy_of_given isText_of_readText (hascending _) hdownloadUrl }

end Settings

/-! ## Loading -/

def SettingsTextError.withoutLine : SettingsTextError → SettingsTextError
  | .malformed => .malformed
  | .shape cause _ => .shape cause 0

/-- The error without the path and the line it names. -/
def SettingsError.withoutPlace : SettingsError → SettingsError
  | .unreadable _ error => .unreadable [] error
  | .text _ error => .text [] error.withoutLine
  | .invalid fault => .invalid fault

namespace Settings

variable {host other : Host} {directory place : Path} {first second entries : List Entry}

/-- A host has a settings file in a directory that is a document with these entries. -/
def HasDocument (host : Host) (directory : Path) (entries : List Entry) : Prop :=
  ∃ text, host.content (pathIn directory) = .ok (Utf8.encode text) ∧
    Toml.parse? text = some entries

/-- What becomes of a document once it is read: its settings, if they keep the rules. -/
def judge : Except ShapeError Settings → Except SettingsError Settings
  | .error error => .error (.text [] (.shape error.cause 0))
  | .ok settings => settings.validate.mapError .invalid

theorem HasDocument.ordered (hdocument : HasDocument host directory entries) :
    Toml.Ordered entries := by
  obtain ⟨text, -, hparse⟩ := hdocument
  exact Toml.ordered_of_parse? hparse

theorem mapError_load (hdocument : HasDocument host directory entries) :
    (load host directory).mapError (·.withoutPlace) = judge (ofEntries entries) := by
  obtain ⟨text, hfile, hparse⟩ := hdocument
  have hfound := Host.lookUp_of_content hfile
  have hcontent : host.files.content (pathIn directory) = .ok (Utf8.encode text) := hfile
  simp only [load, loadFrom, readFrom, hfound, hcontent, ofContent, Utf8.decode?_encode, parse,
    hparse]
  cases ofEntries entries with
  | error error => rfl
  | ok settings =>
      simp only [Except.mapError, judge]
      cases settings.validate with
      | error fault => rfl
      | ok settings => rfl

theorem judge_of_alike {read read' : Except ShapeError Settings} (halike : Alike read read') :
    judge read = judge read' := by
  cases halike with
  | ok settings => rfl
  | error hcause => simp only [judge, hcause]

theorem eq_ok_of_judge {read : Except ShapeError Settings} {settings : Settings}
    (hjudge : judge read = .ok settings) : read = .ok settings := by
  cases read with
  | error error => contradiction
  | ok found =>
      cases hfault : found.fault? with
      | none => simpa [judge, validate, hfault, Except.mapError] using hjudge
      | some fault => simp [judge, validate, hfault, Except.mapError] at hjudge

/-- Files that agree on the known keys give the same settings, or the same error but for the
path and the line, whatever other keys and tables they hold.  Settings that are loaded have
the values of the keys that are there and the defaults of those that are not. -/
theorem load_eq_of_agreeOnKnownKeys (hfirst : HasDocument host directory first)
    (hsecond : HasDocument other place second) (hregular : Regular first)
    (hregular' : Regular second) (hagree : AgreeOnKnownKeys first second) :
    (load host directory).mapError (·.withoutPlace) =
        (load other place).mapError (·.withoutPlace) ∧
      ∀ settings, load host directory = .ok settings → settings.HoldKnownKeys first := by
  refine ⟨?_, fun settings hload => ?_⟩
  · rw [mapError_load hfirst, mapError_load hsecond]
    exact judge_of_alike
      (alike_ofEntries hfirst.ordered hsecond.ordered hregular hregular' hagree)
  · have hjudge : judge (ofEntries first) = .ok settings := by
      rw [← mapError_load hfirst, hload]
      rfl
    exact holdKnownKeys_of_ofEntries hfirst.ordered hregular (eq_ok_of_judge hjudge)

/-- The same settings with the sections in another order, other unknown keys, and values
written another way. -/
theorem load_eq_of_rearranged :
    let first := ("[options]\nmax_options = 1_000\nunknown = [1, \x7b a = 2.5 \x7d]\n" ++
      "[runtime]\nkind = \x7b library = \x7b\x7d \x7d\n").toList
    let second := ("[runtime.kind.library]\n[[other]]\n[report]\n" ++
      "[options]\nmax_options = 0x3E8\n").toList
    let settings : Settings :=
      { options := { maxOptions := 1000 }, runtime := { kind := .library } }
    ∃ entries others, Toml.parse? first = some entries ∧ Toml.parse? second = some others ∧
      (Regular entries ∧ Regular others ∧ AgreeOnKnownKeys entries others) ∧
      load (Host.withFile fileName (Utf8.encode first)) [] = .ok settings ∧
      load (Host.withFile fileName (Utf8.encode second)) [] = .ok settings ∧
      settings.HoldKnownKeys entries := by
  intro first second settings
  have hparse : parse first = .ok settings := by decide +kernel
  have hsome : (Toml.parse? first).isSome ∧ (Toml.parse? second).isSome := by decide +kernel
  have hall : ∀ entries ∈ Toml.parse? first, ∀ others ∈ Toml.parse? second,
      Regular entries ∧ Regular others ∧ AgreeOnKnownKeys entries others := by
    decide +kernel
  obtain ⟨entries, hentries⟩ := Option.isSome_iff_exists.mp hsome.1
  obtain ⟨others, hothers⟩ := Option.isSome_iff_exists.mp hsome.2
  have hload : load (Host.withFile fileName (Utf8.encode first)) [] = .ok settings :=
    load_of_content (content_pathIn_withFile _) hparse
  obtain ⟨hregular, hregular', hagree⟩ := hall entries hentries others hothers
  obtain ⟨hsame, hknown⟩ := load_eq_of_agreeOnKnownKeys
    ⟨first, content_pathIn_withFile _, hentries⟩ ⟨second, content_pathIn_withFile _, hothers⟩
    hregular hregular' hagree
  refine ⟨entries, others, hentries, hothers, ⟨hregular, hregular', hagree⟩, hload, ?_,
    hknown settings hload⟩
  cases hother : load (Host.withFile fileName (Utf8.encode second)) [] with
  | ok found =>
      rw [hload, hother] at hsame
      exact hsame.symm
  | error error =>
      rw [hload, hother] at hsame
      contradiction

end Settings

end AppLauncher
