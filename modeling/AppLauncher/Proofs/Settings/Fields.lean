import Mathlib.Data.List.Induction
import AppLauncher.Settings.Shape

/-!
# Where settings come from

Every field of the settings in a document is what the document binds to its key, and has
its default exactly where the document leaves the key out.  A section binds keys by its
entries, or as an array by the order of its items; a date or time binds none.
-/

namespace AppLauncher

open Toml (Entry)

/-! ## Bindings -/

abbrev Bindings := List (String × Toml.Node)

def Toml.Entry.binding (entry : Entry) : String × Toml.Node :=
  (entry.key, entry.node)

/-- What a section binds, if its fields have these keys. -/
def sectionBindings (keys : List String) : Toml.Value → Bindings
  | .table _ entries => entries.map (·.binding)
  | .array items => keys.zip items
  | .grown items => keys.zip items.reverse
  | _ => []

/-- A value is one that a key is bound to, by the last of its bindings, or the default
where the key is left out. -/
def Given {β : Type} (means : Toml.Node → β → Prop) (default : β) (bindings : Bindings)
    (key : String) (value : β) : Prop :=
  match bindings.reverse.lookup key with
  | some node => means node value
  | none => value = default

def Limits.SaidBy (node : Toml.Node) (limits : Limits) : Prop :=
  let bindings := sectionBindings ["max_options", "max_line_length"] node.value
  Given (readLimit · = .ok ·) 100 bindings "max_options" limits.maxOptions ∧
    Given (readLimit · = .ok ·) 98 bindings "max_line_length" limits.maxLineLength

def RuntimeSettings.SaidBy (node : Toml.Node) (runtime : RuntimeSettings) : Prop :=
  let bindings := sectionBindings ["kind", "library", "entry", "program"] node.value
  Given (readKind · = .ok ·) .process bindings "kind" runtime.kind ∧
    Given (readPath · = .ok ·) (Bytes.ofText "lib/liblaunch.so") bindings "library"
      runtime.library ∧
    Given (readText .text · = .ok ·) "launch" bindings "entry" runtime.entry ∧
    Given (readPath · = .ok ·) (Bytes.ofText "jre/bin/java") bindings "program" runtime.program

def Messages.SaidBy (node : Toml.Node) (messages : Messages) : Prop :=
  let bindings := sectionBindings ["product_name", "download_url"] node.value
  Given (readText .text · = .ok ·) "MuWire" bindings "product_name" messages.productName ∧
    Given (readText .text · = .ok ·) "http://www.java.com/" bindings "download_url"
      messages.downloadUrl

/-- The settings are those of a document, section by section. -/
def Settings.SaidBy (entries : List Entry) (settings : Settings) : Prop :=
  let bindings := entries.map (·.binding)
  Given Limits.SaidBy {} bindings "options" settings.options ∧
    Given RuntimeSettings.SaidBy {} bindings "runtime" settings.runtime ∧
    Given Messages.SaidBy {} bindings "report" settings.report

/-! ## Reading a component -/

section Reading

variable {α β ι : Type} {key : String} {get : α → β} {means : Toml.Node → β → Prop}

/-- What reading a binding does with a component: it is set by the binding of its key and
kept by any other. -/
def ReadsInto (key : String) (get : α → β) (means : Toml.Node → β → Prop)
    (binding : String × Toml.Node) (known known' : α) : Prop :=
  binding.1 = key ∧ means binding.2 (get known') ∨ binding.1 ≠ key ∧ get known' = get known

theorem Given.concat {bindings : Bindings} {binding : String × Toml.Node} {default : β}
    {known known' : α} (hgiven : Given means default bindings key (get known))
    (hreads : ReadsInto key get means binding known known') :
    Given means default (bindings ++ [binding]) key (get known') := by
  obtain ⟨name, node⟩ := binding
  unfold Given at hgiven ⊢
  rw [List.reverse_append, List.reverse_singleton, List.singleton_append, List.lookup_cons]
  rcases hreads with ⟨hkey, hmeans⟩ | ⟨hkey, hkept⟩
  · rw [beq_iff_eq.mpr hkey.symm]
    exact hmeans
  · rw [beq_false_of_ne (Ne.symm hkey), hkept]
    exact hgiven

theorem given_of_foldlM {step : α → ι → Except ShapeError α} {binding : ι → String × Toml.Node}
    {items : List ι} {known result : α}
    (hstep : ∀ item ∈ items, ∀ known known', step known item = .ok known' →
      ReadsInto key get means (binding item) known known')
    (hread : items.foldlM step known = .ok result) :
    Given means (get known) (items.map binding) key (get result) := by
  -- from the end, since the last binding of a key is the one that counts
  induction items using List.reverseRecOn generalizing result with
  | nil =>
      obtain rfl : known = result := Except.ok.inj hread
      rfl
  | append_singleton items item ih =>
      rw [List.foldlM_append] at hread
      cases hearlier : items.foldlM step known with
      | error error =>
          rw [hearlier] at hread
          exact absurd hread (by simp [bind, Except.bind])
      | ok middle =>
          rw [hearlier] at hread
          have hitem : step middle item = .ok result := by
            rwa [← bind_pure (step middle item)]
          have hgiven := ih (fun item hmem => hstep item (List.mem_append_left _ hmem)) hearlier
          have hreads := hstep item (List.mem_append_right _ List.mem_cons_self) middle result hitem
          rw [List.map_append, List.map_singleton]
          exact hgiven.concat hreads

/-- A component that a field with this key sets and the other fields leave alone. -/
structure Tracks (fields : List (Field α)) (key : String) (get : α → β)
    (means : Toml.Node → β → Prop) : Prop where
  listed : ∃ field ∈ fields, field.key = key
  reads : ∀ field ∈ fields, ∀ node known known', field.read node known = .ok known' →
    ReadsInto key get means (field.key, node) known known'

variable {fields : List (Field α)} {known result : α}

theorem Tracks.readsInto_of_readEntry (tracks : Tracks fields key get means) {entry : Entry}
    (hread : readEntry fields known entry = .ok result) :
    ReadsInto key get means entry.binding known result := by
  unfold readEntry at hread
  cases hfind : fields.find? (·.key = entry.key) with
  | some field =>
      have hkey : field.key = entry.key := by simpa using List.find?_some hfind
      rw [hfind] at hread
      have hreads := tracks.reads field (List.mem_of_find?_eq_some hfind) _ _ _ hread
      rwa [hkey] at hreads
  | none =>
      have hother : entry.key ≠ key := by
        obtain ⟨field, hmem, rfl⟩ := tracks.listed
        have hnone := List.find?_eq_none.mp hfind field hmem
        simpa using Ne.symm (by simpa using hnone)
      rw [hfind] at hread
      refine .inr ⟨hother, ?_⟩
      cases hpass : passOver entry.node with
      | error error => simp [hpass, Except.map] at hread
      | ok =>
          rw [hpass] at hread
          rw [← Except.ok.inj hread]

theorem Tracks.given_of_readEntries (tracks : Tracks fields key get means) {entries : List Entry}
    (hread : readEntries fields known entries = .ok result) :
    Given means (get known) (entries.map (·.binding)) key (get result) :=
  given_of_foldlM (fun _ _ _ _ hentry => tracks.readsInto_of_readEntry hentry) hread

theorem Tracks.given_of_readItems (tracks : Tracks fields key get means)
    {items : List Toml.Node} (hread : readItems fields known items = .ok result) :
    Given means (get known) ((fields.map (·.key)).zip items) key (get result) := by
  have hzip : (fields.map (·.key)).zip items =
      (fields.zip items).map fun item => (item.1.key, item.2) := List.zip_map_left ..
  rw [hzip]
  refine given_of_foldlM (fun item hmem known known' hitem => ?_) hread
  exact tracks.reads item.1 (List.of_mem_zip hmem).1 item.2 known known' hitem

/-- Whatever form a section has, its components are given by what it binds. -/
theorem Tracks.given_of_readTable (tracks : Tracks fields key get means) {expected : Expected}
    {node : Toml.Node} (hread : readTable expected fields known node = .ok result) :
    Given means (get known) (sectionBindings (fields.map (·.key)) node.value) key (get result) := by
  unfold readTable at hread
  cases hvalue : node.value with
  | table origin entries =>
      simp only [hvalue] at hread
      exact tracks.given_of_readEntries hread
  | array items =>
      simp only [hvalue] at hread
      exact tracks.given_of_readItems hread
  | grown items =>
      simp only [hvalue] at hread
      exact tracks.given_of_readItems hread
  | moment =>
      simp only [hvalue, Except.ok.injEq] at hread
      exact (congrArg get hread).symm
  | string | integer | float | boolean => simp [hvalue, refuse] at hread

end Reading

/-! ## The fields of settings -/

section Setting

variable {α β : Type} {key : String} {read : Toml.Node → Except ShapeError β}
  {set : β → α → α} {node : Toml.Node} {known known' : α}

@[simp] theorem Field.key_setting : (Field.setting key read set).key = key :=
  rfl

@[simp] theorem Field.read_setting_eq_ok_iff :
    (Field.setting key read set).read node known = .ok known' ↔
      ∃ value, read node = .ok value ∧ set value known = known' := by
  simp only [Field.setting]
  cases read node with
  | error error => simp [Except.map]
  | ok value => simp [Except.map]

end Setting

theorem Limits.saidBy_of_readTable {node : Toml.Node} {limits : Limits}
    (hread : readTable .optionsTable fields {} node = .ok limits) : limits.SaidBy node := by
  have hoptions : Tracks fields "max_options" (·.maxOptions) (readLimit · = .ok ·) :=
    ⟨by simp [fields], by simp [fields, ReadsInto]⟩
  have hlength : Tracks fields "max_line_length" (·.maxLineLength) (readLimit · = .ok ·) :=
    ⟨by simp [fields], by simp [fields, ReadsInto]⟩
  exact ⟨hoptions.given_of_readTable hread, hlength.given_of_readTable hread⟩

theorem RuntimeSettings.saidBy_of_readTable {node : Toml.Node} {runtime : RuntimeSettings}
    (hread : readTable .runtimeTable fields {} node = .ok runtime) : runtime.SaidBy node := by
  have hkind : Tracks fields "kind" (·.kind) (readKind · = .ok ·) :=
    ⟨by simp [fields], by simp [fields, ReadsInto]⟩
  have hlibrary : Tracks fields "library" (·.library) (readPath · = .ok ·) :=
    ⟨by simp [fields], by simp [fields, ReadsInto]⟩
  have hentry : Tracks fields "entry" (·.entry) (readText .text · = .ok ·) :=
    ⟨by simp [fields], by simp [fields, ReadsInto]⟩
  have hprogram : Tracks fields "program" (·.program) (readPath · = .ok ·) :=
    ⟨by simp [fields], by simp [fields, ReadsInto]⟩
  exact ⟨hkind.given_of_readTable hread, hlibrary.given_of_readTable hread,
    hentry.given_of_readTable hread, hprogram.given_of_readTable hread⟩

theorem Messages.saidBy_of_readTable {node : Toml.Node} {messages : Messages}
    (hread : readTable .reportTable fields {} node = .ok messages) : messages.SaidBy node := by
  have hname : Tracks fields "product_name" (·.productName) (readText .text · = .ok ·) :=
    ⟨by simp [fields], by simp [fields, ReadsInto]⟩
  have hurl : Tracks fields "download_url" (·.downloadUrl) (readText .text · = .ok ·) :=
    ⟨by simp [fields], by simp [fields, ReadsInto]⟩
  exact ⟨hname.given_of_readTable hread, hurl.given_of_readTable hread⟩

/-- Settings that could be read from a document are those of the document. -/
theorem Settings.saidBy_of_ofEntries {entries : List Entry} {settings : Settings}
    (hread : ofEntries entries = .ok settings) : settings.SaidBy entries := by
  have hoptions : Tracks fields "options" (·.options) Limits.SaidBy :=
    ⟨by simp [fields], by
      simpa [fields, ReadsInto] using fun _ (_ : Settings) _ => Limits.saidBy_of_readTable⟩
  have hruntime : Tracks fields "runtime" (·.runtime) RuntimeSettings.SaidBy :=
    ⟨by simp [fields], by
      simpa [fields, ReadsInto] using fun _ (_ : Settings) _ => RuntimeSettings.saidBy_of_readTable⟩
  have hreport : Tracks fields "report" (·.report) Messages.SaidBy :=
    ⟨by simp [fields], by
      simpa [fields, ReadsInto] using fun _ (_ : Settings) _ => Messages.saidBy_of_readTable⟩
  exact ⟨hoptions.given_of_readEntries hread, hruntime.given_of_readEntries hread,
    hreport.given_of_readEntries hread⟩

end AppLauncher
