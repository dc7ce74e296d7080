import AppLauncher.Proofs.Options.Budget

/-!
# Options that can be stored

An options file is written with a line for each option.  Loading it gives the
options back exactly when none is empty, holds a line feed, ends with a carriage
return or is longer than a read.  The options of any content keep all of these
rules but the third; and options that keep the second and the fourth take at most
two reads each, so that neither limit is met and each comes back as the text of
its line.
-/

namespace AppLauncher.Options

open Bytes (lf cr)

/-- The content that holds each option on a line of its own. -/
def stored (options : List Bytes) : Bytes :=
  options.flatMap (· ++ [lf])

@[simp] theorem stored_nil : stored [] = [] :=
  rfl

theorem stored_cons (option : Bytes) (options : List Bytes) :
    stored (option :: options) = option ++ lf :: stored options := by
  simp [stored]

/-- What makes an option come back as it was stored. -/
structure Storable (limit : Nat) (option : Bytes) : Prop where
  nonempty : option ≠ []
  oneLine : lf ∉ option
  notClosing : option.getLast? ≠ some cr
  bounded : option.length ≤ limit

instance (limit : Nat) (option : Bytes) : Decidable (Storable limit option) :=
  decidable_of_iff (option ≠ [] ∧ lf ∉ option ∧ option.getLast? ≠ some cr ∧
      option.length ≤ limit)
    ⟨fun h => ⟨h.1, h.2.1, h.2.2.1, h.2.2.2⟩,
      fun h => ⟨h.nonempty, h.oneLine, h.notClosing, h.bounded⟩⟩

/-! ## Reads of stored options -/

/-- An option that fits in a read takes one read with its line feed, or two when
it fills the window by itself. -/
theorem optionsOf_readUpTo_line {width : Nat} (count : Nat) {option : Bytes} (rest : Bytes)
    (hwidth : 1 ≤ width) (hlf : lf ∉ option) (hlength : option.length ≤ width)
    (hcount : 2 ≤ count) :
    ∃ more, count ≤ more + 2 ∧
      optionsOf (readUpTo width count (option ++ lf :: rest)).1 =
        optionsOf [option ++ [lf]] ++ optionsOf (readUpTo width more rest).1 := by
  obtain ⟨count, rfl⟩ := Nat.exists_eq_add_of_le' hcount
  by_cases hwhole : ReadStep width (option ++ [lf]) rest
  · refine ⟨count + 1, by omega, ?_⟩
    rw [show option ++ lf :: rest = option ++ [lf] ++ rest by simp,
      readUpTo_succ hwhole (by simp), ← optionsOf_cons]
  · -- The read stops behind the option, and the next one takes the line feed alone.
    have hfull : option.length = width := by
      by_contra hne
      exact hwhole (.line hlf (by omega))
    have hcr : option.getLast? ≠ some cr := by
      intro hlast
      obtain ⟨text, rfl⟩ := List.getLast?_eq_some_iff.mp hlast
      apply hwhole
      rw [List.append_assoc, List.singleton_append]
      refine .straddling (fun hmem => hlf (List.mem_append_left [cr] hmem)) ?_
      simpa using hfull
    have hoption : option ≠ [] := by
      rw [← List.length_pos_iff, hfull]
      exact hwidth
    have hfirst : ReadStep width option (lf :: rest) :=
      .full hlf hfull (fun hend => hcr hend.2) (fun hlead => absurd hlead (by decide))
    have hsecond : ReadStep width ([] ++ [lf]) rest := .line List.not_mem_nil hwidth
    have htext : lineText option = option :=
      lineText_of_getLast? (getLast?_ne_of_notMem hlf)
    refine ⟨count, by omega, ?_⟩
    rw [readUpTo_succ hfirst (by simp),
      show lf :: rest = [] ++ [lf] ++ rest from rfl, readUpTo_succ hsecond (by simp),
      optionsOf_cons_of_ne (by rwa [htext]), optionsOf_cons_of_eq_nil (by rfl), htext,
      optionsOf_cons_of_ne (by rwa [lineText_append_lf hcr]), lineText_append_lf hcr]
    rfl

theorem optionsOf_readUpTo_stored {width count : Nat} {options : List Bytes}
    (hwidth : 1 ≤ width) (hcount : 2 * options.length ≤ count)
    (hfits : ∀ option ∈ options, lf ∉ option ∧ option.length ≤ width) :
    optionsOf (readUpTo width count (stored options)).1 =
      optionsOf (options.map (· ++ [lf])) := by
  induction options generalizing count with
  | nil => simp
  | cons option options ih =>
      obtain ⟨hlf, hlength⟩ := hfits option List.mem_cons_self
      rw [List.length_cons] at hcount
      obtain ⟨more, hmore, heq⟩ :=
        optionsOf_readUpTo_line count (stored options) hwidth hlf hlength (by omega)
      have hlater :
          optionsOf (readUpTo width more (stored options)).1 =
            optionsOf (options.map (· ++ [lf])) :=
        ih (by omega) fun later hmem => hfits later (List.mem_cons_of_mem option hmem)
      rw [stored_cons, heq, hlater, List.map_cons,
        optionsOf_cons (option ++ [lf]) (options.map (· ++ [lf]))]

theorem length_stored_le {limit : Nat} {options : List Bytes}
    (hbounded : ∀ option ∈ options, option.length ≤ limit) :
    (stored options).length ≤ options.length * (limit + 1) := by
  have hlines : ∀ line ∈ options.map (· ++ [lf]), line.length ≤ limit + 1 := by
    simpa using hbounded
  have hlength := length_flatten_le hlines
  rwa [List.length_map, ← List.flatMap_def] at hlength

/-- Nothing but a lost carriage return or a lost option can tell the texts of the
lines from what was stored. -/
theorem optionsOf_lines_eq_iff (options : List Bytes) :
    optionsOf (options.map (· ++ [lf])) = options ↔
      ∀ option ∈ options, option ≠ [] ∧ option.getLast? ≠ some cr := by
  induction options with
  | nil => simp
  | cons option options ih =>
      rw [List.map_cons, List.forall_mem_cons]
      by_cases hnil : lineText (option ++ [lf]) = []
      · -- The option is lost, and then there are too few of them.
        have hshort : (optionsOf (options.map (· ++ [lf]))).length ≤ options.length := by
          have hfilter := List.length_filter_le (fun text : Bytes => decide (text ≠ []))
            ((options.map (· ++ [lf])).map withoutTerminator)
          simpa [optionsOf] using hfilter
        rw [optionsOf_cons_of_eq_nil hnil]
        constructor
        · intro heq
          have hlength := congrArg List.length heq
          rw [List.length_cons] at hlength
          omega
        · rintro ⟨⟨hne, hcr⟩, -⟩
          rw [lineText_append_lf hcr] at hnil
          exact absurd hnil hne
      · rw [optionsOf_cons_of_ne hnil, List.cons.injEq, ih]
        apply and_congr_left'
        constructor
        · intro htext
          rw [htext] at hnil
          refine ⟨hnil, fun hcr => ?_⟩
          obtain ⟨front, rfl⟩ := List.getLast?_eq_some_iff.mp hcr
          rw [List.append_assoc, List.singleton_append, lineText_append_crlf] at htext
          simp at htext
        · rintro ⟨-, hcr⟩
          exact lineText_append_lf hcr

end AppLauncher.Options

namespace AppLauncher.OptionsLoader

open Options
open Bytes (lf cr)

variable {loader : OptionsLoader} {host : Host} {options : List Bytes}

/-- Options without line feeds that fit in a read are cut by neither limit. -/
theorem loadFile?_stored (hfile : host.content loader.path = .ok (stored options))
    (hsize : (stored options).length < Nat.pow 2 63)
    (hlength : 1 ≤ loader.limits.maxLineLength.toNat)
    (hcount : 2 * options.length ≤ loader.limits.maxOptions.toNat)
    (hfits : ∀ option ∈ options,
      lf ∉ option ∧ option.length ≤ loader.limits.maxLineLength.toNat) :
    loader.loadFile? host = .ok ⟨optionsOf (options.map (· ++ [lf])), .file⟩ := by
  have hproduct :
      (stored options).length ≤
        loader.limits.maxOptions.toNat * loader.limits.maxLineLength.toNat := by
    calc
      (stored options).length
          ≤ options.length * (loader.limits.maxLineLength.toNat + 1) :=
        length_stored_le fun option hoption => (hfits option hoption).2
      _ ≤ options.length * (2 * loader.limits.maxLineLength.toNat) :=
        Nat.mul_le_mul_left _ (by omega)
      _ = 2 * options.length * loader.limits.maxLineLength.toNat := by
        rw [Nat.mul_left_comm, Nat.mul_assoc]
      _ ≤ loader.limits.maxOptions.toNat * loader.limits.maxLineLength.toNat :=
        Nat.mul_le_mul_right _ hcount
  have hbudget : (stored options).length ≤ loader.limits.budget := by
    refine Nat.le_min.mpr ⟨hproduct, ?_⟩
    have hword : Nat.pow 2 63 ≤ UInt64.size - 1 := by decide
    omega
  rw [loadFile?_of_content hfile, parseFile, List.take_of_length_le hbudget, parse_options]
  rw [← Limits.window_eq hlength] at hfits
  rw [optionsOf_readUpTo_stored loader.limits.one_le_window hcount hfits]

/-- Options that were stored on a line each are loaded as they were exactly when
each of them is storable. -/
theorem loadFile?_stored_eq_iff (hfile : host.content loader.path = .ok (stored options))
    (hsize : (stored options).length < Nat.pow 2 63)
    (hlength : 1 ≤ loader.limits.maxLineLength.toNat)
    (hcount : max 1 (2 * options.length) ≤ loader.limits.maxOptions.toNat) :
    loader.loadFile? host = .ok ⟨options, .file⟩ ↔
      ∀ option ∈ options, Storable loader.limits.maxLineLength.toNat option := by
  have hreads : 2 * options.length ≤ loader.limits.maxOptions.toNat :=
    le_trans (Nat.le_max_right 1 _) hcount
  constructor
  · intro hload
    -- What was loaded keeps the bounds, so the options do as well.
    have hparsed : (parseFile loader.limits (stored options)).options = options := by
      rw [loadFile?_of_content hfile] at hload
      simpa using hload
    have hbounded : ∀ option ∈ options, option ≠ [] ∧ lf ∉ option ∧
        option.length ≤ loader.limits.maxLineLength.toNat := by
      intro option hoption
      rw [← hparsed] at hoption
      have hbounds := bounded_of_mem_parse hoption
      rwa [Limits.window_eq hlength] at hbounds
    have hlines := loadFile?_stored hfile hsize hlength hreads
      fun option hoption => (hbounded option hoption).2
    rw [hload, Except.ok.injEq, OptionSet.mk.injEq] at hlines
    have hends := (optionsOf_lines_eq_iff options).mp hlines.1.symm
    intro option hoption
    obtain ⟨hne, hlf, hfits⟩ := hbounded option hoption
    exact ⟨hne, hlf, (hends option hoption).2, hfits⟩
  · intro hstorable
    rw [loadFile?_stored hfile hsize hlength hreads fun option hoption =>
      ⟨(hstorable option hoption).oneLine, (hstorable option hoption).bounded⟩]
    rw [(optionsOf_lines_eq_iff options).mpr fun option hoption =>
      ⟨(hstorable option hoption).nonempty, (hstorable option hoption).notClosing⟩]

/-- An option that fills a read and so takes two of them, one with a carriage
return inside, and one that is not text. -/
theorem loadFile?_stored_eq_of_full_reads :
    let options : List Bytes := [Bytes.ofText "abc", [97, cr, 98], [0xFF]]
    let loader : OptionsLoader :=
      { directory := [], limits := { maxOptions := 6, maxLineLength := 3 } }
    let host := Host.withOptionsFile (stored options)
    host.content loader.path = .ok (stored options) ∧
      (stored options).length < Nat.pow 2 63 ∧
      1 ≤ loader.limits.maxLineLength.toNat ∧
      max 1 (2 * options.length) ≤ loader.limits.maxOptions.toNat ∧
      loader.loadFile? host = .ok ⟨options, .file⟩ := by
  intro options loader host
  have hfile : host.content loader.path = .ok (stored options) :=
    content_path_withOptionsFile loader.limits (stored options)
  have hsize : (stored options).length < Nat.pow 2 63 := by decide +kernel
  have hlength : 1 ≤ loader.limits.maxLineLength.toNat := by decide
  have hcount : max 1 (2 * options.length) ≤ loader.limits.maxOptions.toNat := by decide
  have hstorable : ∀ option ∈ options, Storable loader.limits.maxLineLength.toNat option := by
    decide +kernel
  exact ⟨hfile, hsize, hlength, hcount,
    (loadFile?_stored_eq_iff hfile hsize hlength hcount).mpr hstorable⟩

end AppLauncher.OptionsLoader
