import AppLauncher.Proofs.Options.Budget

/-!
# Bounds on option sets

A set of options that comes from the file keeps within the limits, whatever the
file holds and whatever the limits are.  A read may be longer than a line is
allowed to be, but only by the line end that it loses again.  A line length of
zero counts as one while the content is read; no byte passes the budget then, so
that the option it would allow never arises.
-/

namespace AppLauncher

open Bytes (lf)

/-- What the limits allow a set of options to be. -/
structure OptionSet.Within (limits : Limits) (set : OptionSet) : Prop where
  count : set.size ≤ limits.maxOptions.toNat
  nonempty : ∀ option ∈ set.options, option ≠ []
  bounded : ∀ option ∈ set.options, option.length ≤ limits.maxLineLength.toNat
  unbroken : ∀ option ∈ set.options, lf ∉ option

namespace Options

theorem length_readUpTo_le (width count : Nat) (content : Bytes) :
    (readUpTo width count content).1.length ≤ count := by
  induction count generalizing content with
  | zero => simp [readUpTo]
  | succ count ih =>
      by_cases hne : content = []
      · simp [hne]
      · obtain ⟨read, tail, rfl, hstep⟩ := exists_readStep width content
        rw [readUpTo_succ hstep hne, List.length_cons]
        exact Nat.succ_le_succ (ih tail)

theorem length_optionsOf_le (reads : List Bytes) : (optionsOf reads).length ≤ reads.length := by
  unfold optionsOf
  calc ((reads.map withoutTerminator).filter (· ≠ [])).length
      ≤ (reads.map withoutTerminator).length := List.length_filter_le _ _
    _ = reads.length := List.length_map _

theorem length_parse_options_le (limits : Limits) (content : Bytes) :
    (parse limits content).options.length ≤ limits.maxOptions.toNat := by
  rw [parse_options]
  exact (length_optionsOf_le _).trans (length_readUpTo_le _ _ content)

theorem budget_eq_zero {limits : Limits} (hlength : limits.maxLineLength.toNat = 0) :
    limits.budget = 0 := by
  simp [Limits.budget, hlength]

theorem parseFile_options_eq_nil {limits : Limits} (hlength : limits.maxLineLength.toNat = 0)
    (content : Bytes) : (parseFile limits content).options = [] := by
  rw [parseFile, budget_eq_zero hlength, List.take_zero, parse_options, readUpTo_nil,
    optionsOf_nil]

theorem length_le_of_mem_parseFile {limits : Limits} {content option : Bytes}
    (hoption : option ∈ (parseFile limits content).options) :
    option.length ≤ limits.maxLineLength.toNat := by
  by_cases hlength : 1 ≤ limits.maxLineLength.toNat
  · rw [← Limits.window_eq hlength]
    exact (bounded_of_mem_parse hoption).2.2
  · rw [parseFile_options_eq_nil (by omega)] at hoption
    exact absurd hoption List.not_mem_nil

theorem parseFile_within (limits : Limits) (content : Bytes) :
    OptionSet.Within limits ⟨(parseFile limits content).options, .file⟩ where
  count := length_parse_options_le limits _
  nonempty _ hoption := (bounded_of_mem_parse hoption).1
  bounded _ hoption := length_le_of_mem_parseFile hoption
  unbroken _ hoption := (bounded_of_mem_parse hoption).2.1

end Options

/-- What can be read of a path is the beginning of some content.  For a directory,
which can be read as long as no byte is wanted, this is the empty one. -/
theorem Host.exists_take_of_readAtMost {host : Host} {path : Path} {count : Nat} {bytes : Bytes}
    (hread : host.readAtMost path count = .ok bytes) :
    ∃ content : Bytes, bytes = content.take count := by
  unfold readAtMost at hread
  cases hfind : host.find path with
  | error error => simp [hfind, bind, Except.bind] at hread
  | ok found =>
      obtain ⟨location, node⟩ := found
      simp only [hfind, bind, Except.bind] at hread
      cases node with
      | file body executable => exact ⟨body.content, (Except.ok.inj hread).symm⟩
      | directory entries =>
          by_cases hcount : count = 0
          · rw [if_pos hcount] at hread
            exact ⟨[], by rw [← Except.ok.inj hread, List.take_nil]⟩
          · simp [hcount] at hread
      | link target => simp at hread

namespace OptionsLoader

variable {loader : OptionsLoader} {host : Host}

theorem exists_parseFile_of_source (hsource : (loader.load host).1.source = .file) :
    ∃ content : Bytes,
      (loader.load host).1 = ⟨(Options.parseFile loader.limits content).options, .file⟩ := by
  cases hread : host.files.readAtMost loader.path loader.limits.budget with
  | ok bytes =>
      obtain ⟨content, rfl⟩ := Host.exists_take_of_readAtMost hread
      refine ⟨content, ?_⟩
      simp [load, parseFile?, parseFrom?, hread, Except.map, Except.mapError, Options.parseFile]
  | error error =>
      have hbuiltIn : (loader.load host).1 = loader.variant.builtInOptions := by
        have hparse : loader.parseFile? host = .error (.ofFileError loader.path error) := by
          rw [parseFile?, parseFrom?, hread]
          rfl
        unfold load
        rw [hparse]
        cases OptionsError.ofFileError loader.path error <;> rfl
      rw [hbuiltIn] at hsource
      exact absurd hsource (by simp [Variant.builtInOptions])

theorem load_within (hsource : (loader.load host).1.source = .file) :
    OptionSet.Within loader.limits (loader.load host).1 := by
  obtain ⟨content, hload⟩ := exists_parseFile_of_source hsource
  rw [hload]
  exact Options.parseFile_within loader.limits content

/-- One read is longer than a line may be, one stops before a character, and one
line is too many. -/
theorem load_within_of_long_reads :
    let content := Bytes.ofText "ab\r\nxy\u00e9\nz"
    let loader : OptionsLoader :=
      { directory := [], limits := { maxOptions := 3, maxLineLength := 3 } }
    let host := Host.withOptionsFile content
    (loader.load host).1.source = .file ∧
      (loader.load host).1.options = ["ab", "xy", "\u00e9"].map Bytes.ofText ∧
      OptionSet.Within loader.limits (loader.load host).1 := by
  intro content loader host
  have hload := load_of_content (content_path_withOptionsFile loader.limits content)
  have hsource : (loader.load host).1.source = .file := by rw [hload]
  refine ⟨hsource, ?_, load_within hsource⟩
  rw [hload]
  decide +kernel

end OptionsLoader

end AppLauncher
