import AppLauncher.Proofs.Options.Bounds

/-!
# Progress of reads

A read takes at least one byte and never more than there are, so a content has no
more reads than bytes.  The reads that use a content up do not depend on the limit on
their number: the limit only decides how many of them are taken, and something is left
over exactly when there are more.
-/

namespace AppLauncher.Options

open Bytes (lf cr)

/-! ## The bytes of a read -/

/-- What may be said of the length of a read from the rest of a content, whatever bytes
it is made of. -/
structure ReadBounds (width : Nat) (rest : Bytes) (length : Nat) : Prop where
  positive : 1 ≤ length
  within : length ≤ rest.length
  /-- Counting the bytes of a read stays within a word if those of the rest do. -/
  word : rest.length < UInt64.size → length < UInt64.size
  window : length ≤ width + 1
  straddling : length = width + 1 → rest[width - 1]? = some cr ∧ rest[width]? = some lf
  closing : ∀ position < length, rest[position]? = some lf → position + 1 = length
  /-- A read that is cut short stops at most three bytes before its window ends. -/
  filling : length < rest.length → rest[length - 1]? ≠ some lf → max 1 (width - 3) ≤ length

theorem ReadStep.fits_or_straddles {width : Nat} {read tail : Bytes}
    (hstep : ReadStep width read tail) :
    read.length ≤ width ∨
      ∃ text, read = text ++ [cr, lf] ∧ text.length + 1 = width := by
  cases hstep with
  | line hlf hlength =>
      left
      rw [List.length_append, List.length_singleton]
      omega
  | straddling hlf hlength => exact .inr ⟨_, rfl, hlength⟩
  | last hlf hlength => exact .inl hlength
  | full hlf hlength => exact .inl hlength.le
  | backedOff hread hlf hlength =>
      left
      omega

theorem ReadStep.succ_eq_length_of_lf {width position : Nat} {read tail : Bytes}
    (hstep : ReadStep width read tail) (hposition : read[position]? = some lf) :
    position + 1 = read.length := by
  rcases hstep.closes_or_leaves_open with ⟨text, rfl, hlf, -⟩ | ⟨hlf, -, -⟩
  · have hinside : position < (text ++ [lf]).length :=
      (List.getElem?_eq_some_iff.mp hposition).1
    have hbehind : ¬position < text.length := by
      intro hbefore
      rw [List.getElem?_append_left hbefore] at hposition
      exact hlf (List.mem_of_getElem? hposition)
    rw [List.length_append, List.length_singleton] at hinside ⊢
    omega
  · exact absurd (List.mem_of_getElem? hposition) hlf

/-- Only the end of a line or of the content keeps a read short; backing off gives up
the bytes of one character at most. -/
theorem ReadStep.width_le {width : Nat} {read tail : Bytes}
    (hstep : ReadStep width read tail) (htail : tail ≠ [])
    (hopen : read.getLast? ≠ some lf) : width ≤ read.length + 3 := by
  cases hstep with
  | line => exact absurd List.getLast?_concat hopen
  | straddling => exact absurd (by simp) hopen
  | last => exact absurd rfl htail
  | full hlf hlength => omega
  | backedOff hread hlf hlength hlead htrail hshort => omega

theorem ReadStep.bounds {width : Nat} {read tail : Bytes}
    (hstep : ReadStep width read tail) (hread : read ≠ []) :
    ReadBounds width (read ++ tail) read.length := by
  have hpositive : 0 < read.length := List.length_pos_iff.mpr hread
  have hlast : (read ++ tail)[read.length - 1]? = read.getLast? := by
    rw [List.getElem?_append_left (by omega), List.getLast?_eq_getElem?]
  constructor
  case positive => exact hpositive
  case within => simp
  case word =>
    intro hsize
    rw [List.length_append] at hsize
    omega
  case window =>
    rcases hstep.fits_or_straddles with hfits | ⟨text, rfl, hlength⟩
    · omega
    · simp only [List.length_append, List.length_cons, List.length_nil]
      omega
  case straddling =>
    intro hlonger
    rcases hstep.fits_or_straddles with hfits | ⟨text, rfl, hlength⟩
    · omega
    · subst hlength
      simp
  case closing =>
    intro position hposition hlf
    rw [List.getElem?_append_left hposition] at hlf
    exact hstep.succ_eq_length_of_lf hlf
  case filling =>
    intro hmore hopen
    have htail : tail ≠ [] := by
      rw [← List.length_pos_iff]
      rw [List.length_append] at hmore
      omega
    rw [hlast] at hopen
    have hfilled := hstep.width_le htail hopen
    omega

theorem readLength_bounds {width : Nat} {rest : Bytes} (hwidth : 1 ≤ width)
    (hrest : rest ≠ []) : ReadBounds width rest (readLength width rest) := by
  obtain ⟨read, tail, rfl, hstep⟩ := exists_readStep width rest
  rw [hstep.readLength_eq]
  exact hstep.bounds (hstep.ne_nil hwidth hrest)

/-! ## The reads of a content -/

theorem ReadRun.flatten {width : Nat} {content remainder : Bytes} {reads : List Bytes}
    (hrun : ReadRun width content reads remainder) :
    reads.flatten ++ remainder = content := by
  induction hrun with
  | done rest => rfl
  | read _ _ _ ih => rw [List.flatten_cons, List.append_assoc, ih]

theorem ReadRun.ne_nil_of_mem {width : Nat} {content remainder : Bytes}
    {reads : List Bytes} (hwidth : 1 ≤ width)
    (hrun : ReadRun width content reads remainder) :
    ∀ read ∈ reads, read ≠ [] := by
  induction hrun with
  | done => simp
  | read hne hstep _ ih =>
      intro read hread
      rcases List.mem_cons.mp hread with rfl | hread
      · exact hstep.ne_nil hwidth hne
      · exact ih read hread

theorem remainder_readUpTo {width count : Nat} {content : Bytes} (hwidth : 1 ≤ width)
    (hcount : content.length ≤ count) : (readUpTo width count content).2 = [] := by
  induction count generalizing content with
  | zero => exact List.length_eq_zero_iff.mp (Nat.le_zero.mp hcount)
  | succ count ih =>
      by_cases hne : content = []
      · rw [hne, readUpTo_nil]
      · obtain ⟨read, tail, rfl, hstep⟩ := exists_readStep width content
        have hread : 0 < read.length := List.length_pos_iff.mpr (hstep.ne_nil hwidth hne)
        rw [readUpTo_succ hstep hne]
        rw [List.length_append] at hcount
        exact ih (by omega)

/-- The reads that use a content up.  A window has to hold a byte for that. -/
def allReads (width : Nat) (content : Bytes) : List Bytes :=
  (readUpTo width content.length content).1

theorem readRun_allReads {width : Nat} (hwidth : 1 ≤ width) (content : Bytes) :
    ReadRun width content (allReads width content) [] := by
  have hrun := readRun_readUpTo width content.length content
  rwa [remainder_readUpTo hwidth le_rfl] at hrun

/-- Reads that use a content up are taken as far as the limit on their number goes. -/
theorem ReadRun.readUpTo_eq {width : Nat} {content remainder : Bytes} {reads : List Bytes}
    (hrun : ReadRun width content reads remainder) (hdone : remainder = []) (count : Nat) :
    readUpTo width count content = (reads.take count, (reads.drop count).flatten) := by
  induction hrun generalizing count with
  | done rest =>
      subst rest
      simp
  | @read read tail remainder reads hne hstep hlater ih =>
      cases count with
      | zero =>
          have hflatten := hlater.flatten
          rw [hdone, List.append_nil] at hflatten
          simp [readUpTo, hflatten]
      | succ count =>
          rw [readUpTo_succ hstep hne, ih hdone, List.take_succ_cons, List.drop_succ_cons]

theorem flatten_allReads {width : Nat} (hwidth : 1 ≤ width) (content : Bytes) :
    (allReads width content).flatten = content := by
  have hflatten := (readRun_allReads hwidth content).flatten
  rwa [List.append_nil] at hflatten

theorem length_allReads_le (width : Nat) (content : Bytes) :
    (allReads width content).length ≤ content.length :=
  length_readUpTo_le width content.length content

theorem remainder_readUpTo_eq_nil_iff {width : Nat} (hwidth : 1 ≤ width) (count : Nat)
    (content : Bytes) :
    (readUpTo width count content).2 = [] ↔ (allReads width content).length ≤ count := by
  have hrun := readRun_allReads hwidth content
  rw [hrun.readUpTo_eq rfl count, List.flatten_eq_nil_iff]
  constructor
  · intro hnil
    by_contra hmore
    have hread : (allReads width content)[count] ∈ (allReads width content).drop count :=
      List.mem_drop_iff_getElem.mpr ⟨0, by omega, rfl⟩
    exact hrun.ne_nil_of_mem hwidth _ (List.mem_of_mem_drop hread) (hnil _ hread)
  · intro hcount
    simp [List.drop_of_length_le hcount]

theorem parse_options_eq_take (limits : Limits) (content : Bytes) :
    (parse limits content).options =
      optionsOf ((allReads limits.window content).take limits.maxOptions.toNat) := by
  have hrun := readRun_allReads limits.one_le_window content
  rw [parse_options, hrun.readUpTo_eq rfl]

theorem parse_truncated_iff (limits : Limits) (content : Bytes) :
    (parse limits content).truncated = true ↔
      limits.maxOptions.toNat < (allReads limits.window content).length := by
  have hremainder := remainder_readUpTo_eq_nil_iff limits.one_le_window
    limits.maxOptions.toNat content
  rw [← Bool.not_eq_false, parse_truncated_eq_false_iff, hremainder, not_le]

/-- A read makes progress and stays within its window and the content, and it ends early
for no other reason than the end of a line or the bytes of one character.  Hence a limit
of as many reads as there are bytes takes every byte and leaves nothing over. -/
theorem reads_progress :
    (∀ (width : Nat) (rest : Bytes), 1 ≤ width → rest ≠ [] →
      ReadBounds width rest (readLength width rest)) ∧
    ∀ (limits : Limits) (content : Bytes), content.length ≤ limits.maxOptions.toNat →
      (readUpTo limits.window limits.maxOptions.toNat content).1.flatten = content ∧
        (parse limits content).truncated = false := by
  refine ⟨fun width rest hwidth hrest => readLength_bounds hwidth hrest, ?_⟩
  intro limits content hcount
  have hlength : (allReads limits.window content).length ≤ limits.maxOptions.toNat :=
    (length_allReads_le limits.window content).trans hcount
  constructor
  · rw [(readRun_allReads limits.one_le_window content).readUpTo_eq rfl,
      List.take_of_length_le hlength, flatten_allReads limits.one_le_window]
  · rw [← Bool.not_eq_true, parse_truncated_iff]
    exact not_lt.mpr hlength

/-- A window that misses the last byte of a character, one that ends between the bytes of
a line end, and a content of stray continuation bytes. -/
theorem reads_progress_of_cut_windows :
    let cut := Bytes.ofText "ab😀"
    let parted : Bytes := [97, cr, lf, 98]
    let stray : Bytes := List.replicate 7 0x80
    let limits : Limits := { maxOptions := 7, maxLineLength := 2 }
    (1 ≤ 5 ∧ cut ≠ [] ∧ ReadBounds 5 cut (readLength 5 cut) ∧ readLength 5 cut = 2) ∧
      (1 ≤ 2 ∧ parted ≠ [] ∧ ReadBounds 2 parted (readLength 2 parted) ∧
        readLength 2 parted = 3) ∧
      stray.length ≤ limits.maxOptions.toNat ∧
      (readUpTo limits.window limits.maxOptions.toNat stray).1.flatten = stray ∧
      (parse limits stray).truncated = false := by
  intro cut parted stray limits
  have hcut : cut ≠ [] := by decide +kernel
  have hparted : parted ≠ [] := by decide
  have hcount : stray.length ≤ limits.maxOptions.toNat := by decide
  refine ⟨⟨by decide, hcut, reads_progress.1 5 cut (by decide) hcut, by decide +kernel⟩,
    ⟨by decide, hparted, reads_progress.1 2 parted (by decide) hparted, by decide +kernel⟩,
    hcount, reads_progress.2 limits stray hcount⟩

end AppLauncher.Options
