import AppLauncher.Proofs.Options.Budget

/-!
# Contents within the limits

A content of no more lines than there may be reads, each short enough for one read, is
read line by line: its options are the texts of its lines, empty ones left out.  A line
end counts as one byte of a read, because a read that ends on the carriage return takes
the line feed along.  The budget of a file counts both bytes, so a file is sure to be
read like this only if its lines are short enough with both of them.
-/

namespace AppLauncher.Options

open Bytes (lf cr)

/-- The lines of a content are few enough, and each is short enough for one read. -/
structure WithinLimits (limits : Limits) (content : Bytes) : Prop where
  count : (physicalLines content).length ≤ limits.maxOptions.toNat
  terminated : ∀ line ∈ physicalLines content, line.getLast? = some lf →
    (lineText line).length + 1 ≤ limits.maxLineLength.toNat
  unterminated : ∀ line ∈ physicalLines content, line.getLast? ≠ some lf →
    line.length ≤ limits.maxLineLength.toNat

instance (limits : Limits) (content : Bytes) : Decidable (WithinLimits limits content) :=
  decidable_of_iff
    ((physicalLines content).length ≤ limits.maxOptions.toNat ∧
      (∀ line ∈ physicalLines content, line.getLast? = some lf →
        (lineText line).length + 1 ≤ limits.maxLineLength.toNat) ∧
      ∀ line ∈ physicalLines content, line.getLast? ≠ some lf →
        line.length ≤ limits.maxLineLength.toNat)
    ⟨fun h => ⟨h.1, h.2.1, h.2.2⟩, fun h => ⟨h.count, h.terminated, h.unterminated⟩⟩

/-! ## One read a line -/

/-- A read takes a line whose text leaves room for one more byte. -/
theorem readStep_of_lineText {width : Nat} {text : Bytes} (tail : Bytes) (hlf : lf ∉ text)
    (hlength : (lineText (text ++ [lf])).length + 1 ≤ width) :
    ReadStep width (text ++ [lf]) tail := by
  by_cases hcr : text.getLast? = some cr
  · obtain ⟨front, rfl⟩ := List.getLast?_eq_some_iff.mp hcr
    rw [List.append_assoc, List.singleton_append, lineText_append_crlf] at hlength
    -- The carriage return fills the window or leaves room for the line feed.
    by_cases hfull : front.length + 1 = width
    · rw [List.append_assoc, List.singleton_append]
      exact .straddling (fun hmem => hlf (List.mem_append_left [cr] hmem)) hfull
    · refine .line hlf ?_
      rw [List.length_append, List.length_singleton]
      omega
  · rw [lineText_append_lf hcr] at hlength
    exact .line hlf hlength

theorem readUpTo_eq_physicalLines {width count : Nat} {content : Bytes}
    (hcount : (physicalLines content).length ≤ count)
    (hterminated : ∀ line ∈ physicalLines content, line.getLast? = some lf →
      (lineText line).length + 1 ≤ width)
    (hunterminated : ∀ line ∈ physicalLines content, line.getLast? ≠ some lf →
      line.length ≤ width) :
    readUpTo width count content = (physicalLines content, []) := by
  induction count generalizing content with
  | zero =>
      have hnone : physicalLines content = [] := List.length_eq_zero_iff.mp (by omega)
      rw [physicalLines_eq_nil hnone]
      rfl
  | succ count ih =>
      by_cases hlf : lf ∈ content
      · obtain ⟨text, tail, rfl, htext⟩ := List.eq_append_cons_of_mem hlf
        rw [physicalLines_append_lf htext] at hcount hterminated hunterminated ⊢
        have hstep : ReadStep width (text ++ [lf]) tail := readStep_of_lineText tail htext
          (hterminated _ List.mem_cons_self List.getLast?_concat)
        have hlater := ih (Nat.le_of_succ_le_succ hcount)
          (fun line hline => hterminated line (List.mem_cons_of_mem _ hline))
          (fun line hline => hunterminated line (List.mem_cons_of_mem _ hline))
        rw [← List.singleton_append, ← List.append_assoc, readUpTo_succ hstep (by simp), hlater]
      · by_cases hne : content = []
        · subst hne
          rfl
        · rw [physicalLines_of_notMem hne hlf] at hunterminated ⊢
          have hstep : ReadStep width content [] := .last hlf
            (hunterminated content List.mem_cons_self (getLast?_ne_of_notMem hlf))
          have hread := readUpTo_succ hstep (by simpa using hne) count
          rwa [List.append_nil, readUpTo_nil] at hread

theorem optionsOf_eq_filter_lineText (reads : List Bytes) :
    optionsOf reads = (reads.map lineText).filter (· ≠ []) := by
  rw [optionsOf, show withoutTerminator = lineText from funext withoutTerminator_eq_lineText]

variable {limits : Limits} {content : Bytes}

theorem parse_eq_of_withinLimits (hwithin : WithinLimits limits content) :
    parse limits content =
      ⟨((physicalLines content).map lineText).filter (· ≠ []), false⟩ := by
  have hwindow : limits.maxLineLength.toNat ≤ limits.window := Nat.le_max_left _ _
  have hreads : readUpTo limits.window limits.maxOptions.toNat content =
      (physicalLines content, []) :=
    readUpTo_eq_physicalLines hwithin.count
      (fun line hline hlast => (hwithin.terminated line hline hlast).trans hwindow)
      (fun line hline hlast => (hwithin.unterminated line hline hlast).trans hwindow)
  rw [← optionsOf_eq_filter_lineText]
  simp only [parse, hreads, optionsOf, ne_eq, not_true_eq_false, decide_false]

/-! ## The budget -/

theorem length_le_budget (hcount : (physicalLines content).length ≤ limits.maxOptions.toNat)
    (hbounded : ∀ line ∈ physicalLines content, line.length ≤ limits.maxLineLength.toNat)
    (hsize : content.length < UInt64.size) : content.length ≤ limits.budget := by
  refine Nat.le_min.mpr ⟨?_, Nat.le_sub_one_of_lt hsize⟩
  calc
    content.length = (physicalLines content).flatten.length := by rw [flatten_physicalLines]
    _ ≤ (physicalLines content).length * limits.maxLineLength.toNat := length_flatten_le hbounded
    _ ≤ limits.maxOptions.toNat * limits.maxLineLength.toNat := Nat.mul_le_mul_right _ hcount

end AppLauncher.Options

namespace AppLauncher.OptionsLoader

open Options

variable {limits : Limits} {content : Bytes}

/-- A content within the limits is read exactly: each line with a text gives it as one
option, and nothing is left over.  So is a file of that content if its lines are short
enough with both bytes of their line ends; that its size fits in a word is true of every
file. -/
theorem parse_and_load_of_withinLimits (hwithin : WithinLimits limits content) :
    parse limits content =
        ⟨((physicalLines content).map lineText).filter (· ≠ []), false⟩ ∧
      ((∀ line ∈ physicalLines content, line.length ≤ limits.maxLineLength.toNat) →
        content.length < UInt64.size →
        ∀ (loader : OptionsLoader) (host : Host), loader.limits = limits →
          host.content loader.path = .ok content →
            loader.loadFile? host = .ok ⟨(parse limits content).options, .file⟩ ∧
            loader.load host = (⟨(parse limits content).options, .file⟩, [])) := by
  have hparse := parse_eq_of_withinLimits hwithin
  refine ⟨hparse, ?_⟩
  rintro hbounded hsize loader host rfl hfile
  have hwhole : parseFile loader.limits content = parse loader.limits content := by
    rw [parseFile, List.take_of_length_le (length_le_budget hwithin.count hbounded hsize)]
  have hload := loadFile?_of_content hfile
  have hloadOr := load_of_content hfile
  rw [hwhole] at hload hloadOr
  refine ⟨hload, ?_⟩
  rw [hloadOr, hparse]
  rfl

/-- Lines that fill a read up to the last byte, with a carriage return at the end of the
window, with characters of several bytes, and empty ones; the file has no more of them
than it may have. -/
theorem parse_and_load_of_full_lines :
    let limits : Limits := { maxOptions := 4, maxLineLength := 4 }
    let wide := Bytes.ofText "xé\r\n\nabc\néé"
    let narrow := Bytes.ofText "é\r\n\r\nabc\nabcd"
    let loader : OptionsLoader := { directory := [], limits }
    let host := Host.withOptionsFile narrow
    WithinLimits limits wide ∧
      parse limits wide = ⟨["xé", "abc", "éé"].map Bytes.ofText, false⟩ ∧
      WithinLimits limits narrow ∧
      (∀ line ∈ physicalLines narrow, line.length ≤ limits.maxLineLength.toNat) ∧
      narrow.length < UInt64.size ∧
      host.content loader.path = .ok narrow ∧
      loader.load host = (⟨["é", "abc", "abcd"].map Bytes.ofText, .file⟩, []) := by
  intro limits wide narrow loader host
  have hwide : WithinLimits limits wide := by decide +kernel
  have hnarrow : WithinLimits limits narrow := by decide +kernel
  have hbounded : ∀ line ∈ physicalLines narrow, line.length ≤ limits.maxLineLength.toNat := by
    decide +kernel
  have hsize : narrow.length < UInt64.size := by decide +kernel
  have hfile : host.content loader.path = .ok narrow :=
    content_path_withOptionsFile limits narrow
  obtain ⟨hparse, hfiles⟩ := parse_and_load_of_withinLimits hnarrow
  obtain ⟨-, hload⟩ := hfiles hbounded hsize loader host rfl hfile
  refine ⟨hwide, ?_, hnarrow, hbounded, hsize, hfile, ?_⟩
  · rw [(parse_and_load_of_withinLimits hwide).1]
    decide +kernel
  · rw [hload, hparse]
    decide +kernel

end AppLauncher.OptionsLoader
