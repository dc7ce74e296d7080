import AppLauncher.Proofs.Options.ReadStep
import Mathlib.Data.List.Forall2

/-!
# Lines and their fragments

A content is cut into its lines, and a line has a text: what stands before its
line end.  As long as the limit on reads is not reached, the options are the
texts of the lines in order, each in non-empty fragments that fit in a read.
The reads only ever meet one end of a line at a time, so the induction over a
run carries the fragments of the line that is still open.
-/

namespace AppLauncher.Options

open Bytes (lf cr)

/-- The lines of a content, each with the line feed that ends it.  The last one
may lack it. -/
def physicalLines : Bytes → List Bytes
  | [] => []
  | byte :: rest =>
    if byte = lf then
      [byte] :: physicalLines rest
    else
      match physicalLines rest with
      | [] => [[byte]]
      | line :: lines => (byte :: line) :: lines

/-- A line without its line end: a line feed, or a carriage return and a line
feed. -/
def lineText (line : Bytes) : Bytes :=
  if [cr, lf] <:+ line then line.take (line.length - 2)
  else if [lf] <:+ line then line.take (line.length - 1)
  else line

/-- A content without its line ends: each line feed goes, together with a
carriage return right before it. -/
def withoutLineEnds : Bytes → Bytes
  | [] => []
  | byte :: rest =>
    if byte = lf ∨ (byte = cr ∧ rest.head? = some lf) then withoutLineEnds rest
    else byte :: withoutLineEnds rest

/-- Pieces of the text of a line, none of them empty or longer than a limit. -/
structure Fragments (limit : Nat) (line : Bytes) (pieces : List Bytes) : Prop where
  joined : pieces.flatten = lineText line
  nonempty : ∀ piece ∈ pieces, piece ≠ []
  bounded : ∀ piece ∈ pieces, piece.length ≤ limit

/-! ## The text of a line -/

theorem lineText_append_crlf (text : Bytes) : lineText (text ++ [cr, lf]) = text := by
  unfold lineText
  rw [if_pos (List.suffix_append text [cr, lf])]
  simp

theorem lineText_append_lf {text : Bytes} (hcr : text.getLast? ≠ some cr) :
    lineText (text ++ [lf]) = text := by
  have hcrlf : ¬[cr, lf] <:+ text ++ [lf] := by
    rintro ⟨front, hfront⟩
    rw [show front ++ [cr, lf] = front ++ [cr] ++ [lf] by simp] at hfront
    have htext : front ++ [cr] = text := List.append_cancel_right hfront
    exact hcr (by rw [← htext, List.getLast?_concat])
  unfold lineText
  rw [if_neg hcrlf, if_pos (List.suffix_append text [lf])]
  simp

theorem lineText_of_getLast? {line : Bytes} (hlf : line.getLast? ≠ some lf) :
    lineText line = line := by
  have hsingle : ¬[lf] <:+ line := by
    rintro ⟨front, rfl⟩
    exact hlf (List.getLast?_concat ..)
  have hcrlf : ¬[cr, lf] <:+ line := by
    intro hsuffix
    exact hsingle ((List.suffix_cons cr [lf]).trans hsuffix)
  unfold lineText
  rw [if_neg hcrlf, if_neg hsingle]

theorem getLast?_ne_of_notMem {line : Bytes} (hlf : lf ∉ line) :
    line.getLast? ≠ some lf :=
  fun hlast => hlf (List.mem_of_getLast? hlast)

theorem lineEnd_cases (line : Bytes) :
    (∃ text, line = text ++ [cr, lf]) ∨
      (∃ text, line = text ++ [lf] ∧ text.getLast? ≠ some cr) ∨
      line.getLast? ≠ some lf := by
  by_cases hlf : line.getLast? = some lf
  · obtain ⟨text, rfl⟩ := List.getLast?_eq_some_iff.mp hlf
    by_cases hcr : text.getLast? = some cr
    · obtain ⟨front, rfl⟩ := List.getLast?_eq_some_iff.mp hcr
      exact .inl ⟨front, by simp⟩
    · exact .inr (.inl ⟨text, rfl, hcr⟩)
  · exact .inr (.inr hlf)

theorem withoutTerminator_eq_lineText (read : Bytes) :
    withoutTerminator read = lineText read := by
  rcases lineEnd_cases read with ⟨text, rfl⟩ | ⟨text, rfl, hcr⟩ | hlf
  · rw [lineText_append_crlf]
    simp [withoutTerminator]
  · rw [lineText_append_lf hcr]
    cases hreverse : text.reverse with
    | nil => simp_all [withoutTerminator]
    | cons previous head =>
        have htext : text = head.reverse ++ [previous] := by
          rw [← List.reverse_inj, hreverse]
          simp
        have hne : previous ≠ cr := by
          rintro rfl
          exact hcr (by rw [htext, List.getLast?_concat])
        simp [withoutTerminator, hne, htext]
  · rw [lineText_of_getLast? hlf]
    cases hreverse : read.reverse with
    | nil => simp [withoutTerminator, hreverse]
    | cons last before =>
        have hlast : read.getLast? = some last := by
          rw [← List.head?_reverse, hreverse, List.head?_cons]
        have hne : last ≠ lf := by
          rintro rfl
          exact hlf hlast
        simp [withoutTerminator, hreverse, hne]

/-- Bytes put before a line stay before its text, as long as they do not make
a carriage return part of the line end. -/
theorem lineText_append {front line : Bytes} (hline : line ≠ [])
    (hcr : front.getLast? = some cr → line.head? ≠ some lf) :
    lineText (front ++ line) = front ++ lineText line := by
  rcases lineEnd_cases line with ⟨text, rfl⟩ | ⟨text, rfl, htext⟩ | hlf
  · rw [← List.append_assoc, lineText_append_crlf, lineText_append_crlf]
  · have hlast : (front ++ text).getLast? ≠ some cr := by
      cases text with
      | nil =>
          intro hfront
          rw [List.append_nil] at hfront
          exact hcr hfront rfl
      | cons byte text =>
          rwa [List.getLast?_append_of_ne_nil front (List.cons_ne_nil byte text)]
    rw [← List.append_assoc, lineText_append_lf hlast, lineText_append_lf htext]
  · have hlast : (front ++ line).getLast? ≠ some lf := by
      rwa [List.getLast?_append_of_ne_nil front hline]
    rw [lineText_of_getLast? hlast, lineText_of_getLast? hlf]

/-! ## The options of reads -/

@[simp] theorem optionsOf_nil : optionsOf [] = [] :=
  rfl

theorem optionsOf_cons_of_ne {read : Bytes} (hne : lineText read ≠ [])
    (reads : List Bytes) :
    optionsOf (read :: reads) = lineText read :: optionsOf reads := by
  simp [optionsOf, withoutTerminator_eq_lineText, hne]

theorem optionsOf_cons_of_eq_nil {read : Bytes} (hnil : lineText read = [])
    (reads : List Bytes) :
    optionsOf (read :: reads) = optionsOf reads := by
  simp [optionsOf, withoutTerminator_eq_lineText, hnil]

theorem optionsOf_append (reads later : List Bytes) :
    optionsOf (reads ++ later) = optionsOf reads ++ optionsOf later := by
  simp [optionsOf]

theorem optionsOf_cons (read : Bytes) (reads : List Bytes) :
    optionsOf (read :: reads) = optionsOf [read] ++ optionsOf reads :=
  optionsOf_append [read] reads

/-! ## The lines of a content -/

theorem flatten_physicalLines (content : Bytes) :
    (physicalLines content).flatten = content := by
  induction content with
  | nil => rfl
  | cons byte rest ih =>
      simp only [physicalLines]
      split
      · rw [List.flatten_cons, ih, List.singleton_append]
      · cases hlines : physicalLines rest with
        | nil =>
            rw [hlines] at ih
            rw [← ih]
            rfl
        | cons line lines =>
            rw [hlines] at ih
            rw [← ih]
            rfl

theorem length_flatten_le {limit : Nat} {lines : List Bytes}
    (hbounded : ∀ line ∈ lines, line.length ≤ limit) :
    lines.flatten.length ≤ lines.length * limit := by
  induction lines with
  | nil => simp
  | cons line lines ih =>
      have hline := hbounded line List.mem_cons_self
      have hlater := ih fun other hother => hbounded other (List.mem_cons_of_mem line hother)
      rw [List.flatten_cons, List.length_append, List.length_cons, Nat.succ_mul]
      omega

theorem physicalLines_append_lf {text : Bytes} (hlf : lf ∉ text) (tail : Bytes) :
    physicalLines (text ++ lf :: tail) = (text ++ [lf]) :: physicalLines tail := by
  induction text with
  | nil => simp [physicalLines]
  | cons byte text ih =>
      simp only [List.mem_cons, not_or] at hlf
      simp only [List.cons_append, physicalLines, if_neg (Ne.symm hlf.1), ih hlf.2]

theorem physicalLines_of_notMem {text : Bytes} (hne : text ≠ []) (hlf : lf ∉ text) :
    physicalLines text = [text] := by
  induction text with
  | nil => exact absurd rfl hne
  | cons byte text ih =>
      simp only [List.mem_cons, not_or] at hlf
      simp only [physicalLines, if_neg (Ne.symm hlf.1)]
      cases text with
      | nil => rfl
      | cons next text => rw [ih (List.cons_ne_nil next text) hlf.2]

theorem physicalLines_append {front tail line : Bytes} {lines : List Bytes}
    (hlf : lf ∉ front) (htail : physicalLines tail = line :: lines) :
    physicalLines (front ++ tail) = (front ++ line) :: lines := by
  induction front with
  | nil => exact htail
  | cons byte front ih =>
      simp only [List.mem_cons, not_or] at hlf
      simp only [List.cons_append, physicalLines, if_neg (Ne.symm hlf.1), ih hlf.2]

theorem physicalLines_eq_nil {content : Bytes} (h : physicalLines content = []) :
    content = [] := by
  cases content with
  | nil => rfl
  | cons byte rest =>
      simp only [physicalLines] at h
      split at h
      · simp at h
      · split at h <;> simp at h

theorem head?_of_physicalLines {content line : Bytes} {lines : List Bytes}
    (h : physicalLines content = line :: lines) :
    line ≠ [] ∧ line.head? = content.head? := by
  cases content with
  | nil => simp [physicalLines] at h
  | cons byte rest =>
      simp only [physicalLines] at h
      split at h
      · simp only [List.cons.injEq] at h
        simp [← h.1]
      · split at h <;>
        · simp only [List.cons.injEq] at h
          simp [← h.1]

/-! ## Fragments along a run -/

/-- A read either closes a line or leaves one open, and then it takes no part
of a line end. -/
theorem ReadStep.closes_or_leaves_open {width : Nat} {read tail : Bytes}
    (hstep : ReadStep width read tail) :
    (∃ text, read = text ++ [lf] ∧ lf ∉ text ∧ (lineText read).length ≤ width) ∨
      (lf ∉ read ∧ read.length ≤ width ∧
        (read.getLast? = some cr → tail.head? ≠ some lf)) := by
  cases hstep with
  | @line text _ hlf hlength =>
      refine .inl ⟨text, rfl, hlf, ?_⟩
      by_cases hcr : text.getLast? = some cr
      · obtain ⟨front, rfl⟩ := List.getLast?_eq_some_iff.mp hcr
        rw [List.append_assoc, List.singleton_append, lineText_append_crlf]
        simp only [List.length_append, List.length_singleton] at hlength
        omega
      · rw [lineText_append_lf hcr]
        omega
  | @straddling text _ hlf hlength =>
      refine .inl ⟨text ++ [cr], by simp, ?_, ?_⟩
      · rw [List.mem_append, List.mem_singleton]
        exact not_or.mpr ⟨hlf, by decide⟩
      · rw [lineText_append_crlf]
        omega
  | last hlf hlength => exact .inr ⟨hlf, hlength, by simp⟩
  | full hlf hlength hline =>
      refine .inr ⟨hlf, hlength.le, ?_⟩
      intro hcr hnext
      simp only [List.head?_cons, Option.some.injEq] at hnext
      exact hline ⟨hnext, hcr⟩
  | @backedOff _ trail _ lead _ _ hlf hlength =>
      simp only [List.mem_append, List.mem_cons, not_or] at hlf
      refine .inr ⟨hlf.1, by omega, ?_⟩
      intro _ hnext
      simp only [List.cons_append, List.head?_cons, Option.some.injEq] at hnext
      exact hlf.2.1 hnext.symm

theorem fragments_closing {limit : Nat} {read : Bytes}
    (hlength : (lineText read).length ≤ limit) :
    Fragments limit read (optionsOf [read]) := by
  by_cases hnil : lineText read = []
  · rw [optionsOf_cons_of_eq_nil hnil]
    exact ⟨by simp [hnil], by simp, by simp⟩
  · rw [optionsOf_cons_of_ne hnil]
    exact ⟨by simp, by simpa using hnil, by simpa using hlength⟩

theorem Fragments.cons {limit : Nat} {read line : Bytes} {pieces : List Bytes}
    (hpieces : Fragments limit line pieces) (hread : read ≠ [])
    (hlength : read.length ≤ limit) (hline : line ≠ [])
    (hcr : read.getLast? = some cr → line.head? ≠ some lf) :
    Fragments limit (read ++ line) (read :: pieces) := by
  constructor
  · rw [lineText_append hline hcr, List.flatten_cons, hpieces.joined]
  · intro piece hpiece
    rcases List.mem_cons.mp hpiece with rfl | hpiece
    · exact hread
    · exact hpieces.nonempty piece hpiece
  · intro piece hpiece
    rcases List.mem_cons.mp hpiece with rfl | hpiece
    · exact hlength
    · exact hpieces.bounded piece hpiece

/-- One read more at the front: its option opens a group of its own, or joins
the group of the line that it leaves open. -/
theorem ReadStep.exists_fragments {width : Nat} {read tail : Bytes}
    {groups : List (List Bytes)} (hread : read ≠ [])
    (hstep : ReadStep width read tail)
    (hgroups : List.Forall₂ (Fragments width) (physicalLines tail) groups) :
    ∃ groups' : List (List Bytes),
      groups'.flatten = optionsOf [read] ++ groups.flatten ∧
        List.Forall₂ (Fragments width) (physicalLines (read ++ tail)) groups' := by
  rcases hstep.closes_or_leaves_open with ⟨text, rfl, hlf, hlength⟩ | ⟨hlf, hlength, hcr⟩
  · refine ⟨optionsOf [text ++ [lf]] :: groups, by simp, ?_⟩
    rw [List.append_assoc, List.singleton_append, physicalLines_append_lf hlf]
    exact .cons (fragments_closing hlength) hgroups
  · have htext : lineText read = read :=
      lineText_of_getLast? (getLast?_ne_of_notMem hlf)
    have hoption : optionsOf [read] = [read] := by
      rw [optionsOf_cons_of_ne (by rwa [htext]), htext, optionsOf_nil]
    cases htail : physicalLines tail with
    | nil =>
        rw [htail] at hgroups
        cases hgroups
        rw [physicalLines_eq_nil htail, List.append_nil,
          physicalLines_of_notMem hread hlf]
        refine ⟨[[read]], by simp [hoption], .cons ?_ .nil⟩
        exact ⟨by simp [htext], by simpa using hread, by simpa using hlength⟩
    | cons line lines =>
        rw [htail] at hgroups
        cases hgroups with
        | @cons _ group _ others hgroup hothers =>
            obtain ⟨hline, hhead⟩ := head?_of_physicalLines htail
            refine ⟨(read :: group) :: others, by simp [hoption], ?_⟩
            rw [physicalLines_append hlf htail]
            refine .cons (hgroup.cons hread hlength hline ?_) hothers
            rwa [hhead]

theorem ReadRun.exists_fragments {width : Nat} {content remainder : Bytes}
    {reads : List Bytes} (hwidth : 1 ≤ width)
    (hrun : ReadRun width content reads remainder) (hdone : remainder = []) :
    ∃ groups : List (List Bytes),
      groups.flatten = optionsOf reads ∧
        List.Forall₂ (Fragments width) (physicalLines content) groups := by
  induction hrun with
  | done rest =>
      subst rest
      exact ⟨[], rfl, .nil⟩
  | @read read tail remainder reads hne hstep _ ih =>
      obtain ⟨groups, hflatten, hgroups⟩ := ih hdone
      obtain ⟨groups', hflatten', hgroups'⟩ :=
        hstep.exists_fragments (hstep.ne_nil hwidth hne) hgroups
      refine ⟨groups', ?_, hgroups'⟩
      rw [hflatten', hflatten, ← optionsOf_cons]

/-! ## Contents without line ends -/

theorem withoutLineEnds_eq_flatten (content : Bytes) :
    withoutLineEnds content = ((physicalLines content).map lineText).flatten := by
  induction content with
  | nil => rfl
  | cons byte rest ih =>
      by_cases hbyte : byte = lf
      · have htext : lineText [lf] = [] := rfl
        simp [withoutLineEnds, physicalLines, hbyte, ih, htext]
      · have hfront : lf ∉ [byte] := by simpa using Ne.symm hbyte
        cases hlines : physicalLines rest with
        | nil =>
            rw [physicalLines_eq_nil hlines, physicalLines_of_notMem (by simp) hfront]
            simp [withoutLineEnds, hbyte,
              lineText_of_getLast? (getLast?_ne_of_notMem hfront)]
        | cons line lines =>
            obtain ⟨hline, hhead⟩ := head?_of_physicalLines hlines
            have hopen : physicalLines (byte :: rest) = (byte :: line) :: lines :=
              physicalLines_append hfront hlines
            rw [hlines] at ih
            rw [hopen, withoutLineEnds, ih]
            simp only [List.map_cons, List.flatten_cons]
            by_cases hend : byte = cr ∧ rest.head? = some lf
            · obtain ⟨rfl, hnext⟩ := hend
              obtain ⟨later, rfl⟩ := List.head?_eq_some_iff.mp hnext
              have hfirst : physicalLines (lf :: later) = [lf] :: physicalLines later :=
                physicalLines_append_lf List.not_mem_nil later
              rw [hfirst, List.cons.injEq] at hlines
              rw [if_pos (.inr ⟨rfl, hnext⟩), ← hlines.1]
              rfl
            · rw [if_neg (not_or.mpr ⟨hbyte, hend⟩)]
              have htext : lineText ([byte] ++ line) = [byte] ++ lineText line := by
                apply lineText_append hline
                intro hcr hnext
                simp only [List.getLast?_singleton, Option.some.injEq] at hcr
                exact hend ⟨hcr, by rw [← hhead, hnext]⟩
              rw [List.singleton_append] at htext
              rw [htext, List.cons_append, List.cons_append, List.nil_append]

theorem flatten_of_fragments {limit : Nat} {lines : List Bytes}
    {groups : List (List Bytes)}
    (hgroups : List.Forall₂ (Fragments limit) lines groups) :
    groups.flatten.flatten = (lines.map lineText).flatten := by
  induction hgroups with
  | nil => rfl
  | cons hpieces _ ih => simp [hpieces.joined, ih]

/-! ## Bounds on the texts of reads -/

theorem lineText_append_lf_isPrefix (text : Bytes) :
    lineText (text ++ [lf]) <+: text := by
  by_cases hcr : text.getLast? = some cr
  · obtain ⟨front, rfl⟩ := List.getLast?_eq_some_iff.mp hcr
    rw [List.append_assoc, List.singleton_append, lineText_append_crlf]
    exact List.prefix_append front [cr]
  · exact (lineText_append_lf hcr).symm ▸ List.prefix_refl text

theorem ReadStep.lineText_bounded {width : Nat} {read tail : Bytes}
    (hstep : ReadStep width read tail) :
    lf ∉ lineText read ∧ (lineText read).length ≤ width := by
  rcases hstep.closes_or_leaves_open with ⟨text, rfl, hlf, hlength⟩ | ⟨hlf, hlength, -⟩
  · refine ⟨fun hmem => hlf ?_, hlength⟩
    exact (lineText_append_lf_isPrefix text).subset hmem
  · rw [lineText_of_getLast? (getLast?_ne_of_notMem hlf)]
    exact ⟨hlf, hlength⟩

theorem ReadRun.lineText_bounded {width : Nat} {content remainder : Bytes}
    {reads : List Bytes} (hrun : ReadRun width content reads remainder) :
    ∀ read ∈ reads, lf ∉ lineText read ∧ (lineText read).length ≤ width := by
  induction hrun with
  | done => simp
  | read _ hstep _ ih =>
      intro read hread
      rcases List.mem_cons.mp hread with rfl | hread
      · exact hstep.lineText_bounded
      · exact ih read hread

/-! ## Options of a content -/

theorem bounded_of_mem_parse {limits : Limits} {content option : Bytes}
    (hoption : option ∈ (parse limits content).options) :
    option ≠ [] ∧ lf ∉ option ∧ option.length ≤ limits.window := by
  rw [parse_options, optionsOf, List.mem_filter, List.mem_map] at hoption
  obtain ⟨⟨read, hread, rfl⟩, hne⟩ := hoption
  rw [withoutTerminator_eq_lineText] at hne ⊢
  have hrun := readRun_readUpTo limits.window limits.maxOptions.toNat content
  exact ⟨of_decide_eq_true hne, hrun.lineText_bounded read hread⟩

/-- A content that the reads consume keeps every byte but those of line ends. -/
theorem parse_flatten {limits : Limits} {content : Bytes}
    (hcomplete : (parse limits content).truncated = false) :
    (parse limits content).options.flatten = withoutLineEnds content := by
  have hrun := readRun_readUpTo limits.window limits.maxOptions.toNat content
  obtain ⟨groups, hflatten, hgroups⟩ :=
    hrun.exists_fragments limits.one_le_window
      ((parse_truncated_eq_false_iff limits content).mp hcomplete)
  rw [withoutLineEnds_eq_flatten, ← flatten_of_fragments hgroups, hflatten, parse_options]

theorem optionsOf_isPrefix {reads more : List Bytes} (hreads : reads <+: more) :
    optionsOf reads <+: optionsOf more :=
  (hreads.map withoutTerminator).filter _

theorem optionsOf_take_isPrefix (count : Nat) (reads : List Bytes) :
    optionsOf (reads.take count) <+: optionsOf reads :=
  optionsOf_isPrefix (List.take_prefix count reads)

/-- When nothing is left over, the options are the texts of the lines, line by
line and each in fragments.  The limit on reads only ever takes later reads
away. -/
theorem parse_groups_lines (limits : Limits) (content : Bytes)
    (hlength : 1 ≤ limits.maxLineLength.toNat) :
    (physicalLines content).flatten = content ∧
    ((parse limits content).truncated = false →
      ∃ groups : List (List Bytes),
        groups.flatten = (parse limits content).options ∧
          List.Forall₂ (Fragments limits.maxLineLength.toNat)
            (physicalLines content) groups) ∧
    ∀ more : UInt64, limits.maxOptions ≤ more →
      (parse limits content).options =
          optionsOf ((readUpTo limits.window more.toNat content).1.take
            limits.maxOptions.toNat) ∧
        (parse limits content).options <+:
          (parse { limits with maxOptions := more } content).options := by
  refine ⟨flatten_physicalLines content, ?_, ?_⟩
  · intro hcomplete
    have hrun := readRun_readUpTo limits.window limits.maxOptions.toNat content
    rw [parse_options, ← Limits.window_eq hlength]
    exact hrun.exists_fragments limits.one_le_window
      ((parse_truncated_eq_false_iff limits content).mp hcomplete)
  · intro more hmore
    have hreads :
        (parse limits content).options =
          optionsOf ((readUpTo limits.window more.toNat content).1.take
            limits.maxOptions.toNat) := by
      rw [parse_options, readUpTo_take (UInt64.le_iff_toNat_le.mp hmore)]
    refine ⟨hreads, ?_⟩
    rw [hreads]
    exact optionsOf_take_isPrefix limits.maxOptions.toNat _

/-- An overlong line that ends with both bytes of a line end, an empty line and
a line that never ends; with fewer reads the rest is left over. -/
theorem parse_groups_lines_of_overlong :
    let limits : Limits := { maxOptions := 9, maxLineLength := 4 }
    let fewer : Limits := { limits with maxOptions := 2 }
    let content := Bytes.ofText "abcdefg\r\n\nxy"
    1 ≤ limits.maxLineLength.toNat ∧
      (parse limits content).truncated = false ∧
      (parse limits content).options = ["abcd", "efg", "xy"].map Bytes.ofText ∧
      (∃ groups : List (List Bytes),
        groups.flatten = (parse limits content).options ∧
          List.Forall₂ (Fragments limits.maxLineLength.toNat) (physicalLines content) groups) ∧
      (parse fewer content).truncated = true ∧
      (parse fewer content).options =
        optionsOf ((readUpTo fewer.window limits.maxOptions.toNat content).1.take 2) ∧
      (parse fewer content).options <+: (parse limits content).options := by
  intro limits fewer content
  have hlength : 1 ≤ limits.maxLineLength.toNat := by decide
  have hcomplete : (parse limits content).truncated = false := by decide +kernel
  obtain ⟨-, hgroups, -⟩ := parse_groups_lines limits content hlength
  obtain ⟨-, -, hmore⟩ := parse_groups_lines fewer content hlength
  obtain ⟨htaken, hbegin⟩ := hmore limits.maxOptions (by decide)
  exact ⟨hlength, hcomplete, by decide +kernel, hgroups hcomplete, by decide +kernel, htaken,
    hbegin⟩

end AppLauncher.Options
