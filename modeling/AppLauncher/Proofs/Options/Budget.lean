import AppLauncher.Options.Load
import AppLauncher.Proofs.Files.Reading
import AppLauncher.Proofs.Options.Lines

/-!
# The read budget

An options file is cut to a number of bytes before it is parsed.  A read looks
one byte past its window and may take one byte more than the window, so a cut
can change the read that meets it, and can leave nothing over where the whole
file would.  This file says exactly when the cut shows: in the options, of which
it can only change the last, and in the warning about what was left over.
-/

namespace AppLauncher.Options

open Bytes (lf cr)

/-- Whether the options of these reads stay the same when only `left` more
bytes are there. -/
def UnaffectedByCut (width : Nat) : (left : Nat) → (reads : List Bytes) → Prop
  | _, [] => True
  | left, read :: later =>
    if left = 0 then
      -- Nothing is there any more: only line ends may be lost.
      optionsOf (read :: later) = []
    else if left < read.length then
      -- The cut falls into the read.  What remains of the read is an option.
      (lineText read = read.take left ∧ optionsOf later = []) ∨
        (left = 1 ∧ read = [cr, lf] ∧ optionsOf later = [[cr]])
    else
      -- A read that ends before the cut must not owe its end to what lies behind.
      (left ≤ width → read.length < left → read.getLast? = some lf) ∧
        UnaffectedByCut width (left - read.length) later

instance (width : Nat) :
    (left : Nat) → (reads : List Bytes) → Decidable (UnaffectedByCut width left reads)
  | _, [] => inferInstanceAs (Decidable True)
  | left, read :: later =>
    have := instDecidableUnaffectedByCut width (left - read.length) later
    inferInstanceAs (Decidable (if left = 0 then _ else if left < read.length then _ else _))

/-! ## Options before and after a cut -/

theorem unaffectedByCut_zero (width : Nat) (reads : List Bytes) :
    UnaffectedByCut width 0 reads ↔ optionsOf reads = [] := by
  cases reads <;> simp [UnaffectedByCut]

theorem optionsOf_cons_eq_singleton_iff {read piece : Bytes} {later : List Bytes}
    (hpiece : piece ≠ []) :
    optionsOf (read :: later) = [piece] ↔
      (lineText read = piece ∧ optionsOf later = []) ∨
        (lineText read = [] ∧ optionsOf later = [piece]) := by
  by_cases hnil : lineText read = []
  · simp [optionsOf_cons_of_eq_nil hnil, hnil, Ne.symm hpiece]
  · simp [optionsOf_cons_of_ne hnil, hnil]

theorem lineText_eq_nil_iff {read : Bytes} (hlength : 1 < read.length) :
    lineText read = [] ↔ read = [cr, lf] := by
  constructor
  · intro htext
    rcases lineEnd_cases read with ⟨text, rfl⟩ | ⟨text, rfl, hcr⟩ | hlf
    · rw [lineText_append_crlf] at htext
      simp [htext]
    · rw [lineText_append_lf hcr] at htext
      simp [htext] at hlength
    · rw [lineText_of_getLast? hlf] at htext
      simp [htext] at hlength
  · rintro rfl
    rfl

theorem eq_cr_of_append_eq {piece rest : Bytes} (hpiece : piece ≠ []) (hrest : rest ≠ [])
    (h : piece ++ rest = [cr, lf]) : piece = [cr] := by
  cases piece with
  | nil => exact absurd rfl hpiece
  | cons byte piece =>
      simp only [List.cons_append, List.cons.injEq] at h
      obtain ⟨rfl, hlf⟩ := h
      rcases List.append_eq_singleton_iff.mp hlf with ⟨rfl, -⟩ | ⟨-, hnil⟩
      · rfl
      · exact absurd hnil hrest

theorem read_cases {read tail piece back : Bytes}
    (hcontent : piece ++ back = read ++ tail) :
    read = piece ∨ (∃ rest, rest ≠ [] ∧ read = piece ++ rest) ∨
      ∃ rest, rest ≠ [] ∧ piece = read ++ rest := by
  rcases List.append_eq_append_iff.mp hcontent with ⟨rest, hread, -⟩ | ⟨rest, hpiece, -⟩
  · by_cases hrest : rest = []
    · exact .inl (by rw [hread, hrest, List.append_nil])
    · exact .inr (.inl ⟨rest, hrest, hread⟩)
  · by_cases hrest : rest = []
    · exact .inl (by rw [hpiece, hrest, List.append_nil])
    · exact .inr (.inr ⟨rest, hrest, hpiece⟩)

/-- A cut leaves a piece without a line feed of the read that meets it, and the
piece is the last option.  It is the right one exactly when the reads of the
whole content are unaffected. -/
theorem optionsOf_eq_piece_iff {width : Nat} {read tail piece back : Bytes}
    {later : List Bytes} (hread : read ≠ []) (hpiece : piece ≠ [])
    (hlf : lf ∉ piece) (hlength : piece.length ≤ width)
    (hcontent : piece ++ back = read ++ tail) :
    optionsOf (read :: later) = [piece] ↔
      UnaffectedByCut width piece.length (read :: later) := by
  have hpositive : 0 < piece.length := List.length_pos_iff.mpr hpiece
  rw [UnaffectedByCut, if_neg hpositive.ne']
  rcases read_cases hcontent with rfl | ⟨rest, hrest, rfl⟩ | ⟨rest, hrest, rfl⟩
  · have htext : lineText read = read :=
      lineText_of_getLast? (getLast?_ne_of_notMem hlf)
    rw [optionsOf_cons_of_ne (by rwa [htext]), htext]
    simp [unaffectedByCut_zero]
  · have hlonger : piece.length < (piece ++ rest).length := by
      rw [List.length_append]
      exact Nat.lt_add_of_pos_right (List.length_pos_iff.mpr hrest)
    have htake : (piece ++ rest).take piece.length = piece := List.take_left
    rw [if_pos hlonger, htake, optionsOf_cons_eq_singleton_iff hpiece,
      lineText_eq_nil_iff (lt_of_le_of_lt hpositive hlonger)]
    apply or_congr_right
    constructor
    · rintro ⟨heq, hlater⟩
      obtain rfl := eq_cr_of_append_eq hpiece hrest heq
      exact ⟨rfl, heq, hlater⟩
    · rintro ⟨-, heq, hlater⟩
      obtain rfl := eq_cr_of_append_eq hpiece hrest heq
      exact ⟨heq, hlater⟩
  · -- The read ends inside the piece, so a byte behind the piece cut it short.
    have hlfRead : lf ∉ read := fun hmem => hlf (List.mem_append_left _ hmem)
    have htext : lineText read = read :=
      lineText_of_getLast? (getLast?_ne_of_notMem hlfRead)
    have hshorter : read.length < (read ++ rest).length := by
      rw [List.length_append]
      exact Nat.lt_add_of_pos_right (List.length_pos_iff.mpr hrest)
    constructor
    · intro hoptions
      rw [optionsOf_cons_of_ne (by rwa [htext]), htext, List.cons.injEq] at hoptions
      exact absurd (congrArg List.length hoptions.1) hshorter.ne
    · rw [if_neg hshorter.not_gt]
      rintro ⟨hlast, -⟩
      exact absurd (hlast hlength hshorter) (getLast?_ne_of_notMem hlfRead)

theorem ReadStep.getLast?_or_width_lt {width : Nat} {read tail : Bytes}
    (hstep : ReadStep width read tail) (htail : tail ≠ []) :
    read.getLast? = some lf ∨ width < read.length + tail.length := by
  cases hstep with
  | line => exact .inl List.getLast?_concat
  | straddling => exact .inl (by simp)
  | last => exact absurd rfl htail
  | full _ hlength =>
      right
      simp only [List.length_cons]
      omega
  | backedOff _ _ hlength =>
      right
      simp only [List.length_append, List.length_cons]
      omega

/-- Reading the front of a content gives the options of the whole exactly when
the reads of the whole are unaffected by the cut behind the front. -/
theorem optionsOf_front_eq_iff {width : Nat} (hwidth : 1 ≤ width) (count : Nat)
    (front back : Bytes) :
    optionsOf (readUpTo width count front).1 =
        optionsOf (readUpTo width count (front ++ back)).1 ↔
      UnaffectedByCut width front.length (readUpTo width count (front ++ back)).1 := by
  induction count generalizing front with
  | zero => simp [readUpTo, UnaffectedByCut]
  | succ count ih =>
      by_cases hfront : front = []
      · subst front
        rw [readUpTo_nil, List.length_nil, unaffectedByCut_zero, optionsOf_nil, eq_comm]
      · obtain ⟨read, tail, rfl, hstep⟩ := exists_readStep width front
        have hread := hstep.ne_nil hwidth hfront
        have hwhole : read ++ tail ++ back ≠ [] := by simp [hread]
        rcases hstep.append back with hsettled | ⟨rfl, hlf, hlength⟩
        · -- The whole begins with the same read.
          have hnotCut : ¬(read ++ tail).length < read.length := by simp
          rw [List.append_assoc] at hwhole
          rw [readUpTo_succ hstep hfront, List.append_assoc,
            readUpTo_succ hsettled hwhole, UnaffectedByCut,
            if_neg (by simpa using hfront), if_neg hnotCut]
          rw [optionsOf_cons read (readUpTo width count tail).1,
            optionsOf_cons read (readUpTo width count (tail ++ back)).1,
            List.append_cancel_left_eq, ih tail]
          rw [show (read ++ tail).length - read.length = tail.length by simp]
          refine ⟨fun hlater => ⟨?_, hlater⟩, And.right⟩
          intro hleft hshorter
          rw [List.length_append] at hleft hshorter
          have htail : tail ≠ [] := by
            rw [← List.length_pos_iff]
            omega
          rcases hstep.getLast?_or_width_lt htail with hlast | hfits
          · exact hlast
          · omega
        · -- The front ends inside a read of the whole.
          have htext : lineText read = read :=
            lineText_of_getLast? (getLast?_ne_of_notMem hlf)
          obtain ⟨first, rest, hcontent, hfirst⟩ := exists_readStep width (read ++ back)
          rw [List.append_nil] at hwhole
          rw [readUpTo_succ hstep hfront, readUpTo_nil,
            optionsOf_cons_of_ne (by rwa [htext]), htext, optionsOf_nil, List.append_nil,
            hcontent, readUpTo_succ hfirst (by rwa [← hcontent]), eq_comm]
          rw [hcontent] at hwhole
          exact optionsOf_eq_piece_iff (hfirst.ne_nil hwidth hwhole) hread hlf hlength
            hcontent

/-! ## The last option before a cut -/

/-- The reads of a front are reads of the whole content, but for the last of them,
which the cut may have ended. -/
theorem readUpTo_front_dropLast_isPrefix (width count : Nat) (front back : Bytes) :
    (readUpTo width count front).1.dropLast <+: (readUpTo width count (front ++ back)).1 := by
  induction count generalizing front with
  | zero => simp [readUpTo]
  | succ count ih =>
      by_cases hfront : front = []
      · simp [hfront]
      · obtain ⟨read, tail, rfl, hstep⟩ := exists_readStep width front
        rcases hstep.append back with hsettled | ⟨rfl, -, -⟩
        · have hwhole : read ++ (tail ++ back) ≠ [] := by
            rw [← List.append_assoc]
            exact List.append_ne_nil_of_left_ne_nil hfront back
          have hlater := ih tail
          rw [readUpTo_succ hstep hfront, List.append_assoc, readUpTo_succ hsettled hwhole]
          cases hreads : (readUpTo width count tail).1 with
          | nil => exact List.nil_prefix
          | cons next later =>
              rw [hreads] at hlater
              rw [List.dropLast_cons_cons, List.prefix_cons_inj]
              exact hlater
        · rw [readUpTo_succ hstep hfront, readUpTo_nil]
          exact List.nil_prefix

/-- A read gives one option at most, so the last option is that of the last read or of
an earlier one. -/
theorem dropLast_optionsOf_isPrefix (reads : List Bytes) :
    (optionsOf reads).dropLast <+: optionsOf reads.dropLast := by
  rcases List.eq_nil_or_concat reads with rfl | ⟨earlier, last, rfl⟩
  · exact List.nil_prefix
  · rw [List.concat_eq_append, optionsOf_append, List.dropLast_concat]
    by_cases hnil : lineText last = []
    · rw [optionsOf_cons_of_eq_nil hnil, optionsOf_nil, List.append_nil]
      exact List.dropLast_prefix _
    · simp only [optionsOf_cons_of_ne hnil, optionsOf_nil, List.dropLast_concat, List.prefix_rfl]

theorem optionsOf_front_dropLast_isPrefix (width count : Nat) (front back : Bytes) :
    (optionsOf (readUpTo width count front).1).dropLast <+:
      optionsOf (readUpTo width count (front ++ back)).1 :=
  (dropLast_optionsOf_isPrefix _).trans
    (optionsOf_isPrefix (readUpTo_front_dropLast_isPrefix width count front back))

/-- A cut changes no option but the last one before it, wherever it falls. -/
theorem parse_take_dropLast_isPrefix (limits : Limits) (content : Bytes) (count : Nat) :
    (parse limits (content.take count)).options.dropLast <+:
      (parse limits content).options := by
  have hfront := optionsOf_front_dropLast_isPrefix limits.window limits.maxOptions.toNat
    (content.take count) (content.drop count)
  rw [List.take_append_drop] at hfront
  rw [parse_options, parse_options]
  exact hfront

/-! ## Line ends before and behind a cut -/

theorem withoutLineEnds_cons_cons (byte next : UInt8) (rest : Bytes) :
    withoutLineEnds (byte :: next :: rest) =
      if byte = lf ∨ (byte = cr ∧ next = lf) then withoutLineEnds (next :: rest)
      else byte :: withoutLineEnds (next :: rest) := by
  rw [withoutLineEnds]
  simp only [List.head?_cons, Option.some.injEq]

/-- A cut behind a part of a content parts no line end unless it stands between
its two bytes. -/
theorem withoutLineEnds_append {front back : Bytes}
    (hcut : ¬(front.getLast? = some cr ∧ back.head? = some lf)) :
    withoutLineEnds (front ++ back) = withoutLineEnds front ++ withoutLineEnds back := by
  induction front with
  | nil => rfl
  | cons byte front ih =>
      cases front with
      | nil =>
          have hback : ¬(byte = cr ∧ back.head? = some lf) := by simpa using hcut
          by_cases hbyte : byte = lf <;> simp [withoutLineEnds, hbyte, hback]
      | cons next front =>
          rw [List.getLast?_cons_cons] at hcut
          simp only [List.cons_append] at ih ⊢
          rw [withoutLineEnds_cons_cons, ih hcut, withoutLineEnds_cons_cons]
          split <;> rfl

/-- What remains of a content without its line ends shows nothing of a cut
exactly when only line ends are behind it.  The carriage return of a parted line
end remains, and the same byte behind the cut would make up for it. -/
theorem withoutLineEnds_front_eq_iff (front back : Bytes) :
    withoutLineEnds front = withoutLineEnds (front ++ back) ↔
      withoutLineEnds back =
        if front.getLast? = some cr ∧ back.head? = some lf then [cr] else [] := by
  by_cases hcut : front.getLast? = some cr ∧ back.head? = some lf
  · rw [if_pos hcut]
    obtain ⟨hfront, hback⟩ := hcut
    obtain ⟨front, rfl⟩ := List.getLast?_eq_some_iff.mp hfront
    obtain ⟨back, rfl⟩ := List.head?_eq_some_iff.mp hback
    have hleft : withoutLineEnds (front ++ [cr]) = withoutLineEnds front ++ [cr] :=
      withoutLineEnds_append (by simp [cr, lf])
    have hwhole :
        withoutLineEnds (front ++ [cr] ++ lf :: back) =
          withoutLineEnds front ++ withoutLineEnds (lf :: back) := by
      rw [List.append_assoc, withoutLineEnds_append (by simp [cr, lf])]
      simp [withoutLineEnds]
    rw [hleft, hwhole, List.append_cancel_left_eq, eq_comm]
  · rw [if_neg hcut, withoutLineEnds_append hcut, List.self_eq_append_right]

end AppLauncher.Options

namespace AppLauncher

open Bytes (lf cr)

/-- A host with nothing but an options file in its root directory. -/
def Host.withOptionsFile (content : Bytes) : Host where
  root := .directory [(OptionsLoader.fileName, .plain content)]

theorem OptionsLoader.isEntryName_fileName : Host.IsEntryName OptionsLoader.fileName where
  noNul := by decide +kernel
  short := by decide +kernel
  relative := by decide +kernel
  single := by decide +kernel
  named := by decide +kernel
  notParent := by decide +kernel

theorem Host.content_withOptionsFile (content : Bytes) :
    (Host.withOptionsFile content).content OptionsLoader.fileName = .ok content :=
  Host.content_withFile OptionsLoader.isEntryName_fileName content

namespace OptionsLoader

open Options

theorem content_path_withOptionsFile (limits : Limits) (content : Bytes) :
    (Host.withOptionsFile content).content (path { directory := [], limits }) =
      .ok content := by
  have hpath : Path.join [] fileName = fileName := by decide +kernel
  unfold path
  rw [hpath]
  exact Host.content_withOptionsFile content

variable {loader : OptionsLoader} {host : Host} {content : Bytes}

theorem parseFile?_of_content (hfile : host.content loader.path = .ok content) :
    loader.parseFile? host = .ok (parseFile loader.limits content) := by
  have hread : host.files.readAtMost loader.path loader.limits.budget =
      .ok (content.take loader.limits.budget) := Host.readAtMost_of_content hfile _
  unfold parseFile? parseFrom?
  rw [hread]
  rfl

theorem loadFile?_of_content (hfile : host.content loader.path = .ok content) :
    loader.loadFile? host = .ok ⟨(parseFile loader.limits content).options, .file⟩ := by
  unfold loadFile?
  rw [parseFile?_of_content hfile]
  rfl

theorem load_of_content (hfile : host.content loader.path = .ok content) :
    loader.load host =
      (⟨(parseFile loader.limits content).options, .file⟩,
        if (parseFile loader.limits content).truncated then [.truncated] else []) := by
  unfold load
  rw [parseFile?_of_content hfile]

/-- The options of a file are those of its whole content exactly when the file
is within the budget or its reads are unaffected by the cut. -/
theorem loadFile?_options_eq_iff (hfile : host.content loader.path = .ok content) :
    ∃ options,
      loader.loadFile? host = .ok ⟨options, .file⟩ ∧
        (options = (parse loader.limits content).options ↔
          content.length ≤ loader.limits.budget ∨
            UnaffectedByCut loader.limits.window loader.limits.budget
              (readUpTo loader.limits.window loader.limits.maxOptions.toNat content).1) := by
  refine ⟨(parseFile loader.limits content).options, loadFile?_of_content hfile, ?_⟩
  by_cases hlength : content.length ≤ loader.limits.budget
  · simp [parseFile, List.take_of_length_le hlength, hlength]
  · have hfront : (content.take loader.limits.budget).length = loader.limits.budget := by
      rw [List.length_take]
      omega
    have hiff := optionsOf_front_eq_iff loader.limits.one_le_window
      loader.limits.maxOptions.toNat (content.take loader.limits.budget)
      (content.drop loader.limits.budget)
    rw [List.take_append_drop, hfront] at hiff
    simp only [hlength, false_or]
    exact hiff

theorem loadFile?_dropLast_isPrefix (hfile : host.content loader.path = .ok content) :
    ∃ options,
      loader.loadFile? host = .ok ⟨options, .file⟩ ∧
        options.dropLast <+: (parse loader.limits content).options := by
  refine ⟨(parseFile loader.limits content).options, loadFile?_of_content hfile, ?_⟩
  have hfront := optionsOf_front_dropLast_isPrefix loader.limits.window
    loader.limits.maxOptions.toNat (content.take loader.limits.budget)
    (content.drop loader.limits.budget)
  rwa [List.take_append_drop] at hfront

/-- The budget ends right before the line feed of the second line.  The third
line is behind it, but the limit on reads leaves that one out as well. -/
theorem loadFile?_options_eq_of_crlf :
    let content := Bytes.ofText "ab\r\ncd\nef"
    let loader : OptionsLoader :=
      { directory := [], limits := { maxOptions := 2, maxLineLength := 3 } }
    let host := Host.withOptionsFile content
    host.content loader.path = .ok content ∧
      ∃ options,
        loader.loadFile? host = .ok ⟨options, .file⟩ ∧
          options = (parse loader.limits content).options := by
  intro content loader host
  have hfile : host.content loader.path = .ok content :=
    content_path_withOptionsFile loader.limits content
  obtain ⟨options, hload, hiff⟩ := loadFile?_options_eq_iff hfile
  exact ⟨hfile, options, hload, hiff.mpr (.inr (by decide +kernel))⟩

/-- A budget of one byte leaves the carriage return of a line end as an option,
which the whole content does not have. -/
theorem loadFile?_parts_line_end :
    let content : Bytes := [cr, lf]
    let loader : OptionsLoader :=
      { directory := [], limits := { maxOptions := 1, maxLineLength := 1 } }
    let host := Host.withOptionsFile content
    1 ≤ loader.limits.maxOptions ∧ 1 ≤ loader.limits.maxLineLength ∧
      host.content loader.path = .ok content ∧
      loader.loadFile? host = .ok ⟨[[cr]], .file⟩ ∧
      (parse loader.limits content).options = [] := by
  intro content loader host
  have hfile : host.content loader.path = .ok content :=
    content_path_withOptionsFile loader.limits content
  refine ⟨by decide, by decide, hfile, ?_, by decide +kernel⟩
  rw [loadFile?_of_content hfile]
  decide +kernel

/-- Without the warning about a remainder, the options hold every byte within
the budget but those of line ends.  Nothing else of the file is lost exactly
when only line ends are behind the budget, up to one carriage return. -/
theorem load_flatten_eq_iff (hfile : host.content loader.path = .ok content) :
    ∃ options warnings,
      loader.loadFile? host = .ok ⟨options, .file⟩ ∧
        loader.load host = (⟨options, .file⟩, warnings) ∧
        (.truncated ∉ warnings →
          options.flatten = withoutLineEnds (content.take loader.limits.budget) ∧
          (options.flatten = withoutLineEnds content ↔
            withoutLineEnds (content.drop loader.limits.budget) =
              if (content.take loader.limits.budget).getLast? = some cr ∧
                  (content.drop loader.limits.budget).head? = some lf
              then [cr] else [])) := by
  refine ⟨_, _, loadFile?_of_content hfile, load_of_content hfile, ?_⟩
  intro hwarning
  have hcomplete : (parseFile loader.limits content).truncated = false := by
    simpa using hwarning
  have hflatten :
      (parseFile loader.limits content).options.flatten =
        withoutLineEnds (content.take loader.limits.budget) :=
    parse_flatten hcomplete
  have hiff := withoutLineEnds_front_eq_iff (content.take loader.limits.budget)
    (content.drop loader.limits.budget)
  rw [List.take_append_drop, ← hflatten] at hiff
  exact ⟨hflatten, hiff⟩

theorem load_flatten_eq_of_blank_rest :
    let content := Bytes.ofText "ab\n\r\n"
    let loader : OptionsLoader :=
      { directory := [], limits := { maxOptions := 1, maxLineLength := 2 } }
    let host := Host.withOptionsFile content
    host.content loader.path = .ok content ∧
      ∃ options,
        loader.load host = (⟨options, .file⟩, []) ∧
          options.flatten = withoutLineEnds content := by
  intro content loader host
  have hfile : host.content loader.path = .ok content :=
    content_path_withOptionsFile loader.limits content
  obtain ⟨options, warnings, -, hload, hiff⟩ := load_flatten_eq_iff hfile
  have hwarnings : warnings = [] := by
    have hsilent : (loader.load host).2 = [] := by
      rw [load_of_content hfile]
      decide +kernel
    rwa [hload] at hsilent
  subst hwarnings
  exact ⟨hfile, options, hload, (hiff (by simp)).2.mpr (by decide +kernel)⟩

/-- A byte behind a budget that the reads use up is lost without a warning. -/
theorem load_loses_silently :
    let content := Bytes.ofText "abc"
    let loader : OptionsLoader :=
      { directory := [], limits := { maxOptions := 1, maxLineLength := 2 } }
    let host := Host.withOptionsFile content
    1 ≤ loader.limits.maxOptions ∧ 1 ≤ loader.limits.maxLineLength ∧
      host.content loader.path = .ok content ∧
      loader.load host = (⟨[Bytes.ofText "ab"], .file⟩, []) ∧
      withoutLineEnds content = Bytes.ofText "abc" := by
  intro content loader host
  have hfile : host.content loader.path = .ok content :=
    content_path_withOptionsFile loader.limits content
  refine ⟨by decide, by decide, hfile, ?_, by decide +kernel⟩
  rw [load_of_content hfile]
  decide +kernel

end OptionsLoader

end AppLauncher
