import AppLauncher.Proofs.Options.Lines

/-!
# Line ends with and without carriage returns

A content whose lines end with a line feed alone is read in step with the same
content whose lines end with both bytes.  The windows of the two runs drift
apart, but each read of the one is the image of the read of the other: a read
that ends on a line feed in its window, or right behind it, takes the carriage
return along, and all other reads stop before they meet a line end.
-/

namespace AppLauncher.Options

open Bytes (lf cr)

/-- The content with a carriage return put before every line feed. -/
def withCarriageReturns (content : Bytes) : Bytes :=
  content.flatMap fun byte => if byte = lf then [cr, lf] else [byte]

/-! ## The longer content -/

@[simp] theorem withCarriageReturns_nil : withCarriageReturns [] = [] :=
  rfl

@[simp] theorem withCarriageReturns_append (front back : Bytes) :
    withCarriageReturns (front ++ back) =
      withCarriageReturns front ++ withCarriageReturns back := by
  simp [withCarriageReturns]

theorem withCarriageReturns_of_notMem {text : Bytes} (hlf : lf ∉ text) :
    withCarriageReturns text = text := by
  induction text with
  | nil => rfl
  | cons byte text ih =>
      simp only [List.mem_cons, not_or] at hlf
      rw [← List.singleton_append, withCarriageReturns_append, ih hlf.2]
      simp [withCarriageReturns, Ne.symm hlf.1]

theorem withCarriageReturns_append_lf {text : Bytes} (hlf : lf ∉ text) :
    withCarriageReturns (text ++ [lf]) = text ++ [cr, lf] := by
  rw [withCarriageReturns_append, withCarriageReturns_of_notMem hlf]
  simp [withCarriageReturns]

theorem withCarriageReturns_eq_nil_iff {content : Bytes} :
    withCarriageReturns content = [] ↔ content = [] := by
  constructor
  · intro hnil
    cases content with
    | nil => rfl
    | cons byte rest =>
        simp only [withCarriageReturns, List.flatMap_cons, List.append_eq_nil_iff] at hnil
        split at hnil <;> simp at hnil
  · rintro rfl
    rfl

/-- The byte that follows a read is the same for both contents, or a carriage
return in place of a line feed. -/
theorem exists_withCarriageReturns_cons (next : UInt8) (rest : Bytes) :
    ∃ later, withCarriageReturns (next :: rest) =
      (if next = lf then cr else next) :: later := by
  by_cases hnext : next = lf
  · exact ⟨lf :: withCarriageReturns rest, by simp [withCarriageReturns, hnext]⟩
  · exact ⟨withCarriageReturns rest, by simp [withCarriageReturns, hnext]⟩

/-! ## Reads in step -/

/-- No line feed of a content follows a carriage return. -/
def LoneLineFeeds (content : Bytes) : Prop :=
  ¬[cr, lf] <:+: content

instance (content : Bytes) : Decidable (LoneLineFeeds content) :=
  inferInstanceAs (Decidable ¬[cr, lf] <:+: content)

theorem LoneLineFeeds.of_append {front back : Bytes}
    (hlone : LoneLineFeeds (front ++ back)) :
    LoneLineFeeds front ∧ LoneLineFeeds back := by
  constructor
  · intro hfront
    exact hlone (hfront.trans (List.prefix_append front back).isInfix)
  · intro hback
    exact hlone (hback.trans (List.suffix_append front back).isInfix)

theorem LoneLineFeeds.getLast?_ne {text : Bytes} (hlone : LoneLineFeeds (text ++ [lf])) :
    text.getLast? ≠ some cr := by
  intro hcr
  obtain ⟨front, rfl⟩ := List.getLast?_eq_some_iff.mp hcr
  exact hlone ⟨front, [], by simp⟩

/-- A read ends in the longer content where it ends in the shorter one, its line
feed counted with the carriage return. -/
theorem ReadStep.withCarriageReturns {width : Nat} {read tail : Bytes}
    (hstep : ReadStep width read tail) (hlone : LoneLineFeeds read) :
    ReadStep width (withCarriageReturns read) (withCarriageReturns tail) := by
  cases hstep with
  | @line text _ hlf hlength =>
      rw [withCarriageReturns_append_lf hlf]
      -- A text that fills the window but for one byte leaves no room for both bytes.
      by_cases hfits : text.length + 1 < width
      · have hlf' : lf ∉ text ++ [cr] := by
          rw [List.mem_append, List.mem_singleton]
          exact not_or.mpr ⟨hlf, by decide⟩
        have hline : ReadStep width (text ++ [cr] ++ [lf]) (Options.withCarriageReturns tail) :=
          .line hlf' (by simpa using hfits)
        simpa using hline
      · exact .straddling hlf (by omega)
  | @straddling text =>
      exact absurd (List.suffix_append text [cr, lf]).isInfix hlone
  | last hlf hlength =>
      rw [withCarriageReturns_of_notMem hlf]
      exact .last hlf hlength
  | @full _ rest next hlf hlength hline hboundary =>
      obtain ⟨later, hlater⟩ := exists_withCarriageReturns_cons next rest
      rw [withCarriageReturns_of_notMem hlf, hlater]
      by_cases hnext : next = lf
      · rw [if_pos hnext]
        exact .full hlf hlength (fun hcr => absurd hcr.1 (by decide))
          (fun hcr => absurd hcr (by decide))
      · rw [if_neg hnext]
        exact .full hlf hlength hline hboundary
  | @backedOff _ trail rest lead next hread hlf hlength hlead htrail hshort hnext =>
      have hne : next ≠ lf := by
        rintro rfl
        exact absurd hnext (by decide)
      simp only [List.mem_append, not_or] at hlf
      obtain ⟨later, hlater⟩ := exists_withCarriageReturns_cons next rest
      rw [if_neg hne] at hlater
      rw [withCarriageReturns_of_notMem hlf.1, withCarriageReturns_append,
        withCarriageReturns_of_notMem hlf.2, hlater]
      exact .backedOff hread (by simpa using hlf) hlength hlead htrail hshort hnext

theorem ReadStep.lineText_withCarriageReturns {width : Nat} {read tail : Bytes}
    (hstep : ReadStep width read tail) (hlone : LoneLineFeeds read) :
    lineText (Options.withCarriageReturns read) = lineText read := by
  rcases hstep.closes_or_leaves_open with ⟨text, rfl, hlf, -⟩ | ⟨hlf, -, -⟩
  · rw [withCarriageReturns_append_lf hlf, lineText_append_crlf,
      lineText_append_lf hlone.getLast?_ne]
  · rw [withCarriageReturns_of_notMem hlf]

theorem readUpTo_withCarriageReturns (width count : Nat) {content : Bytes}
    (hlone : LoneLineFeeds content) :
    readUpTo width count (withCarriageReturns content) =
      ((readUpTo width count content).1.map withCarriageReturns,
        withCarriageReturns (readUpTo width count content).2) := by
  induction count generalizing content with
  | zero => rfl
  | succ count ih =>
      by_cases hne : content = []
      · simp [hne]
      · obtain ⟨read, tail, rfl, hstep⟩ := exists_readStep width content
        obtain ⟨hread, htail⟩ := hlone.of_append
        have hlonger : withCarriageReturns read ++ withCarriageReturns tail ≠ [] := by
          rw [← withCarriageReturns_append]
          exact fun hnil => hne (withCarriageReturns_eq_nil_iff.mp hnil)
        rw [withCarriageReturns_append,
          readUpTo_succ (hstep.withCarriageReturns hread) hlonger,
          readUpTo_succ hstep hne, ih htail]
        rfl

theorem ReadRun.lineText_withCarriageReturns {width : Nat} {content remainder : Bytes}
    {reads : List Bytes} (hrun : ReadRun width content reads remainder)
    (hlone : LoneLineFeeds content) :
    ∀ read ∈ reads, lineText (withCarriageReturns read) = lineText read := by
  induction hrun with
  | done => simp
  | @read first tail remainder reads _ hstep _ ih =>
      obtain ⟨hfirst, htail⟩ := hlone.of_append
      intro read hread
      rcases List.mem_cons.mp hread with rfl | hread
      · exact hstep.lineText_withCarriageReturns hfirst
      · exact ih htail read hread

/-- How lines end makes no difference: the options and whether something was left
over are the same with a carriage return before every line feed, whatever the
limits. -/
theorem parse_withCarriageReturns {content : Bytes} (hlone : LoneLineFeeds content)
    (limits : Limits) :
    parse limits (withCarriageReturns content) = parse limits content := by
  have hrun := readRun_readUpTo limits.window limits.maxOptions.toNat content
  have htexts := hrun.lineText_withCarriageReturns hlone
  have hreads := readUpTo_withCarriageReturns limits.window limits.maxOptions.toNat hlone
  have hoptions :
      (parse limits (withCarriageReturns content)).options =
        (parse limits content).options := by
    simp only [parse_options, optionsOf, hreads, List.map_map]
    congr 1
    apply List.map_congr_left
    intro read hread
    simp only [Function.comp_apply, withoutTerminator_eq_lineText]
    exact htexts read hread
  have htruncated :
      (parse limits (withCarriageReturns content)).truncated =
        (parse limits content).truncated := by
    simp [parse, hreads, withCarriageReturns_eq_nil_iff]
  exact congrArg₂ Parsed.mk hoptions htruncated

/-- Lines whose texts fill the window, all but one byte of it, and more than it, a
carriage return inside a line, and a limit on reads that leaves the last line out. -/
theorem parse_withCarriageReturns_of_full_windows :
    let limits : Limits := { maxOptions := 7, maxLineLength := 4 }
    let content := Bytes.ofText "abcd\nabc\nab\rcé\n\n€€\nxy\n"
    LoneLineFeeds content ∧
      parse limits (withCarriageReturns content) =
        ⟨["abcd", "abc", "ab\rc", "é", "€"].map Bytes.ofText, true⟩ := by
  intro limits content
  have hlone : LoneLineFeeds content := by decide +kernel
  refine ⟨hlone, ?_⟩
  rw [parse_withCarriageReturns hlone]
  decide +kernel

end AppLauncher.Options
