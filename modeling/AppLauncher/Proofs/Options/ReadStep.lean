import AppLauncher.Options.Reading
import Mathlib.Data.List.TakeWhile

/-!
# Reads as steps

A read ends in one of five ways: on a line feed in its window, on a line end
that straddles the window, with the content, on a full window, or before a
character that the window would cut.  The five ways are stated here as a
relation between a read and the bytes that follow it, without positions and
searches.  `readLength` takes exactly such a read, so every property of single
reads and of runs of reads is proved by cases on the relation.
-/

namespace AppLauncher.Options

open Bytes (lf cr)

/-- How a read may end, given the bytes that follow it.  A read that backs off
leaves a character to the next one: its leading byte `lead`, and continuation
bytes up to `next`, which lies behind the window. -/
inductive ReadStep (width : Nat) : (read tail : Bytes) → Prop where
  | line {text tail : Bytes} (hlf : lf ∉ text) (hlength : text.length < width) :
      ReadStep width (text ++ [lf]) tail
  | straddling {text tail : Bytes} (hlf : lf ∉ text)
      (hlength : text.length + 1 = width) :
      ReadStep width (text ++ [cr, lf]) tail
  | last {read : Bytes} (hlf : lf ∉ read) (hlength : read.length ≤ width) :
      ReadStep width read []
  | full {read rest : Bytes} {next : UInt8} (hlf : lf ∉ read)
      (hlength : read.length = width)
      (hline : ¬(next = lf ∧ read.getLast? = some cr))
      (hboundary : Utf8.isContinuation next = true → lastBoundary? read = none) :
      ReadStep width read (next :: rest)
  | backedOff {read trail rest : Bytes} {lead next : UInt8}
      (hread : read ≠ []) (hlf : lf ∉ read ++ lead :: trail)
      (hlength : read.length + (trail.length + 1) = width)
      (hlead : Utf8.isContinuation lead = false)
      (htrail : ∀ byte ∈ trail, Utf8.isContinuation byte = true)
      (hshort : trail.length + 1 < 4)
      (hnext : Utf8.isContinuation next = true) :
      ReadStep width read (lead :: trail ++ next :: rest)

/-! ## The search for a boundary -/

theorem lastBoundary?_eq_some {front trail : Bytes} {lead : UInt8}
    (hfront : front ≠ []) (hlead : Utf8.isContinuation lead = false)
    (htrail : ∀ byte ∈ trail, Utf8.isContinuation byte = true)
    (hshort : trail.length + 1 < 4) :
    lastBoundary? (front ++ lead :: trail) = some front.length := by
  have htrailing :
      (front ++ lead :: trail).reverse.takeWhile Utf8.isContinuation =
        trail.reverse := by
    have hreverse :
        (front ++ lead :: trail).reverse =
          trail.reverse ++ lead :: front.reverse := by simp
    rw [hreverse, List.takeWhile_append_of_pos
      (fun byte hbyte => htrail byte (List.mem_reverse.mp hbyte))]
    simp [hlead]
  have hpositive : 0 < front.length := List.length_pos_iff.mpr hfront
  have hposition :
      (front ++ lead :: trail).length - (trail.length + 1) = front.length := by
    simp
  unfold lastBoundary?
  simp only [htrailing, List.length_reverse, hposition]
  exact if_pos ⟨hshort, hpositive⟩

theorem exists_of_lastBoundary?_eq_some {window : Bytes} {position : Nat}
    (h : lastBoundary? window = some position) :
    ∃ front lead trail,
      window = front ++ lead :: trail ∧ front ≠ [] ∧
        Utf8.isContinuation lead = false ∧
        (∀ byte ∈ trail, Utf8.isContinuation byte = true) ∧
        trail.length + 1 < 4 := by
  have hsplit :=
    List.takeWhile_append_dropWhile (p := Utf8.isContinuation) (l := window.reverse)
  generalize htrail : window.reverse.takeWhile Utf8.isContinuation = trailing at hsplit
  cases hfront : window.reverse.dropWhile Utf8.isContinuation with
  | nil =>
      rw [hfront, List.append_nil] at hsplit
      have hlength : window.length = trailing.length := by
        rw [hsplit, List.length_reverse]
      simp [lastBoundary?, htrail, hlength] at h
  | cons lead front =>
      rw [hfront] at hsplit
      have hwindow : window = front.reverse ++ lead :: trailing.reverse := by
        rw [← List.reverse_inj, ← hsplit]
        simp
      have hlead : Utf8.isContinuation lead = false := by
        have hhead := List.head?_dropWhile_not Utf8.isContinuation window.reverse
        simpa [hfront] using hhead
      have hlength : window.length = trailing.length + (front.length + 1) := by
        rw [hwindow]
        simp only [List.length_append, List.length_cons, List.length_reverse]
        omega
      simp only [lastBoundary?, htrail, hlength] at h
      split at h
      next hbounds =>
        refine ⟨front.reverse, lead, trailing.reverse, hwindow, ?_, hlead, ?_, ?_⟩
        · rw [← List.length_pos_iff, List.length_reverse]
          omega
        · intro byte hbyte
          rw [List.mem_reverse, ← htrail] at hbyte
          exact List.mem_takeWhile_imp hbyte
        · simpa using hbounds.1
      next => simp at h

/-! ## The search for a line feed -/

theorem findIdx?_lf_eq_none {bytes : Bytes} (hlf : lf ∉ bytes) :
    bytes.findIdx? (· == lf) = none := by
  rw [List.findIdx?_eq_none_iff]
  exact fun byte hbyte => beq_false_of_ne fun heq => hlf (heq ▸ hbyte)

theorem lineLength?_append {text : Bytes} {width : Nat} (tail : Bytes) (before : Nat)
    (hlf : lf ∉ text) (hlength : text.length < width) :
    lineLength? before width (text ++ lf :: tail) =
      some (before + text.length + 1) := by
  obtain ⟨more, rfl⟩ := Nat.exists_eq_add_of_lt hlength
  have htake : (text ++ lf :: tail).take (text.length + more + 1) =
      text ++ lf :: tail.take more := by
    rw [Nat.add_assoc, List.take_length_add_append, List.take_succ_cons]
  rw [lineLength?_eq_map_findIdx?, htake, List.findIdx?_append, findIdx?_lf_eq_none hlf]
  simp [List.findIdx?_cons, Nat.add_assoc]

theorem lineLength?_eq_none {rest : Bytes} {width : Nat} (before : Nat)
    (hlf : lf ∉ rest.take width) :
    lineLength? before width rest = none := by
  rw [lineLength?_eq_map_findIdx?, findIdx?_lf_eq_none hlf, Option.map_none]

/-! ## One read -/

/-- A read without a line feed in its window is decided by the byte that
follows the window. -/
theorem readLength_of_window {window : Bytes} (tail : Bytes) (hlf : lf ∉ window) :
    readLength window.length (window ++ tail) =
      match tail.head? with
      | none => window.length
      | some next =>
        if next = lf ∧ window.getLast? = some cr then window.length + 1
        else if Utf8.isContinuation next then
          (lastBoundary? window).getD window.length
        else window.length := by
  have htake : (window ++ tail).take window.length = window := List.take_left
  have hget : (window ++ tail)[window.length]? = tail.head? := by
    rw [List.getElem?_append_right le_rfl, Nat.sub_self, List.head?_eq_getElem?]
  unfold readLength
  rw [lineLength?_eq_none 0 (by rwa [htake])]
  cases hhead : tail.head? with
  | none => simp only [htake, hget, hhead]
  | some next => simp only [htake, hget, hhead]

theorem ReadStep.readLength_eq {width : Nat} {read tail : Bytes}
    (hstep : ReadStep width read tail) :
    readLength width (read ++ tail) = read.length := by
  cases hstep with
  | @line text _ hlf hlength =>
      have hline := lineLength?_append tail 0 hlf hlength
      simp [readLength, hline]
  | @straddling text _ hlf hlength =>
      have hwindow : lf ∉ text ++ [cr] := by
        rw [List.mem_append, List.mem_singleton]
        exact not_or.mpr ⟨hlf, by decide⟩
      have h := readLength_of_window (lf :: tail) hwindow
      simp only [List.length_append, List.length_singleton, hlength] at h
      rw [show text ++ [cr, lf] ++ tail = text ++ [cr] ++ lf :: tail by simp, h]
      simp [← hlength]
  | last hlf hlength =>
      unfold readLength
      have htake : (read ++ []).take width = read := by
        rw [List.append_nil, List.take_of_length_le hlength]
      rw [lineLength?_eq_none 0 (by rwa [htake])]
      have hget : (read ++ [])[width]? = none := by
        simpa using hlength
      simp only [htake, hget]
  | @full _ rest next hlf hlength hline hboundary =>
      have h := readLength_of_window (next :: rest) hlf
      rw [hlength] at h
      rw [h, hlength]
      simp only [List.head?_cons, if_neg hline]
      split
      next hnext => simp [hboundary hnext]
      next => rfl
  | @backedOff _ trail rest lead next hread hlf hlength hlead htrail hshort hnext =>
      have hwidth : (read ++ lead :: trail).length = width := by
        simpa using hlength
      have hne : next ≠ lf := by
        intro heq
        rw [heq] at hnext
        exact absurd hnext (by decide)
      have h := readLength_of_window (next :: rest) hlf
      rw [hwidth] at h
      rw [show read ++ (lead :: trail ++ next :: rest) =
        read ++ lead :: trail ++ next :: rest by simp, h]
      simp [hne, hnext, lastBoundary?_eq_some hread hlead htrail hshort]

theorem exists_readStep (width : Nat) (content : Bytes) :
    ∃ read tail, content = read ++ tail ∧ ReadStep width read tail := by
  have hsplit := List.take_append_drop width content
  generalize hwindow : content.take width = window at hsplit
  by_cases hmem : lf ∈ window
  · obtain ⟨text, more, heq, hlf⟩ := List.eq_append_cons_of_mem hmem
    have hlength : text.length < width := by
      have htake : window.length ≤ width := by
        rw [← hwindow]
        exact List.length_take_le width content
      rw [heq] at htake
      simp only [List.length_append, List.length_cons] at htake
      omega
    refine ⟨text ++ [lf], more ++ content.drop width, ?_, .line hlf hlength⟩
    calc
      content = window ++ content.drop width := hsplit.symm
      _ = text ++ [lf] ++ (more ++ content.drop width) := by
        rw [heq]
        simp
  · cases hdrop : content.drop width with
    | nil =>
        rw [hdrop, List.append_nil] at hsplit
        have hlength : window.length ≤ width := by
          rw [← hwindow]
          exact List.length_take_le width content
        exact ⟨window, [], by simp [hsplit], .last hmem hlength⟩
    | cons next rest =>
        have hlength : window.length = width := by
          have hlt : 0 < (content.drop width).length := by simp [hdrop]
          rw [List.length_drop] at hlt
          rw [← hwindow, List.length_take]
          omega
        rw [hdrop] at hsplit
        by_cases hline : next = lf ∧ window.getLast? = some cr
        · obtain ⟨rfl, hlast⟩ := hline
          obtain ⟨text, rfl⟩ := List.getLast?_eq_some_iff.mp hlast
          refine ⟨text ++ [cr, lf], rest, ?_, .straddling ?_ ?_⟩
          · rw [← hsplit]
            simp
          · exact fun htext => hmem (List.mem_append_left _ htext)
          · simpa using hlength
        · by_cases hback : Utf8.isContinuation next = true ∧ lastBoundary? window ≠ none
          · obtain ⟨hnext, hboundary⟩ := hback
            obtain ⟨position, hposition⟩ := Option.ne_none_iff_exists'.mp hboundary
            obtain ⟨front, lead, trail, rfl, hfront, hlead, htrail, hshort⟩ :=
              exists_of_lastBoundary?_eq_some hposition
            refine ⟨front, lead :: trail ++ next :: rest, ?_,
              .backedOff hfront hmem ?_ hlead htrail hshort hnext⟩
            · rw [← hsplit]
              simp
            · simpa using hlength
          · refine ⟨window, next :: rest, hsplit.symm, .full hmem hlength hline ?_⟩
            intro hnext
            by_contra hboundary
            exact hback ⟨hnext, hboundary⟩

theorem ReadStep.ne_nil {width : Nat} {read tail : Bytes} (hwidth : 1 ≤ width)
    (hstep : ReadStep width read tail) (hne : read ++ tail ≠ []) :
    read ≠ [] := by
  cases hstep with
  | line => simp
  | straddling => simp
  | last => simpa using hne
  | full hlf hlength =>
      rw [← List.length_pos_iff, hlength]
      exact hwidth
  | backedOff hread => exact hread

/-- Bytes added at the end leave a read as it is, unless the read reached the
end without finding a line feed. -/
theorem ReadStep.append {width : Nat} {read tail : Bytes}
    (hstep : ReadStep width read tail) (more : Bytes) :
    ReadStep width read (tail ++ more) ∨
      (tail = [] ∧ lf ∉ read ∧ read.length ≤ width) := by
  cases hstep with
  | line hlf hlength => exact .inl (.line hlf hlength)
  | straddling hlf hlength => exact .inl (.straddling hlf hlength)
  | last hlf hlength => exact .inr ⟨rfl, hlf, hlength⟩
  | full hlf hlength hline hboundary =>
      exact .inl (.full hlf hlength hline hboundary)
  | @backedOff _ trail rest lead next hread hlf hlength hlead htrail hshort hnext =>
      left
      rw [show lead :: trail ++ next :: rest ++ more =
        lead :: trail ++ next :: (rest ++ more) by simp]
      exact .backedOff hread hlf hlength hlead htrail hshort hnext

/-! ## Runs of reads -/

/-- Reads taken one after another from the start of a content. -/
inductive ReadRun (width : Nat) :
    (content : Bytes) → (reads : List Bytes) → (remainder : Bytes) → Prop where
  | done (rest : Bytes) : ReadRun width rest [] rest
  | read {read tail remainder : Bytes} {reads : List Bytes}
      (hne : read ++ tail ≠ []) (hstep : ReadStep width read tail)
      (hrun : ReadRun width tail reads remainder) :
      ReadRun width (read ++ tail) (read :: reads) remainder

@[simp] theorem readUpTo_nil (width count : Nat) :
    readUpTo width count [] = ([], []) := by
  cases count <;> rfl

theorem readUpTo_succ {width : Nat} {read tail : Bytes}
    (hstep : ReadStep width read tail) (hne : read ++ tail ≠ []) (count : Nat) :
    readUpTo width (count + 1) (read ++ tail) =
      (read :: (readUpTo width count tail).1, (readUpTo width count tail).2) := by
  simp only [readUpTo, if_neg hne, hstep.readLength_eq, List.take_left, List.drop_left]

theorem readRun_readUpTo (width count : Nat) (content : Bytes) :
    ReadRun width content
      (readUpTo width count content).1 (readUpTo width count content).2 := by
  induction count generalizing content with
  | zero => exact .done content
  | succ count ih =>
      by_cases hne : content = []
      · subst content
        rw [readUpTo_nil]
        exact .done []
      · obtain ⟨read, tail, rfl, hstep⟩ := exists_readStep width content
        rw [readUpTo_succ hstep hne]
        exact .read hne hstep (ih tail)

theorem readUpTo_take {width count more : Nat} (hcount : count ≤ more)
    (content : Bytes) :
    (readUpTo width more content).1.take count = (readUpTo width count content).1 := by
  induction count generalizing more content with
  | zero => simp [readUpTo]
  | succ count ih =>
      obtain ⟨more, rfl⟩ := Nat.exists_eq_add_of_le' hcount
      by_cases hne : content = []
      · simp [hne]
      · obtain ⟨read, tail, rfl, hstep⟩ := exists_readStep width content
        rw [← Nat.add_assoc, readUpTo_succ hstep hne, readUpTo_succ hstep hne]
        simp [ih (Nat.le_add_left count more) tail]

/-- The options that reads hold: what is left of each without its line end,
unless nothing is left. -/
def optionsOf (reads : List Bytes) : List Bytes :=
  (reads.map withoutTerminator).filter (· ≠ [])

theorem parse_options (limits : Limits) (content : Bytes) :
    (parse limits content).options =
      optionsOf (readUpTo limits.window limits.maxOptions.toNat content).1 :=
  rfl

theorem parse_truncated_eq_false_iff (limits : Limits) (content : Bytes) :
    (parse limits content).truncated = false ↔
      (readUpTo limits.window limits.maxOptions.toNat content).2 = [] := by
  simp [parse]

end AppLauncher.Options
