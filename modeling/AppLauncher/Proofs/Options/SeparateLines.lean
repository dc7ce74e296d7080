import AppLauncher.Proofs.Options.Progress

/-!
# Lines apart from each other

A read that meets the end of a line ends there, so what follows a line end has no part
in the reads before it, and is read as if it stood alone.  Both parts share the limit
on the number of reads: the second gets what the first leaves of it.
-/

namespace AppLauncher

open Bytes (lf)

/-- What limits leave when some reads have been taken, if anything. -/
def Limits.after (limits : Limits) (reads : Nat) : Limits :=
  { limits with maxOptions := .ofNat (limits.maxOptions.toNat - reads) }

theorem Limits.maxOptions_after (limits : Limits) (reads : Nat) :
    (limits.after reads).maxOptions.toNat = limits.maxOptions.toNat - reads := by
  have hword : limits.maxOptions.toNat - reads < UInt64.size :=
    Nat.lt_of_le_of_lt (Nat.sub_le _ _) limits.maxOptions.toNat_lt
  exact UInt64.toNat_ofNat_of_lt hword

namespace Options

/-- A run that uses up a content with a line end at its end goes on with the reads of
whatever follows. -/
theorem ReadRun.append {width : Nat} {front back left remainder : Bytes}
    {reads later : List Bytes} (hrun : ReadRun width front reads left) (hdone : left = [])
    (hend : front = [] ∨ front.getLast? = some lf)
    (hlater : ReadRun width back later remainder) :
    ReadRun width (front ++ back) (reads ++ later) remainder := by
  induction hrun with
  | done rest =>
      rw [hdone, List.nil_append, List.nil_append]
      exact hlater
  | @read read tail left reads hne hstep _ ih =>
      have hlast : (read ++ tail).getLast? = some lf := hend.resolve_left hne
      have htail : tail = [] ∨ tail.getLast? = some lf := by
        by_cases hnil : tail = []
        · exact .inl hnil
        · rw [List.getLast?_append_of_ne_nil read hnil] at hlast
          exact .inr hlast
      have hsettled : ReadStep width read (tail ++ back) := by
        rcases hstep.append back with hsettled | ⟨rfl, hlf, -⟩
        · exact hsettled
        · -- A read without a line feed does not reach the end of the line.
          rw [List.append_nil] at hlast
          exact absurd (List.mem_of_getLast? hlast) hlf
      rw [List.append_assoc, List.cons_append]
      refine .read ?_ hsettled (ih hdone htail)
      rw [← List.append_assoc]
      exact List.append_ne_nil_of_left_ne_nil hne back

theorem ReadRun.unique {width : Nat} {content : Bytes} {reads others : List Bytes}
    (hrun : ReadRun width content reads []) (hother : ReadRun width content others []) :
    reads = others := by
  have htake (count : Nat) : reads.take count = others.take count := by
    have hreads := hrun.readUpTo_eq rfl count
    rw [hother.readUpTo_eq rfl count, Prod.mk.injEq] at hreads
    exact hreads.1.symm
  have hall := htake (max reads.length others.length)
  rwa [List.take_of_length_le (Nat.le_max_left _ _),
    List.take_of_length_le (Nat.le_max_right _ _)] at hall

theorem allReads_append_line {width : Nat} (hwidth : 1 ≤ width) (front back : Bytes) :
    allReads width (front ++ lf :: back) =
      allReads width (front ++ [lf]) ++ allReads width back := by
  have hline := readRun_allReads hwidth (front ++ [lf])
  have hback := readRun_allReads hwidth back
  have hjoined := hline.append rfl (.inr List.getLast?_concat) hback
  rw [List.append_assoc, List.singleton_append] at hjoined
  exact (readRun_allReads hwidth (front ++ lf :: back)).unique hjoined

/-- A content that goes on behind a line end gives the options up to the line end and
then those of what follows, by itself and with the reads that are left; and something is
left over exactly when it is of one of the two. -/
theorem parse_append_line (limits : Limits) (front back : Bytes) :
    let needed := (allReads limits.window (front ++ [lf])).length
    (∀ count, (readUpTo limits.window count (front ++ [lf])).2 = [] ↔ needed ≤ count) ∧
      (parse limits (front ++ lf :: back)).options =
        (parse limits (front ++ [lf])).options ++
          (parse (limits.after needed) back).options ∧
      ((parse limits (front ++ lf :: back)).truncated = true ↔
        (parse limits (front ++ [lf])).truncated = true ∨
          (parse (limits.after needed) back).truncated = true) := by
  intro needed
  have hreads := allReads_append_line limits.one_le_window front back
  have hcount := limits.maxOptions_after needed
  have hwindow : (limits.after needed).window = limits.window := rfl
  refine ⟨?_, ?_, ?_⟩
  · intro count
    exact remainder_readUpTo_eq_nil_iff limits.one_le_window count (front ++ [lf])
  · rw [parse_options_eq_take, parse_options_eq_take, parse_options_eq_take, hreads,
      List.take_append, optionsOf_append, hcount, hwindow]
  · rw [parse_truncated_iff, parse_truncated_iff, parse_truncated_iff, hreads,
      List.length_append, hcount, hwindow]
    omega

end Options

end AppLauncher
