import AppLauncher.Toml.Quoted
import AppLauncher.Toml.Quoted.Writing
import Mathlib.Data.List.Basic

/-!
# Quoted strings, written and read

Each form that a text may be written in is read back as the text.  Escaped forms
hold any text, since every character that is not shown is escaped; the literal
forms hold the texts for which they are chosen.  In the forms over several lines
a reader looks for three marks in a row, so the induction follows the run of
marks that is open: it never reaches three before the closing marks.
-/

namespace AppLauncher.Toml.Quoted

/-! ## Escapes -/

/-- What follows the backslash in the escape of a character.  It continues no
line. -/
structure Escapes (c : Char) (escape : List Char) : Prop where
  read : ∀ rest, readEscape (escape ++ rest) = some (c, rest)
  visible : ∀ rest, afterContinuation? (escape ++ rest) = none

theorem escapes_letter {c letter : Char}
    (hread : ∀ rest, readEscape (letter :: rest) = some (c, rest))
    (hletter : isSpace letter = false ∧ letter ≠ '\n' ∧ letter ≠ '\r') :
    Escapes c [letter] := by
  refine ⟨hread, fun rest => ?_⟩
  obtain ⟨hspace, hlf, hcr⟩ := hletter
  simp only [List.singleton_append, afterContinuation?, skipSpaces,
    List.dropWhile_cons, hspace]
  simp [afterLineEnd?, hlf, hcr]

theorem escapes_mark : Escapes '"' ['"'] :=
  escapes_letter (fun _ => rfl) (by decide)

theorem escapes_lineFeed : Escapes '\n' ['n'] :=
  escapes_letter (fun _ => rfl) (by decide)

theorem hexDigit_read : ∀ value < 16,
    let c := if value < 10 then Char.ofNat ('0'.toNat + value)
      else Char.ofNat ('A'.toNat + value - 10)
    isHexDigit c = true ∧ digitValue c = value := by
  decide +kernel

theorem readHex_hexQuad {number : Nat} (hnumber : number < 0x10000) (rest : List Char) :
    readHex 4 0 (hexQuad number ++ rest) = some (number, rest) := by
  obtain ⟨hfirst, hvalue1⟩ := hexDigit_read (number / 4096 % 16) (by omega)
  obtain ⟨hsecond, hvalue2⟩ := hexDigit_read (number / 256 % 16) (by omega)
  obtain ⟨hthird, hvalue3⟩ := hexDigit_read (number / 16 % 16) (by omega)
  obtain ⟨hfourth, hvalue4⟩ := hexDigit_read (number % 16) (by omega)
  simp only [hexQuad, List.cons_append, List.nil_append, readHex, hfirst, hsecond, hthird,
    hfourth, hvalue1, hvalue2, hvalue3, hvalue4, if_true, Option.some.injEq, Prod.mk.injEq,
    and_true]
  omega

theorem escapes_number {c : Char} (hc : c.toNat < 0x10000) :
    Escapes c ('u' :: hexQuad c.toNat) := by
  constructor
  · intro rest
    have hvalid : c.toNat.isValidChar := c.valid
    simp only [List.cons_append, readEscape, readScalar, readHex_hexQuad hc,
      Option.bind_eq_bind, Option.bind_some, if_pos hvalid, Char.ofNat_toNat]
  · intro rest
    rfl

/-- A character is shown as it is or escaped. -/
theorem writeChar_cases (c : Char) :
    (writeChar c = [c] ∧ isPlain c = true ∧ c ≠ '\\') ∨
      ∃ escape, writeChar c = '\\' :: escape ∧ Escapes c escape := by
  unfold writeChar
  split
  · exact .inr ⟨_, rfl, escapes_letter (fun _ => rfl) (by decide)⟩
  · exact .inr ⟨_, rfl, escapes_letter (fun _ => rfl) (by decide)⟩
  · exact .inr ⟨_, rfl, escapes_letter (fun _ => rfl) (by decide)⟩
  · exact .inr ⟨_, rfl, escapes_letter (fun _ => rfl) (by decide)⟩
  · exact .inr ⟨_, rfl, escapes_letter (fun _ => rfl) (by decide)⟩
  · next hbackslash =>
    by_cases hplain : isPlain c = true
    · exact .inl ⟨if_pos hplain, hplain, hbackslash⟩
    · refine .inr ⟨_, if_neg hplain, escapes_number ?_⟩
      simp [isPlain] at hplain
      omega

/-! ## Basic strings -/

@[simp] theorem readBasic_mark (rest : List Char) :
    readBasic ('"' :: rest) = some ([], rest) := by
  rw [readBasic]

theorem readBasic_escape {c : Char} {escape : List Char} (hescape : Escapes c escape)
    (rest : List Char) :
    readBasic ('\\' :: (escape ++ rest)) =
      (readBasic rest).map fun (text, rest) => (c :: text, rest) := by
  rw [readBasic]
  split
  next hnone => simp [hescape.read] at hnone
  next first after hsome =>
    rw [hescape.read, Option.some.injEq, Prod.mk.injEq] at hsome
    obtain ⟨rfl, rfl⟩ := hsome
    rfl

theorem readBasic_plain {c : Char} (hplain : isPlain c = true) (hmark : c ≠ '"')
    (hbackslash : c ≠ '\\') (rest : List Char) :
    readBasic (c :: rest) =
      (readBasic rest).map fun (text, rest) => (c :: text, rest) := by
  rw [readBasic]
  · rw [if_pos hplain]
  · exact hmark
  · exact hbackslash

theorem readBasic_writeBasic (text tail : List Char) :
    readBasic (writeBasic text ++ '"' :: tail) = some (text, tail) := by
  fun_induction writeBasic text with
  | case1 => simp
  | case2 rest ih =>
      have hescape := readBasic_escape escapes_mark (writeBasic rest ++ '"' :: tail)
      simpa [ih] using hescape
  | case3 rest ih =>
      have hescape := readBasic_escape escapes_lineFeed (writeBasic rest ++ '"' :: tail)
      simpa [ih] using hescape
  | case4 c rest hmark _ ih =>
      rw [List.append_assoc]
      rcases writeChar_cases c with ⟨hshown, hplain, hbackslash⟩ | ⟨escape, hwrite, hescape⟩
      · rw [hshown, List.singleton_append, readBasic_plain hplain hmark hbackslash, ih]
        rfl
      · rw [hwrite, List.cons_append, readBasic_escape hescape, ih]
        rfl

/-! ## Literal strings -/

theorem readLiteral_append {text : List Char} (tail : List Char)
    (hplain : ∀ c ∈ text, isPlain c = true) (hmark : '\'' ∉ text) :
    readLiteral (text ++ '\'' :: tail) = some (text, tail) := by
  induction text with
  | nil => simp [readLiteral]
  | cons c text ih =>
      simp only [List.mem_cons, not_or] at hmark
      have hrest := ih (fun other hmem => hplain other (List.mem_cons_of_mem c hmem)) hmark.2
      simp [readLiteral, Ne.symm hmark.1, hplain c List.mem_cons_self, hrest]

/-! ## Three marks in a row -/

section Marks

variable {mark c d e : Char}

@[simp] theorem afterTriple?_marks (mark : Char) (rest : List Char) :
    afterTriple? mark (mark :: mark :: mark :: rest) = some rest := by
  simp [afterTriple?]

theorem afterTriple?_of_first_ne (hc : c ≠ mark) (rest : List Char) :
    afterTriple? mark (c :: rest) = none := by
  unfold afterTriple?
  split
  next heq =>
    obtain ⟨rfl, -⟩ := List.cons.inj heq
    simp [hc]
  next => rfl

theorem afterTriple?_of_second_ne (hd : d ≠ mark) (rest : List Char) :
    afterTriple? mark (c :: d :: rest) = none := by
  unfold afterTriple?
  split
  next heq =>
    obtain ⟨rfl, rfl, -⟩ := by simpa using heq
    simp [hd]
  next => rfl

theorem afterTriple?_of_third_ne (he : e ≠ mark) (rest : List Char) :
    afterTriple? mark (c :: d :: e :: rest) = none := by
  simp [afterTriple?, he]

theorem closing_of_head?_ne {tail : List Char} (htail : tail.head? ≠ some mark) :
    closing mark tail = ([], tail) := by
  cases tail with
  | nil => rfl
  | cons first rest =>
      have hfirst : first ≠ mark := by simpa using htail
      cases rest <;> simp [closing, hfirst]

theorem closing_mark {tail : List Char} (htail : tail.head? ≠ some mark) :
    closing mark (mark :: tail) = ([mark], tail) := by
  cases tail with
  | nil => simp [closing]
  | cons first rest =>
      have hfirst : first ≠ mark := by simpa using htail
      simp [closing, hfirst]

theorem closing_marks (mark : Char) (tail : List Char) :
    closing mark (mark :: mark :: tail) = ([mark, mark], tail) := by
  simp [closing]

end Marks

/-! ## Basic strings over several lines -/

theorem readLongBasic_closing {text rest : List Char}
    (htriple : afterTriple? '"' text = some rest) :
    readLongBasic text = some (closing '"' rest) := by
  rw [readLongBasic.eq_def, htriple]

theorem readLongBasic_escape {c : Char} {escape : List Char} (hescape : Escapes c escape)
    (rest : List Char) :
    readLongBasic ('\\' :: (escape ++ rest)) =
      (readLongBasic rest).map fun (text, rest) => (c :: text, rest) := by
  rw [readLongBasic.eq_def, afterTriple?_of_first_ne (by decide)]
  simp only
  split
  next hsome => simp [hescape.visible] at hsome
  next =>
    split
    next hnone => simp [hescape.read] at hnone
    next first after hsome =>
      rw [hescape.read, Option.some.injEq, Prod.mk.injEq] at hsome
      obtain ⟨rfl, rfl⟩ := hsome
      rfl

theorem readLongBasic_shown {c : Char} {rest : List Char}
    (htriple : afterTriple? '"' (c :: rest) = none)
    (hshown : isPlain c = true ∨ c = '\n') (hbackslash : c ≠ '\\') :
    readLongBasic (c :: rest) =
      (readLongBasic rest).map fun (text, rest) => (c :: text, rest) := by
  have hcr : c ≠ '\r' := by
    rintro rfl
    exact absurd hshown (by decide)
  rw [readLongBasic.eq_def, htriple]
  -- Neither of the characters that begin something else is there.
  simp only
  rw [if_pos (by simpa using hshown)]

theorem exists_writeLongBasic_cons (run : Nat) (c : Char) (rest : List Char)
    (hmark : c = '"' → run = 2) :
    ∃ first more, writeLongBasic run (c :: rest) = first :: more ∧ first ≠ '"' := by
  by_cases hc : c = '"'
  · subst hc
    refine ⟨'\\', '"' :: writeLongBasic 0 rest, ?_, by decide⟩
    simp only [writeLongBasic, if_pos (hmark rfl)]
  · by_cases hlf : c = '\n'
    · subst hlf
      exact ⟨_, _, rfl, by decide⟩
    · have hwrite : writeLongBasic run (c :: rest) =
          writeChar c ++ writeLongBasic 0 rest := by
        rw [writeLongBasic]
        · exact hc
        · exact hlf
      rcases writeChar_cases c with ⟨hshown, -, -⟩ | ⟨escape, hescape, -⟩
      · exact ⟨c, _, by rw [hwrite, hshown]; rfl, hc⟩
      · exact ⟨'\\', _, by rw [hwrite, hescape]; rfl, by decide⟩

/-- A mark that is written as it is either belongs to the last marks of the text or
is followed by something else before there are three. -/
theorem afterTriple?_writeLongBasic {run : Nat} {rest : List Char} (tail : List Char)
    (hrun : run < 2) (hrest : rest ≠ []) (hmarks : ¬(run = 0 ∧ rest = ['"'])) :
    afterTriple? '"' ('"' :: (writeLongBasic (run + 1) rest ++ tail)) = none := by
  obtain ⟨c, rest, rfl⟩ := List.exists_cons_of_ne_nil hrest
  by_cases hclosed : c = '"' → run + 1 = 2
  · obtain ⟨first, more, hwrite, hfirst⟩ := exists_writeLongBasic_cons _ c rest hclosed
    rw [hwrite]
    exact afterTriple?_of_second_ne hfirst _
  · -- The second mark of a run is written as it is, the third one is escaped.
    rw [Classical.not_imp] at hclosed
    obtain ⟨rfl, hshort⟩ := hclosed
    obtain rfl : run = 0 := by omega
    have hmore : rest ≠ [] := fun hnil => hmarks ⟨rfl, by rw [hnil]⟩
    obtain ⟨d, rest, rfl⟩ := List.exists_cons_of_ne_nil hmore
    obtain ⟨first, more, hwrite, hfirst⟩ :=
      exists_writeLongBasic_cons 2 d rest (fun _ => rfl)
    simp only [writeLongBasic, hwrite]
    exact afterTriple?_of_third_ne hfirst _

theorem readLongBasic_writeLongBasic {run : Nat} (hrun : run ≤ 2) (text : List Char)
    {tail : List Char} (htail : tail.head? ≠ some '"') :
    readLongBasic (writeLongBasic run text ++ '"' :: '"' :: '"' :: tail) =
      some (text, tail) := by
  fun_induction writeLongBasic run text with
  | case1 run =>
      rw [List.nil_append, readLongBasic_closing (afterTriple?_marks '"' tail),
        closing_of_head?_ne htail]
  | case2 rest ih =>
      have hescape := readLongBasic_escape escapes_mark
        (writeLongBasic 0 rest ++ '"' :: '"' :: '"' :: tail)
      simpa [ih (by omega)] using hescape
  | case3 run rest hrun' ih =>
      by_cases hlast : rest = []
      · subst hlast
        simp only [writeLongBasic, List.cons_append, List.nil_append]
        rw [readLongBasic_closing (afterTriple?_marks '"' _), closing_mark htail]
      · by_cases hmarks : run = 0 ∧ rest = ['"']
        · obtain ⟨rfl, rfl⟩ := hmarks
          simp only [writeLongBasic, List.cons_append, Nat.zero_add]
          rw [if_neg (by decide), List.cons_append, List.nil_append,
            readLongBasic_closing (afterTriple?_marks '"' _), closing_marks]
        · have htriple := afterTriple?_writeLongBasic
            ('"' :: '"' :: '"' :: tail) (by omega) hlast hmarks
          rw [List.cons_append, readLongBasic_shown htriple (.inl rfl) (by decide),
            ih (by omega)]
          rfl
  | case4 run rest ih =>
      rw [List.cons_append, readLongBasic_shown (afterTriple?_of_first_ne (by decide) _)
        (.inr rfl) (by decide), ih (by omega)]
      rfl
  | case5 run c rest hmark _ ih =>
      rw [List.append_assoc]
      rcases writeChar_cases c with ⟨hshown, hplain, hbackslash⟩ | ⟨escape, hwrite, hescape⟩
      · rw [hshown, List.singleton_append,
          readLongBasic_shown (afterTriple?_of_first_ne hmark _) (.inl hplain) hbackslash,
          ih (by omega)]
        rfl
      · rw [hwrite, List.cons_append, readLongBasic_escape hescape, ih (by omega)]
        rfl

/-! ## Literal strings over several lines -/

theorem readLongLiteral_closing {text rest : List Char}
    (htriple : afterTriple? '\'' text = some rest) :
    readLongLiteral text = some (closing '\'' rest) := by
  rw [readLongLiteral.eq_def, htriple]

theorem readLongLiteral_shown {c : Char} {rest : List Char}
    (htriple : afterTriple? '\'' (c :: rest) = none)
    (hshown : isPlain c = true ∨ c = '\n') :
    readLongLiteral (c :: rest) =
      (readLongLiteral rest).map fun (text, rest) => (c :: text, rest) := by
  have hcr : c ≠ '\r' := by
    rintro rfl
    exact absurd hshown (by decide)
  rw [readLongLiteral.eq_def, htriple]
  simp only
  rw [if_pos (by simpa using hshown)]

theorem le_longestRun_go (mark : Char) (longest current : Nat) (text : List Char) :
    longest ≤ longestRun.go mark longest current text ∧
      current ≤ longestRun.go mark longest current text := by
  fun_induction longestRun.go mark longest current text with
  | case1 longest current => exact ⟨Nat.le_max_left .., Nat.le_max_right ..⟩
  | case2 longest current c rest _ ih => exact ⟨ih.1, by omega⟩
  | case3 longest current c rest _ ih =>
      exact ⟨Nat.le_trans (Nat.le_max_left ..) ih.1, Nat.le_trans (Nat.le_max_right ..) ih.1⟩

theorem readLongLiteral_append {longest current : Nat} {text tail : List Char}
    (hshown : ∀ c ∈ text, isPlain c = true ∨ c = '\n')
    (hrun : longestRun.go '\'' longest current text ≤ 2)
    (htail : tail.head? ≠ some '\'') :
    readLongLiteral (text ++ '\'' :: '\'' :: '\'' :: tail) = some (text, tail) := by
  induction text generalizing longest current with
  | nil =>
      rw [List.nil_append, readLongLiteral_closing (afterTriple?_marks '\'' tail),
        closing_of_head?_ne htail]
  | cons c text ih =>
      have hc := hshown c List.mem_cons_self
      have hlater : ∀ other ∈ text, isPlain other = true ∨ other = '\n' :=
        fun other hmem => hshown other (List.mem_cons_of_mem c hmem)
      by_cases hmark : c = '\''
      · subst hmark
        have hopen : longestRun.go '\'' longest (current + 1) text ≤ 2 := by
          simpa [longestRun.go] using hrun
        rcases text with _ | ⟨d, text⟩
        · exact (readLongLiteral_closing (afterTriple?_marks '\'' _)).trans
            (by rw [closing_mark htail])
        rcases eq_or_ne d '\'' with rfl | hd
        · rcases text with _ | ⟨e, text⟩
          · exact (readLongLiteral_closing (afterTriple?_marks '\'' _)).trans
              (by rw [closing_marks])
          · have he : e ≠ '\'' := by
              rintro rfl
              have hthree := (le_longestRun_go '\'' longest (current + 1 + 1 + 1) text).2
              simp only [longestRun.go, beq_self_eq_true, if_true] at hopen
              omega
            show readLongLiteral ('\'' :: '\'' :: e :: (text ++ '\'' :: '\'' :: '\'' :: tail)) = _
            rw [readLongLiteral_shown (afterTriple?_of_third_ne he _) hc]
            exact congrArg _ (ih hlater hopen)
        · show readLongLiteral ('\'' :: d :: (text ++ '\'' :: '\'' :: '\'' :: tail)) = _
          rw [readLongLiteral_shown (afterTriple?_of_second_ne hd _) hc]
          exact congrArg _ (ih hlater hopen)
      · have hclosed : longestRun.go '\'' (max longest current) 0 text ≤ 2 := by
          simpa [longestRun.go, hmark] using hrun
        rw [List.cons_append, readLongLiteral_shown (afterTriple?_of_first_ne hmark _) hc,
          ih hlater hclosed]
        rfl

/-! ## The choice of a form -/

theorem shown_of_no_control {text : List Char} (hcontrol : text.any isControl = false) :
    ∀ c ∈ text, isPlain c = true ∨ c = '\n' := by
  intro c hc
  have hshown : isControl c = false := by
    rw [List.any_eq_false] at hcontrol
    simpa using hcontrol c hc
  by_cases hplain : isPlain c = true
  · exact .inl hplain
  · right
    simpa [isControl, hplain] using hshown

theorem notMem_of_longestRun_eq_zero {mark : Char} {text : List Char}
    (hrun : longestRun mark text = 0) : mark ∉ text := by
  have hgo : ∀ longest current, mark ∈ text → 0 < longestRun.go mark longest current text := by
    clear hrun
    induction text with
    | nil => simp
    | cons c text ih =>
        intro longest current hmem
        by_cases hc : c = mark
        · have hopen := (le_longestRun_go mark longest (current + 1) text).2
          simp only [longestRun.go, hc, beq_self_eq_true, if_true]
          omega
        · have htext : mark ∈ text := (List.mem_cons.mp hmem).resolve_left (Ne.symm hc)
          simpa [longestRun.go, hc] using ih (max longest current) 0 htext
  intro hmem
  have hpositive := hgo 0 0 hmem
  rw [longestRun] at hrun
  omega

theorem of_formOf_eq_literal {text : List Char} (hform : formOf text = .literal) :
    text ≠ [] ∧ (∀ c ∈ text, isPlain c = true) ∧ '\'' ∉ text := by
  have hne : text ≠ [] := by
    rintro rfl
    exact absurd hform (by decide)
  unfold formOf at hform
  simp only at hform
  split at hform
  · contradiction
  split at hform
  next hchosen =>
    simp only [Bool.and_eq_true, Bool.not_eq_true', beq_iff_eq] at hchosen
    obtain ⟨⟨hcontrol, hlines⟩, hmarks⟩ := hchosen
    refine ⟨hne, fun c hc => ?_, notMem_of_longestRun_eq_zero hmarks⟩
    refine (shown_of_no_control hcontrol c hc).resolve_right ?_
    rintro rfl
    simp [hc] at hlines
  repeat' (split at hform <;> try contradiction)

theorem of_formOf_eq_longLiteral {text : List Char} (hform : formOf text = .longLiteral) :
    (∀ c ∈ text, isPlain c = true ∨ c = '\n') ∧ longestRun '\'' text ≤ 2 := by
  unfold formOf at hform
  simp only at hform
  split at hform
  · contradiction
  split at hform
  · contradiction
  split at hform
  · contradiction
  split at hform
  next hchosen =>
    simp only [Bool.and_eq_true, Bool.not_eq_true', decide_eq_true_eq] at hchosen
    exact ⟨shown_of_no_control hchosen.1, hchosen.2⟩
  split at hform <;> contradiction

/-! ## Any form -/

theorem exists_writeBasic_cons (c : Char) (rest : List Char) :
    ∃ first more, writeBasic (c :: rest) = first :: more ∧ first ≠ '"' := by
  by_cases hmark : c = '"'
  · subst hmark
    exact ⟨_, _, rfl, by decide⟩
  · by_cases hlf : c = '\n'
    · subst hlf
      exact ⟨_, _, rfl, by decide⟩
    · have hwrite : writeBasic (c :: rest) = writeChar c ++ writeBasic rest := by
        rw [writeBasic]
        · exact hmark
        · exact hlf
      rcases writeChar_cases c with ⟨hshown, -, -⟩ | ⟨escape, hescape, -⟩
      · exact ⟨c, _, by rw [hwrite, hshown]; rfl, hmark⟩
      · exact ⟨'\\', _, by rw [hwrite, hescape]; rfl, by decide⟩

theorem afterLineEnd?_of_ne {c : Char} (hlf : c ≠ '\n') (hcr : c ≠ '\r')
    (rest : List Char) : afterLineEnd? (c :: rest) = none := by
  simp [afterLineEnd?, hlf, hcr]

/-- The line feed that opens a form over several lines is skipped, and without it
there is no line end to be skipped. -/
theorem skipFirstLineEnd_firstLine {text body : List Char}
    (hbody : '\n' ∉ text → afterLineEnd? body = none) :
    skipFirstLineEnd (firstLine text ++ body) = body := by
  by_cases hlines : '\n' ∈ text
  · simp [firstLine, hlines, skipFirstLineEnd, afterLineEnd?]
  · simp [firstLine, hlines, skipFirstLineEnd, hbody hlines]

theorem afterLineEnd?_writeLongBasic {text : List Char} (tail : List Char)
    (hlines : '\n' ∉ text) :
    afterLineEnd? (writeLongBasic 0 text ++ '"' :: tail) = none := by
  cases text with
  | nil => rfl
  | cons c text =>
      simp only [List.mem_cons, not_or] at hlines
      by_cases hmark : c = '"'
      · subst hmark
        rfl
      · have hwrite : writeLongBasic 0 (c :: text) =
            writeChar c ++ writeLongBasic 0 text := by
          rw [writeLongBasic]
          · exact hmark
          · exact Ne.symm hlines.1
        rcases writeChar_cases c with ⟨hshown, hplain, -⟩ | ⟨escape, hescape, -⟩
        · have hcr : c ≠ '\r' := by
            rintro rfl
            exact absurd hplain (by decide)
          rw [hwrite, hshown]
          exact afterLineEnd?_of_ne (Ne.symm hlines.1) hcr _
        · rw [hwrite, hescape]
          rfl

theorem afterLineEnd?_of_shown {text : List Char} (tail : List Char)
    (hshown : ∀ c ∈ text, isPlain c = true ∨ c = '\n') (hlines : '\n' ∉ text) :
    afterLineEnd? (text ++ '\'' :: tail) = none := by
  cases text with
  | nil => rfl
  | cons c text =>
      have hlf : c ≠ '\n' := by
        rintro rfl
        exact hlines List.mem_cons_self
      have hcr : c ≠ '\r' := by
        rintro rfl
        exact absurd (hshown '\r' List.mem_cons_self) (by decide)
      exact afterLineEnd?_of_ne hlf hcr _

section Forms

variable {text tail : List Char}

theorem read_basic (hmark : tail.head? ≠ some '"') :
    read ('"' :: (writeBasic text ++ '"' :: tail)) = some (text, tail) := by
  have htriple : afterTriple? '"' ('"' :: (writeBasic text ++ '"' :: tail)) = none := by
    cases text with
    | nil =>
        cases tail with
        | nil => rfl
        | cons e tail => exact afterTriple?_of_third_ne (by simpa using hmark) tail
    | cons c text =>
        obtain ⟨first, more, hwrite, hfirst⟩ := exists_writeBasic_cons c text
        rw [hwrite]
        exact afterTriple?_of_second_ne hfirst _
  have hother : afterTriple? '\'' ('"' :: (writeBasic text ++ '"' :: tail)) = none :=
    afterTriple?_of_first_ne (by decide) _
  simp only [read, htriple, hother]
  exact readBasic_writeBasic text tail

theorem read_literal (hne : text ≠ []) (hplain : ∀ c ∈ text, isPlain c = true)
    (habsent : '\'' ∉ text) :
    read ('\'' :: (text ++ '\'' :: tail)) = some (text, tail) := by
  obtain ⟨c, rest, rfl⟩ := List.exists_cons_of_ne_nil hne
  have hc : c ≠ '\'' := by
    rintro rfl
    exact habsent List.mem_cons_self
  have htriple : afterTriple? '\'' ('\'' :: (c :: rest ++ '\'' :: tail)) = none :=
    afterTriple?_of_second_ne hc _
  have hother : afterTriple? '"' ('\'' :: (c :: rest ++ '\'' :: tail)) = none :=
    afterTriple?_of_first_ne (by decide) _
  simp only [read, htriple, hother]
  exact readLiteral_append tail hplain habsent

theorem read_longBasic (hmark : tail.head? ≠ some '"') :
    read ('"' :: '"' :: '"' :: (firstLine text ++
      (writeLongBasic 0 text ++ '"' :: '"' :: '"' :: tail))) = some (text, tail) := by
  simp only [read, afterTriple?_marks]
  rw [skipFirstLineEnd_firstLine fun hlines => afterLineEnd?_writeLongBasic _ hlines]
  exact readLongBasic_writeLongBasic (Nat.zero_le 2) text hmark

theorem read_longLiteral (hshown : ∀ c ∈ text, isPlain c = true ∨ c = '\n')
    (hrun : longestRun '\'' text ≤ 2) (happostrophe : tail.head? ≠ some '\'') :
    read ('\'' :: '\'' :: '\'' :: (firstLine text ++
      (text ++ '\'' :: '\'' :: '\'' :: tail))) = some (text, tail) := by
  have hother : ∀ rest, afterTriple? '"' ('\'' :: rest) = none :=
    afterTriple?_of_first_ne (by decide)
  simp only [read, hother, afterTriple?_marks]
  rw [skipFirstLineEnd_firstLine fun hlines => afterLineEnd?_of_shown _ hshown hlines]
  exact readLongLiteral_append hshown hrun happostrophe

/-- A text is read back from its written form, whatever follows, as long as no mark
is added to the closing one. -/
theorem read_write (text : List Char) (hmark : tail.head? ≠ some '"')
    (happostrophe : tail.head? ≠ some '\'') :
    read (write text ++ tail) = some (text, tail) := by
  unfold write
  split
  next => simpa using read_basic hmark
  next hform =>
    obtain ⟨hne, hplain, habsent⟩ := of_formOf_eq_literal hform
    simpa using read_literal hne hplain habsent
  next => simpa using read_longBasic hmark
  next hform =>
    obtain ⟨hshown, hrun⟩ := of_formOf_eq_longLiteral hform
    simpa using read_longLiteral hshown hrun happostrophe

end Forms

end AppLauncher.Toml.Quoted
