import AppLauncher.Proofs.Toml.QuotedStrings
import AppLauncher.Proofs.Toml.WholeNumbers
import AppLauncher.Settings.Render
import AppLauncher.Toml.Document

/-!
# Written lines

Settings are written one statement a line: a header in brackets, or a bare key
and a value, with blank lines between.  Reading such lines gives their statements
in order, whatever the values are, because every value is read back up to the end
of its line.
-/

namespace AppLauncher.Toml

/-- A key that needs no quotation marks. -/
structure BareKey where
  name : String
  nonempty : name.toList ≠ [] := by decide
  bare : name.toList.all isBare = true := by decide

/-- A value with the form it is written in.  It is read back from there up to the
end of the line. -/
structure WrittenValue where
  text : List Char
  value : Value
  skip : ∀ rest, skipSpaces (text ++ '\n' :: rest) = text ++ '\n' :: rest
  read : ∀ size depth rest, readNode size depth (text ++ '\n' :: rest) =
    some (.mk (text ++ '\n' :: rest) value, '\n' :: rest)

/-! ## Blanks -/

theorem skipSpaces_blank (rest : List Char) : skipSpaces (' ' :: rest) = skipSpaces rest :=
  rfl

theorem skipSpaces_of_not_isSpace {c : Char} (hc : isSpace c = false) (rest : List Char) :
    skipSpaces (c :: rest) = c :: rest := by
  simp [skipSpaces, hc]

/-! ## Values -/

theorem Quoted.exists_write_cons (text : List Char) :
    ∃ rest, write text = '"' :: rest ∨ write text = '\'' :: rest := by
  unfold write
  split
  · exact ⟨_, .inl rfl⟩
  · exact ⟨_, .inr rfl⟩
  · exact ⟨_, .inl rfl⟩
  · exact ⟨_, .inr rfl⟩

theorem readNode_write (size depth : Nat) (text rest : List Char) :
    readNode size depth (Quoted.write text ++ '\n' :: rest) =
      some (.mk (Quoted.write text ++ '\n' :: rest) (.string (String.ofList text)),
        '\n' :: rest) := by
  have hread : Quoted.read (Quoted.write text ++ '\n' :: rest) = some (text, '\n' :: rest) :=
    Quoted.read_write text (by simp) (by simp)
  obtain ⟨inside, hwrite | hwrite⟩ := Quoted.exists_write_cons text
  · rw [hwrite] at hread ⊢
    simp only [List.cons_append] at hread ⊢
    simp [readNode, hread]
  · rw [hwrite] at hread ⊢
    simp only [List.cons_append] at hread ⊢
    simp [readNode, hread]

theorem isScalar_of_isDigit {c : Char} (hc : c.isDigit = true) : isScalar c = true := by
  have hother : ∀ other : Char, other.isDigit = false → c ≠ other :=
    fun _ => ne_of_isDigit hc
  simp [isScalar, isSpace, hother]

theorem exists_toDigits_cons (number : Nat) :
    ∃ c rest, Nat.toDigits 10 number = c :: rest ∧
      ∀ other : Char, other.isDigit = false → c ≠ other := by
  obtain ⟨c, rest, hdigits⟩ := List.exists_cons_of_ne_nil
    (Nat.toDigits_ne_nil : Nat.toDigits 10 number ≠ [])
  have hmem : c ∈ Nat.toDigits 10 number := by simp [hdigits]
  exact ⟨c, rest, hdigits, fun _ => ne_of_isDigit (isDigit_of_mem_toDigits c hmem)⟩

theorem readNode_toDigits (size depth number : Nat) (rest : List Char) :
    readNode size depth (Nat.toDigits 10 number ++ '\n' :: rest) =
      some (.mk (Nat.toDigits 10 number ++ '\n' :: rest) (.integer (some number)),
        '\n' :: rest) := by
  have hscalar : ∀ c ∈ Nat.toDigits 10 number, isScalar c = true :=
    fun c hc => isScalar_of_isDigit (isDigit_of_mem_toDigits c hc)
  have hword : (Nat.toDigits 10 number ++ '\n' :: rest).takeWhile isScalar =
      Nat.toDigits 10 number := by
    rw [List.takeWhile_append_of_pos hscalar]
    simp [isScalar]
  have hrest : (Nat.toDigits 10 number ++ '\n' :: rest).dropWhile isScalar =
      '\n' :: rest := by
    rw [List.dropWhile_append_of_pos hscalar]
    simp [isScalar]
  have hread : readScalar (Nat.toDigits 10 number ++ '\n' :: rest) =
      some (.integer (some number), '\n' :: rest) := by
    simp [readScalar, hword, hrest, scalar?_toDigits]
  obtain ⟨c, digits, hdigits, hother⟩ := exists_toDigits_cons number
  rw [hdigits, List.cons_append] at hread ⊢
  unfold readNode
  simp [hother, hread]

namespace WrittenValue

def quoted (text : List Char) : WrittenValue where
  text := Quoted.write text
  value := .string (String.ofList text)
  skip := fun rest => by
    obtain ⟨inside, hwrite | hwrite⟩ := Quoted.exists_write_cons text
    · rw [hwrite]
      exact skipSpaces_of_not_isSpace (by decide) _
    · rw [hwrite]
      exact skipSpaces_of_not_isSpace (by decide) _
  read := fun size depth => readNode_write size depth text

def number (number : Nat) : WrittenValue where
  text := Nat.toDigits 10 number
  value := .integer (some number)
  skip := fun rest => by
    obtain ⟨c, digits, hdigits, hother⟩ := exists_toDigits_cons number
    rw [hdigits]
    exact skipSpaces_of_not_isSpace (by simp [isSpace, hother]) _
  read := fun size depth => readNode_toDigits size depth number

end WrittenValue

/-! ## Keys -/

theorem ne_of_isBare {c other : Char} (hc : isBare c = true)
    (hother : isBare other = false) : c ≠ other := by
  rintro rfl
  rw [hc] at hother
  contradiction

namespace BareKey

variable (key : BareKey)

theorem isBare_of_mem {c : Char} (hc : c ∈ key.name.toList) : isBare c = true :=
  List.all_eq_true.mp key.bare c hc

theorem exists_cons : ∃ c rest, key.name.toList = c :: rest ∧
    ∀ other, isBare other = false → c ≠ other := by
  obtain ⟨c, rest, hname⟩ := List.exists_cons_of_ne_nil key.nonempty
  exact ⟨c, rest, hname, fun _ => ne_of_isBare (key.isBare_of_mem (by simp [hname]))⟩

/-- Up to the first character that is not bare, a key is read as it is. -/
theorem readKey_append (after : List Char) {c : Char} (hafter : isBare c = false) :
    readKey (key.name.toList ++ c :: after) =
      some (⟨key.name, key.name.toList ++ c :: after⟩, c :: after) := by
  have hbare : (key.name.toList ++ c :: after).takeWhile isBare = key.name.toList := by
    rw [List.takeWhile_append_of_pos fun _ => key.isBare_of_mem]
    simp [hafter]
  have hrest : (key.name.toList ++ c :: after).dropWhile isBare = c :: after := by
    rw [List.dropWhile_append_of_pos fun _ => key.isBare_of_mem]
    simp [hafter]
  have hnonempty : key.name.toList ≠ [] := key.nonempty
  simp only [readKey, hbare, hrest, if_pos hnonempty, String.ofList_toList]

theorem readKeyPath_append {after rest : List Char} {c next : Char} (hafter : isBare c = false)
    (hskip : skipSpaces (c :: after) = next :: rest) (hpoint : next ≠ '.') :
    readKeyPath (key.name.toList ++ c :: after) =
      some (([], ⟨key.name, key.name.toList ++ c :: after⟩), next :: rest) := by
  have htail : readKeyTail (nestingLimit - 1) (c :: after) = some ([], next :: rest) := by
    unfold readKeyTail
    rw [hskip]
    split
    next heq => exact absurd (List.cons.inj heq).1 hpoint
    next => rfl
  simp [readKeyPath, key.readKey_append after hafter, htail]

theorem skipSpaces_append (after : List Char) :
    skipSpaces (key.name.toList ++ after) = key.name.toList ++ after := by
  obtain ⟨c, rest, hname, hother⟩ := key.exists_cons
  rw [hname]
  apply skipSpaces_of_not_isSpace
  simp [isSpace, hother ' ' (by decide), hother '\t' (by decide)]

theorem skipGap_append (after : List Char) :
    skipGap (key.name.toList ++ after) = key.name.toList ++ after := by
  obtain ⟨c, rest, hname, hother⟩ := key.exists_cons
  rw [hname, List.cons_append, skipGap.eq_def]
  simp [isSpace, hother ' ' (by decide), hother '\t' (by decide), hother '\n' (by decide),
    hother '\r' (by decide), hother '#' (by decide)]

/-- A line that begins with a key begins with none of the marks of other lines. -/
theorem append_ne_cons (after : List Char) {c : Char} (hc : isBare c = false)
    (rest : List Char) : key.name.toList ++ after ≠ c :: rest := by
  obtain ⟨first, name, hname, hother⟩ := key.exists_cons
  rw [hname]
  exact fun heq => hother c hc (List.cons.inj heq).1

end BareKey

/-! ## Lines -/

/-- A line of a document with plain keys. -/
inductive Line where
  | blank
  | heading (key : BareKey)
  | binding (key : BareKey) (value : WrittenValue)

def Line.text : Line → List Char
  | .blank => ['\n']
  | .heading key => Settings.heading key.name
  | .binding key value => Settings.binding key.name value.text

def linesText (lines : List Line) : List Char :=
  lines.flatMap Line.text

def statementsOf : List Line → List Statement
  | [] => []
  | .blank :: lines => statementsOf lines
  | .heading key :: lines =>
    .header
      { position := linesText (.heading key :: lines)
        grows := false
        path := []
        key := ⟨key.name, key.name.toList ++ ']' :: '\n' :: linesText lines⟩ }
      :: statementsOf lines
  | .binding key value :: lines =>
    .assign
      { path := []
        key := ⟨key.name, linesText (.binding key value :: lines)⟩
        node := .mk (value.text ++ '\n' :: linesText lines) value.value }
      :: statementsOf lines

@[simp] theorem linesText_blank (lines : List Line) :
    linesText (.blank :: lines) = '\n' :: linesText lines := rfl

theorem linesText_heading (key : BareKey) (lines : List Line) :
    linesText (.heading key :: lines) =
      '[' :: (key.name.toList ++ ']' :: '\n' :: linesText lines) := by
  simp [linesText, Line.text, Settings.heading]

theorem linesText_binding (key : BareKey) (value : WrittenValue) (lines : List Line) :
    linesText (.binding key value :: lines) =
      key.name.toList ++ ' ' :: '=' :: ' ' :: (value.text ++ '\n' :: linesText lines) := by
  simp [linesText, Line.text, Settings.binding]

theorem length_le_length_linesText (lines : List Line) :
    lines.length ≤ (linesText lines).length := by
  induction lines with
  | nil => simp
  | cons line lines ih =>
      cases line with
      | blank => simpa using ih
      | heading key =>
          simp only [linesText_heading, List.length_cons, List.length_append]
          omega
      | binding key value =>
          simp only [linesText_binding, List.length_cons, List.length_append]
          omega

/-! ## Reading lines -/

section Reading

variable (size fuel : Nat) (lines : List Line)

theorem readStatements_blank (text : List Char) :
    readStatements size fuel ('\n' :: text) = readStatements size fuel text := by
  have hskip : skipGap ('\n' :: text) = skipGap text := by
    rw [skipGap.eq_def]
    simp
  cases fuel with
  | zero => rfl
  | succ fuel => simp only [readStatements, hskip]

/-- A statement that ends its line is followed by those of the next lines. -/
theorem readStatements_cons {text rest : List Char} {statement : Statement}
    (hgap : skipGap text = text) (hne : text ≠ [])
    (hread : readStatement size text = some (statement, '\n' :: rest)) :
    readStatements size (fuel + 1) text =
      (readStatements size fuel rest).map (statement :: ·) := by
  have hend : skipComment (skipSpaces ('\n' :: rest)) = '\n' :: rest := by
    rw [skipSpaces_of_not_isSpace (by decide)]
    rfl
  simp [readStatements, hgap, hread, hend, afterLineEnd?]

theorem readHeader_heading (key : BareKey) :
    readHeader (linesText (.heading key :: lines)) =
      some (⟨linesText (.heading key :: lines), false, [],
        ⟨key.name, key.name.toList ++ ']' :: '\n' :: linesText lines⟩⟩,
        '\n' :: linesText lines) := by
  have hpath := key.readKeyPath_append (by decide : isBare ']' = false)
    (skipSpaces_of_not_isSpace (by decide) ('\n' :: linesText lines)) (by decide)
  rw [linesText_heading]
  unfold readHeader
  split
  next heq => exact absurd (List.cons.inj heq).2 (key.append_ne_cons _ (by decide) _)
  next heq =>
    obtain rfl := (List.cons.inj heq).2
    simp only [key.skipSpaces_append, hpath]
  next hnone => exact absurd rfl (hnone _)

theorem readStatements_heading (key : BareKey) :
    readStatements size (fuel + 1) (linesText (.heading key :: lines)) =
      (readStatements size fuel (linesText lines)).map
        (.header ⟨linesText (.heading key :: lines), false, [],
          ⟨key.name, key.name.toList ++ ']' :: '\n' :: linesText lines⟩⟩ :: ·) := by
  have hheader := readHeader_heading lines key
  rw [linesText_heading] at hheader ⊢
  apply readStatements_cons
  · rw [skipGap.eq_def]
    simp [isSpace]
  · simp
  · simp only [readStatement, hheader, Option.map_some]

theorem readAssignment_binding (key : BareKey) (value : WrittenValue) :
    readAssignment skipSpaces (readNode size nestingLimit)
        (linesText (.binding key value :: lines)) =
      some (⟨[], ⟨key.name, linesText (.binding key value :: lines)⟩,
        .mk (value.text ++ '\n' :: linesText lines) value.value⟩,
        '\n' :: linesText lines) := by
  have hsign : ∀ rest, skipSpaces ('=' :: rest) = '=' :: rest :=
    skipSpaces_of_not_isSpace (by decide)
  have hpath := key.readKeyPath_append (by decide : isBare ' ' = false)
    ((skipSpaces_blank _).trans (hsign (' ' :: (value.text ++ '\n' :: linesText lines))))
    (by decide)
  rw [linesText_binding]
  simp only [readAssignment, hpath, hsign, skipSpaces_blank, value.skip, value.read,
    Option.map_some]

theorem readStatements_binding (key : BareKey) (value : WrittenValue) :
    readStatements size (fuel + 1) (linesText (.binding key value :: lines)) =
      (readStatements size fuel (linesText lines)).map
        (.assign ⟨[], ⟨key.name, linesText (.binding key value :: lines)⟩,
          .mk (value.text ++ '\n' :: linesText lines) value.value⟩ :: ·) := by
  have hassignment := readAssignment_binding size lines key value
  rw [linesText_binding] at hassignment ⊢
  apply readStatements_cons
  · exact key.skipGap_append _
  · simp
  · unfold readStatement
    split
    next heq => exact absurd heq (key.append_ne_cons _ (by decide) _)
    next => rw [hassignment, Option.map_some]

/-- Lines give their statements, one for each line that is not blank. -/
theorem readStatements_linesText (hfuel : lines.length < fuel) :
    readStatements size fuel (linesText lines) = some (statementsOf lines) := by
  induction lines generalizing fuel with
  | nil =>
      obtain ⟨fuel, rfl⟩ := Nat.exists_eq_succ_of_ne_zero (Nat.ne_zero_of_lt hfuel)
      simp [readStatements, linesText, skipGap, statementsOf]
  | cons line lines ih =>
      obtain ⟨fuel, rfl⟩ := Nat.exists_eq_succ_of_ne_zero (Nat.ne_zero_of_lt hfuel)
      rw [List.length_cons] at hfuel
      cases line with
      | blank =>
          rw [linesText_blank, readStatements_blank, ih (fuel + 1) (by omega)]
          rfl
      | heading key =>
          rw [readStatements_heading, ih fuel (by omega)]
          rfl
      | binding key value =>
          rw [readStatements_binding, ih fuel (by omega)]
          rfl

end Reading

theorem withoutMark_linesText (lines : List Line) :
    withoutMark (linesText lines) = linesText lines := by
  have hfirst : ∀ rest, linesText lines ≠ '\uFEFF' :: rest := by
    intro rest
    cases lines with
    | nil => simp [linesText]
    | cons line lines =>
        cases line with
        | blank => simp
        | heading key => simp [linesText_heading]
        | binding key value =>
            rw [linesText_binding]
            exact key.append_ne_cons _ (by decide) rest
  unfold withoutMark
  split
  next rest heq => exact absurd heq (hfirst rest)
  next => rfl

theorem parse?_linesText (lines : List Line) :
    parse? (linesText lines) = assemble (statementsOf lines) := by
  have hfuel := length_le_length_linesText lines
  simp only [parse?, withoutMark_linesText]
  rw [readStatements_linesText _ _ _ (by omega), Option.bind_some]

end AppLauncher.Toml
