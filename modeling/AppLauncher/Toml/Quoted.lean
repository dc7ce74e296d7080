import AppLauncher.Toml.Lexical

/-!
# Quoted strings

Strings come in four forms.  Basic strings stand between quotation marks and
know escapes; literal strings stand between apostrophes and know none; either
kind may run over several lines between tripled marks.  Each reader starts
after the opening mark and ends after the closing one.
-/

namespace AppLauncher.Toml.Quoted

def readHex : (count : Nat) → (value : Nat) → Reader Nat
  | 0, value, text => some (value, text)
  | count + 1, value, c :: rest =>
    if isHexDigit c then readHex count (value * 16 + digitValue c) rest else none
  | _ + 1, _, [] => none

def readScalar (count : Nat) (text : List Char) : Option (Char × List Char) := do
  let (number, rest) ← readHex count 0 text
  if number.isValidChar then
    some (Char.ofNat number, rest)
  else
    none

def readEscape : Reader Char
  | 'b' :: rest => some ('\x08', rest)
  | 't' :: rest => some ('\t', rest)
  | 'n' :: rest => some ('\n', rest)
  | 'f' :: rest => some ('\x0C', rest)
  | 'r' :: rest => some ('\r', rest)
  | 'e' :: rest => some ('\x1B', rest)
  | '"' :: rest => some ('"', rest)
  | '\\' :: rest => some ('\\', rest)
  | 'x' :: rest => readScalar 2 rest
  | 'u' :: rest => readScalar 4 rest
  | 'U' :: rest => readScalar 8 rest
  | _ => none

theorem length_le_of_readHex {count value : Nat} {text : List Char}
    {result : Nat × List Char} (h : readHex count value text = some result) :
    result.2.length ≤ text.length := by
  induction count generalizing value text with
  | zero =>
    simp only [readHex, Option.some.injEq] at h
    simp [← h]
  | succ count ih =>
    cases text with
    | nil => simp [readHex] at h
    | cons c rest =>
      simp only [readHex] at h
      split at h
      · have := ih h
        simp only [List.length_cons]
        omega
      · simp at h

theorem length_le_of_readScalar {count : Nat} {text : List Char}
    {result : Char × List Char} (h : readScalar count text = some result) :
    result.2.length ≤ text.length := by
  simp only [readScalar, Option.bind_eq_bind, Option.bind_eq_some_iff] at h
  obtain ⟨read, hread, h⟩ := h
  split at h
  · simp only [Option.some.injEq] at h
    have := length_le_of_readHex hread
    simpa [← h] using this
  · simp at h

theorem length_lt_of_readEscape {text : List Char} {result : Char × List Char}
    (h : readEscape text = some result) : result.2.length < text.length := by
  unfold readEscape at h
  split at h
  case h_12 => simp at h
  case h_9 | h_10 | h_11 =>
    have := length_le_of_readScalar h
    simp only [List.length_cons]
    omega
  all_goals
    simp only [Option.some.injEq] at h
    simp [← h]

def readBasic : Reader (List Char)
  | [] => none
  | '"' :: rest => some ([], rest)
  | '\\' :: rest =>
    match _h : readEscape rest with
    | none => none
    | some (c, after) => (readBasic after).map fun (text, rest) => (c :: text, rest)
  | c :: rest =>
    if isPlain c then (readBasic rest).map fun (text, rest) => (c :: text, rest)
    else none
termination_by text => text.length
decreasing_by
  · have := length_lt_of_readEscape _h
    simp only [List.length_cons] at *
    omega
  · simp

def readLiteral : Reader (List Char)
  | [] => none
  | c :: rest =>
    if c == '\'' then some ([], rest)
    else if isPlain c then (readLiteral rest).map fun (text, rest) => (c :: text, rest)
    else none

/-- What closes a string over several lines: up to two more marks before the
three that end it belong to the text. -/
def closing (mark : Char) : List Char → List Char × List Char
  | first :: second :: rest =>
    if first == mark && second == mark then ([mark, mark], rest)
    else if first == mark then ([mark], second :: rest)
    else ([], first :: second :: rest)
  | [first] => if first == mark then ([mark], []) else ([], [first])
  | [] => ([], [])

def afterTriple? (mark : Char) : List Char → Option (List Char)
  | a :: b :: c :: rest => if a == mark && b == mark && c == mark then some rest else none
  | _ => none

def skipFirstLineEnd (text : List Char) : List Char :=
  (afterLineEnd? text).getD text

def skipSpacesAndLines : List Char → List Char
  | '\r' :: '\n' :: rest => skipSpacesAndLines rest
  | c :: rest => if isSpace c || c == '\n' then skipSpacesAndLines rest else c :: rest
  | [] => []

theorem length_skipSpacesAndLines_le (text : List Char) :
    (skipSpacesAndLines text).length ≤ text.length := by
  fun_induction skipSpacesAndLines text with
  | case1 rest ih => simp only [List.length_cons]; omega
  | case2 c rest _ _ ih => simp only [List.length_cons]; omega
  | case3 => simp
  | case4 => simp

/-- What follows a backslash that continues a line: blanks and a line end,
then everything up to the next visible character is skipped. -/
def afterContinuation? (text : List Char) : Option (List Char) :=
  (afterLineEnd? (skipSpaces text)).map skipSpacesAndLines

theorem length_of_afterLineEnd? {text rest : List Char}
    (h : afterLineEnd? text = some rest) : rest.length < text.length := by
  unfold afterLineEnd? at h
  split at h
  · obtain rfl := Option.some.inj h
    simp only [List.length_cons]
    omega
  · obtain rfl := Option.some.inj h
    simp only [List.length_cons]
    omega
  · contradiction

theorem length_of_afterContinuation? {text rest : List Char}
    (h : afterContinuation? text = some rest) : rest.length < text.length := by
  simp only [afterContinuation?, Option.map_eq_some_iff] at h
  obtain ⟨after, hafter, h⟩ := h
  have h1 := length_of_afterLineEnd? hafter
  have h2 := length_dropWhile_le isSpace text
  have h3 := length_skipSpacesAndLines_le after
  rw [← h]
  simp only [skipSpaces] at h1
  omega

def readLongBasic (text : List Char) : Option (List Char × List Char) :=
  match afterTriple? '"' text with
  | some rest => some (closing '"' rest)
  | none =>
    match text with
    | [] => none
    | '\\' :: rest =>
      match _hc : afterContinuation? rest with
      | some after => readLongBasic after
      | none =>
        match _he : readEscape rest with
        | none => none
        | some (c, after) => (readLongBasic after).map fun (text, rest) => (c :: text, rest)
    | '\r' :: rest =>
      match rest with
      | '\n' :: after =>
        (readLongBasic after).map fun (text, rest) => ('\r' :: '\n' :: text, rest)
      | _ => none
    | c :: rest =>
      if isPlain c || c == '\n' then
        (readLongBasic rest).map fun (text, rest) => (c :: text, rest)
      else
        none
termination_by text.length
decreasing_by
  · have := length_of_afterContinuation? _hc
    simp only [List.length_cons]
    omega
  · have := length_lt_of_readEscape _he
    simp only [List.length_cons] at *
    omega
  · simp only [List.length_cons]
    omega
  · simp

def readLongLiteral (text : List Char) : Option (List Char × List Char) :=
  match afterTriple? '\'' text with
  | some rest => some (closing '\'' rest)
  | none =>
    match text with
    | [] => none
    | '\r' :: rest =>
      match rest with
      | '\n' :: after =>
        (readLongLiteral after).map fun (text, rest) => ('\r' :: '\n' :: text, rest)
      | _ => none
    | c :: rest =>
      if isPlain c || c == '\n' then
        (readLongLiteral rest).map fun (text, rest) => (c :: text, rest)
      else
        none
termination_by text.length

def readShort : Reader (List Char)
  | '"' :: rest => readBasic rest
  | '\'' :: rest => readLiteral rest
  | _ => none

def read (text : List Char) : Option (List Char × List Char) :=
  match afterTriple? '"' text with
  | some rest => readLongBasic (skipFirstLineEnd rest)
  | none =>
    match afterTriple? '\'' text with
    | some rest => readLongLiteral (skipFirstLineEnd rest)
    | none => readShort text

end AppLauncher.Toml.Quoted
