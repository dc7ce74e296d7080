import AppLauncher.Proofs.Options.Lines
import AppLauncher.Proofs.Text.Boundaries

/-!
# Reads of encoded text

Where the content is encoded text and no character is longer than a read, reads
begin and end between characters.  The invariant of a run is that what is left
of the content is the encoding of the characters that are left.  A read that no
line end closes takes as many characters as fit in it.
-/

namespace AppLauncher.Options

open Bytes (lf cr)

/-- The longest sequence of characters at the start of a text whose encoding
fits in `width` bytes. -/
structure LongestFit (width : Nat) (group text : List Char) : Prop where
  isPrefix : group <+: text
  fits : (Utf8.encode group).length ≤ width
  longest : ∀ other, other <+: text → (Utf8.encode other).length ≤ width → other <+: group

theorem longestFit_of_next {width : Nat} {group : List Char} (rest : List Char)
    (hfits : (Utf8.encode group).length ≤ width)
    (hnext : ∀ next, rest.head? = some next →
      width < (Utf8.encode group).length + (String.utf8EncodeChar next).length) :
    LongestFit width group (group ++ rest) := by
  refine ⟨List.prefix_append group rest, hfits, ?_⟩
  intro other hother hlength
  rcases List.prefix_or_prefix_of_prefix hother (List.prefix_append group rest) with
    hshorter | ⟨more, rfl⟩
  · exact hshorter
  · cases more with
    | nil => simp
    | cons next more =>
        have hmore : next :: more <+: rest :=
          (List.prefix_append_right_inj group).mp hother
        obtain ⟨later, rfl⟩ := hmore
        have hlonger := hnext next rfl
        rw [Utf8.encode_append, Utf8.encode_cons] at hlength
        simp only [List.length_append] at hlength
        omega

/-- Continuation bytes behind a leading byte belong to its character. -/
theorem length_lt_of_continues {character : Char} {after : List Char}
    {lead next : UInt8} {trail rest : Bytes}
    (heq : String.utf8EncodeChar character ++ Utf8.encode after =
      lead :: trail ++ next :: rest)
    (htrail : ∀ byte ∈ trail, Utf8.isContinuation byte = true)
    (hnext : Utf8.isContinuation next = true) :
    trail.length + 1 < (String.utf8EncodeChar character).length := by
  have hafter : ∀ byte, (Utf8.encode after).head? = some byte →
      Utf8.isContinuation byte ≠ true := by
    intro byte hhead
    rw [Utf8.isContinuation_head?_encode hhead]
    decide
  rcases List.append_eq_append_iff.mp heq with ⟨more, htrailEq, hrest⟩ | ⟨more, hmore, hrest⟩
  · cases more with
    | nil => exact absurd hnext (hafter next (by rw [hrest]; rfl))
    | cons byte more =>
        obtain ⟨first, others, hcharacter, -⟩ := Utf8.exists_characterBytes character
        rw [hcharacter, List.cons_append, List.cons.injEq] at htrailEq
        have hbyte : byte ∈ trail := by simp [htrailEq.2]
        exact absurd (htrail byte hbyte) (hafter byte (by rw [hrest]; rfl))
  · cases more with
    | nil =>
        rw [List.nil_append] at hrest
        exact absurd hnext (hafter next (by rw [← hrest]; rfl))
    | cons byte more =>
        rw [hmore]
        simp only [List.length_append, List.length_cons]
        omega

/-- A full window does not end inside a character that would fit in it. -/
theorem isContinuation_eq_false_of_full {read rest : Bytes} {next : UInt8}
    {text : List Char} (htext : Utf8.encode text = read ++ next :: rest)
    (hfit : ∀ character ∈ text, (String.utf8EncodeChar character).length ≤ read.length)
    (hboundary : Utf8.isContinuation next = true → lastBoundary? read = none) :
    Utf8.isContinuation next = false := by
  rw [← Bool.not_eq_true]
  intro hnext
  have hnone := hboundary hnext
  rcases Utf8.encode_split htext with
    ⟨_, after, _, _, hafter⟩ |
      ⟨before, character, after, left, right, rfl, heq, hleft, hright, rfl, _⟩
  · have hhead : (Utf8.encode after).head? = some next := by rw [← hafter]; rfl
    rw [Utf8.isContinuation_head?_encode hhead] at hnext
    contradiction
  · obtain ⟨lead, trail, rfl, hlead, htrail, -, hshort⟩ :=
      Utf8.cut_characterBytes heq hleft
    have hpositive : 0 < right.length := List.length_pos_iff.mpr hright
    by_cases hbefore : Utf8.encode before = []
    · have hlength := hfit character (by simp)
      rw [heq, hbefore, List.nil_append, List.length_append] at hlength
      omega
    · rw [lastBoundary?_eq_some hbefore hlead htrail (by omega)] at hnone
      simp at hnone

theorem ReadStep.exists_characters {width : Nat} {read tail : Bytes} {text : List Char}
    (hstep : ReadStep width read tail) (htext : Utf8.encode text = read ++ tail)
    (hfit : ∀ character ∈ text, (String.utf8EncodeChar character).length ≤ width) :
    ∃ group rest, text = group ++ rest ∧ read = Utf8.encode group ∧
      tail = Utf8.encode rest ∧
      (read.getLast? ≠ some lf → LongestFit width group text) := by
  cases hstep with
  | @line front _ hlf hlength =>
      rw [List.append_assoc, List.singleton_append] at htext
      obtain ⟨group, rest, rfl, hgroup, hrest⟩ := Utf8.encode_split_of_lf htext
      refine ⟨group, rest, rfl, hgroup, hrest, ?_⟩
      exact fun hlast => absurd List.getLast?_concat hlast
  | @straddling front _ hlf hlength =>
      rw [show front ++ [cr, lf] ++ tail = front ++ [cr] ++ lf :: tail by simp] at htext
      obtain ⟨group, rest, rfl, hgroup, hrest⟩ := Utf8.encode_split_of_lf htext
      refine ⟨group, rest, rfl, ?_, hrest, ?_⟩
      · rw [← hgroup]
        simp
      · intro hlast
        simp at hlast
  | last hlf hlength =>
      rw [List.append_nil] at htext
      refine ⟨text, [], by simp, htext.symm, rfl, fun _ => ?_⟩
      have hlongest := longestFit_of_next [] (htext ▸ hlength) (by simp)
      rwa [List.append_nil] at hlongest
  | @full _ rest next hlf hlength hline hboundary =>
      have hnext := isContinuation_eq_false_of_full htext (by rwa [hlength]) hboundary
      obtain ⟨group, rest, rfl, rfl, hrest⟩ := Utf8.encode_split_of_leading htext hnext
      refine ⟨group, rest, rfl, rfl, hrest, fun _ => ?_⟩
      apply longestFit_of_next rest hlength.le
      intro following _
      have hpositive := following.utf8Size_pos
      rw [String.length_utf8EncodeChar]
      omega
  | @backedOff _ trail rest lead next hread hlf hlength hlead htrail hshort hnext =>
      obtain ⟨group, rest, rfl, rfl, hrest⟩ := Utf8.encode_split_of_leading htext hlead
      refine ⟨group, rest, rfl, rfl, hrest, fun _ => ?_⟩
      apply longestFit_of_next rest (by omega)
      intro following hfollowing
      obtain ⟨after, rfl⟩ := List.head?_eq_some_iff.mp hfollowing
      rw [Utf8.encode_cons] at hrest
      have hcut := length_lt_of_continues hrest.symm htrail hnext
      omega

theorem ReadRun.exists_characters {width : Nat} {content remainder : Bytes}
    {reads : List Bytes} {text : List Char} (hrun : ReadRun width content reads remainder)
    (htext : Utf8.encode text = content)
    (hfit : ∀ character ∈ text, (String.utf8EncodeChar character).length ≤ width) :
    ∃ (groups : List (List Char)) (rest : List Char),
      text = groups.flatten ++ rest ∧ reads = groups.map Utf8.encode ∧
        remainder = Utf8.encode rest ∧
        ∀ before group after, groups = before ++ group :: after →
          (Utf8.encode group).getLast? ≠ some lf →
          LongestFit width group (group ++ after.flatten ++ rest) := by
  induction hrun generalizing text with
  | done content =>
      refine ⟨[], text, rfl, rfl, htext.symm, ?_⟩
      intro before group after heq
      simp at heq
  | @read read tail remainder reads hne hstep _ ih =>
      obtain ⟨first, others, rfl, rfl, rfl, hlongest⟩ :=
        hstep.exists_characters htext hfit
      obtain ⟨groups, rest, rfl, rfl, rfl, hgroups⟩ := ih rfl
        (fun character hmem => hfit character (List.mem_append_right first hmem))
      refine ⟨first :: groups, rest, by simp, rfl, rfl, ?_⟩
      intro before group after heq hlast
      cases before with
      | nil =>
          simp only [List.nil_append, List.cons.injEq] at heq
          obtain ⟨rfl, rfl⟩ := heq
          rw [List.append_assoc]
          exact hlongest hlast
      | cons _ before =>
          simp only [List.cons_append, List.cons.injEq] at heq
          exact hgroups before group after heq.2 hlast

theorem exists_lineText_eq_encode (group : List Char) :
    ∃ text, lineText (Utf8.encode group) = Utf8.encode text := by
  rcases lineEnd_cases (Utf8.encode group) with ⟨text, heq⟩ | ⟨text, heq, hcr⟩ | hlf
  · rw [heq, lineText_append_crlf]
    obtain ⟨before, _, _, hbefore, _⟩ := Utf8.encode_split_of_leading heq (by decide)
    exact ⟨before, hbefore⟩
  · rw [heq, lineText_append_lf hcr]
    obtain ⟨before, _, _, hbefore, _⟩ := Utf8.encode_split_of_leading heq (by decide)
    exact ⟨before, hbefore⟩
  · exact ⟨group, lineText_of_getLast? hlf⟩

/-- Characters that fit in a read are never split: the reads are encodings of
consecutive groups of characters, those that no line end closes are as long as
they can be, and so every option is encoded text. -/
theorem readUpTo_groups_characters (limits : Limits) (text : List Char)
    (hlength : 1 ≤ limits.maxLineLength.toNat)
    (hfit : ∀ character ∈ text,
      (String.utf8EncodeChar character).length ≤ limits.maxLineLength.toNat) :
    (∃ (groups : List (List Char)) (rest : List Char),
      text = groups.flatten ++ rest ∧
        readUpTo limits.window limits.maxOptions.toNat (Utf8.encode text) =
          (groups.map Utf8.encode, Utf8.encode rest) ∧
        ∀ before group after, groups = before ++ group :: after →
          (Utf8.encode group).getLast? ≠ some lf →
          LongestFit limits.maxLineLength.toNat group
            (group ++ after.flatten ++ rest)) ∧
    ∀ option ∈ (parse limits (Utf8.encode text)).options,
      ∃ characters, option = Utf8.encode characters := by
  have hrun := readRun_readUpTo limits.window limits.maxOptions.toNat (Utf8.encode text)
  rw [← Limits.window_eq hlength] at hfit ⊢
  obtain ⟨groups, rest, htext, hreads, hremainder, hlongest⟩ :=
    hrun.exists_characters rfl hfit
  constructor
  · exact ⟨groups, rest, htext, Prod.ext hreads hremainder, hlongest⟩
  · intro option hoption
    rw [parse_options, hreads, optionsOf, List.mem_filter, List.map_map,
      List.mem_map] at hoption
    obtain ⟨⟨group, _, rfl⟩, _⟩ := hoption
    rw [Function.comp_apply, withoutTerminator_eq_lineText]
    exact exists_lineText_eq_encode group

/-- A window that would cut a character, and one that parts a line end. -/
theorem readUpTo_groups_characters_of_mixed :
    let limits : Limits := { maxOptions := 9, maxLineLength := 4 }
    let text := "aé€\r\n😀é".toList
    let parsed := parse limits (Utf8.encode text)
    1 ≤ limits.maxLineLength.toNat ∧
      (∀ character ∈ text,
        (String.utf8EncodeChar character).length ≤ limits.maxLineLength.toNat) ∧
      (∃ (groups : List (List Char)) (rest : List Char),
        text = groups.flatten ++ rest ∧
          readUpTo limits.window limits.maxOptions.toNat (Utf8.encode text) =
            (groups.map Utf8.encode, Utf8.encode rest) ∧
          ∀ before group after, groups = before ++ group :: after →
            (Utf8.encode group).getLast? ≠ some lf →
            LongestFit limits.maxLineLength.toNat group (group ++ after.flatten ++ rest)) ∧
      parsed.options = ["aé", "€", "😀", "é"].map Bytes.ofText ∧
      parsed.truncated = false ∧
      ∀ option ∈ parsed.options, ∃ characters, option = Utf8.encode characters := by
  intro limits text parsed
  have hlength : 1 ≤ limits.maxLineLength.toNat := by decide
  have hfit : ∀ character ∈ text,
      (String.utf8EncodeChar character).length ≤ limits.maxLineLength.toNat := by
    intro character _
    rw [String.length_utf8EncodeChar]
    exact character.utf8Size_le_four
  obtain ⟨hgroups, hencoded⟩ := readUpTo_groups_characters limits text hlength hfit
  exact ⟨hlength, hfit, hgroups, by decide +kernel, by decide +kernel, hencoded⟩

end AppLauncher.Options
