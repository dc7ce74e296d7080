import AppLauncher.Text.Utf8
import Mathlib.Data.List.Basic

/-!
# Character boundaries

An encoded character is one leading byte and at most three continuation bytes.
So a position in encoded text is a character boundary exactly when no
continuation byte follows it, and a line feed is always a character by itself.
-/

namespace AppLauncher.Utf8

theorem forall_byte {p : UInt8 → Prop} (h : ∀ value : Fin 256, p (UInt8.ofFin value))
    (byte : UInt8) : p byte :=
  h byte.toFin

/-! ## The bytes of a character -/

theorem isContinuation_trailing (payload : UInt8) :
    isContinuation (payload &&& 0x3F ||| 0x80) = true :=
  forall_byte (p := fun byte => isContinuation (byte &&& 0x3F ||| 0x80) = true)
    (by decide +kernel) payload

theorem isContinuation_of_isUTF8FirstByte {byte : UInt8} (hfirst : byte.IsUTF8FirstByte) :
    isContinuation byte = false :=
  forall_byte (p := fun byte => byte.IsUTF8FirstByte → isContinuation byte = false)
    (by decide +kernel) byte hfirst

theorem leading_ne_lf (payload : UInt8) :
    payload &&& 0x1F ||| 0xC0 ≠ Bytes.lf ∧ payload &&& 0x0F ||| 0xE0 ≠ Bytes.lf ∧
      payload &&& 0x07 ||| 0xF0 ≠ Bytes.lf :=
  forall_byte (p := fun byte => byte &&& 0x1F ||| 0xC0 ≠ Bytes.lf ∧
      byte &&& 0x0F ||| 0xE0 ≠ Bytes.lf ∧ byte &&& 0x07 ||| 0xF0 ≠ Bytes.lf)
    (by decide +kernel) payload

/-- What the bytes of one character look like. -/
structure CharacterBytes (lead : UInt8) (trail : Bytes) : Prop where
  leading : isContinuation lead = false
  trailing : ∀ byte ∈ trail, isContinuation byte = true
  short : trail.length < 4
  lineFeed : lead = Bytes.lf → trail = []

theorem exists_characterBytes (character : Char) :
    ∃ lead trail,
      String.utf8EncodeChar character = lead :: trail ∧ CharacterBytes lead trail := by
  have hleading :
      ∀ lead trail, String.utf8EncodeChar character = lead :: trail →
        isContinuation lead = false := by
    intro lead trail heq
    have hpositive : 0 < (String.utf8EncodeChar character).length := by simp [heq]
    have hfirst :=
      (@UInt8.isUTF8FirstByte_getElem_utf8EncodeChar character 0 hpositive).mpr rfl
    apply isContinuation_of_isUTF8FirstByte
    simpa [heq] using hfirst
  rcases character.utf8Size_eq with hsize | hsize | hsize | hsize
  · have heq := String.utf8EncodeChar_eq_singleton hsize
    exact ⟨_, _, heq, hleading _ _ heq, by simp, by simp, fun _ => rfl⟩
  · have heq := String.utf8EncodeChar_eq_cons_cons hsize
    refine ⟨_, _, heq, hleading _ _ heq, ?_, by simp, ?_⟩
    · simp [isContinuation_trailing]
    · intro hlf
      exact absurd hlf (leading_ne_lf _).1
  · have heq := String.utf8EncodeChar_eq_cons_cons_cons hsize
    refine ⟨_, _, heq, hleading _ _ heq, ?_, by simp, ?_⟩
    · simp [isContinuation_trailing]
    · intro hlf
      exact absurd hlf (leading_ne_lf _).2.1
  · have heq := String.utf8EncodeChar_eq_cons_cons_cons_cons hsize
    refine ⟨_, _, heq, hleading _ _ heq, ?_, by simp, ?_⟩
    · simp [isContinuation_trailing]
    · intro hlf
      exact absurd hlf (leading_ne_lf _).2.2

/-! ## Positions in encoded text -/

@[simp] theorem encode_nil : encode [] = [] :=
  rfl

theorem encode_cons (character : Char) (characters : List Char) :
    encode (character :: characters) =
      String.utf8EncodeChar character ++ encode characters := by
  simp [encode]

@[simp] theorem encode_append (front back : List Char) :
    encode (front ++ back) = encode front ++ encode back := by
  simp [encode]

theorem encode_singleton (character : Char) :
    encode [character] = String.utf8EncodeChar character := by
  simp [encode]

theorem isContinuation_head?_encode {characters : List Char} {byte : UInt8}
    (hhead : (encode characters).head? = some byte) : isContinuation byte = false := by
  cases characters with
  | nil => simp at hhead
  | cons character characters =>
      obtain ⟨lead, trail, heq, hbytes⟩ := exists_characterBytes character
      rw [encode_cons, heq, List.cons_append, List.head?_cons, Option.some.injEq] at hhead
      rw [← hhead]
      exact hbytes.leading

/-- A position in encoded text stands between two characters or inside one. -/
theorem encode_split {characters : List Char} {front back : Bytes}
    (h : encode characters = front ++ back) :
    (∃ before after, characters = before ++ after ∧
      front = encode before ∧ back = encode after) ∨
    ∃ before character after left right, characters = before ++ character :: after ∧
      String.utf8EncodeChar character = left ++ right ∧ left ≠ [] ∧ right ≠ [] ∧
      front = encode before ++ left ∧ back = right ++ encode after := by
  induction characters generalizing front with
  | nil =>
      obtain ⟨rfl, rfl⟩ := List.append_eq_nil_iff.mp h.symm
      exact .inl ⟨[], [], rfl, rfl, rfl⟩
  | cons character characters ih =>
      rw [encode_cons] at h
      rcases List.append_eq_append_iff.mp h with ⟨rest, rfl, hrest⟩ | ⟨right, heq, rfl⟩
      · rcases ih hrest with
          ⟨before, after, rfl, rfl, rfl⟩ |
            ⟨before, inner, after, left, right, rfl, hinner, hleft, hright, rfl, rfl⟩
        · exact .inl ⟨character :: before, after, rfl, (encode_cons ..).symm, rfl⟩
        · refine .inr ⟨character :: before, inner, after, left, right, rfl, hinner, hleft,
            hright, ?_, rfl⟩
          rw [encode_cons, List.append_assoc]
      · by_cases hfront : front = []
        · subst front
          refine .inl ⟨[], character :: characters, rfl, rfl, ?_⟩
          rw [encode_cons, heq, List.nil_append]
        · by_cases hright : right = []
          · subst right
            refine .inl ⟨[character], characters, rfl, ?_, rfl⟩
            rw [encode_singleton, heq, List.append_nil]
          · exact .inr ⟨[], character, characters, front, right, rfl, heq, hfront, hright,
              rfl, rfl⟩

/-- What is left of a character cut inside is a leading byte with continuation
bytes, and continuation bytes. -/
theorem cut_characterBytes {character : Char} {left right : Bytes}
    (heq : String.utf8EncodeChar character = left ++ right) (hleft : left ≠ []) :
    ∃ lead trail, left = lead :: trail ∧ isContinuation lead = false ∧
      (∀ byte ∈ trail, isContinuation byte = true) ∧
      (∀ byte ∈ right, isContinuation byte = true) ∧
      trail.length + right.length < 4 := by
  obtain ⟨lead, trail, hcharacter, hbytes⟩ := exists_characterBytes character
  cases left with
  | nil => exact absurd rfl hleft
  | cons first rest =>
      rw [hcharacter, List.cons_append, List.cons.injEq] at heq
      obtain ⟨rfl, rfl⟩ := heq
      refine ⟨lead, rest, rfl, hbytes.leading, ?_, ?_, ?_⟩
      · exact fun byte hbyte => hbytes.trailing byte (List.mem_append_left right hbyte)
      · exact fun byte hbyte => hbytes.trailing byte (List.mem_append_right rest hbyte)
      · simpa using hbytes.short

theorem encode_split_of_leading {characters : List Char} {front back : Bytes}
    {byte : UInt8} (h : encode characters = front ++ byte :: back)
    (hbyte : isContinuation byte = false) :
    ∃ before after, characters = before ++ after ∧
      front = encode before ∧ byte :: back = encode after := by
  rcases encode_split h with
    hbetween | ⟨_, character, _, left, right, _, heq, hleft, hright, _, hback⟩
  · exact hbetween
  · obtain ⟨_, _, _, _, _, hcontinues, _⟩ := cut_characterBytes heq hleft
    obtain ⟨first, right, rfl⟩ := List.exists_cons_of_ne_nil hright
    rw [List.cons_append, List.cons.injEq] at hback
    rw [hback.1, hcontinues first List.mem_cons_self] at hbyte
    contradiction

theorem encode_split_of_lf {characters : List Char} {front back : Bytes}
    (h : encode characters = front ++ Bytes.lf :: back) :
    ∃ before after, characters = before ++ after ∧
      front ++ [Bytes.lf] = encode before ∧ back = encode after := by
  obtain ⟨before, after, rfl, rfl, hafter⟩ := encode_split_of_leading h (by decide)
  cases after with
  | nil => simp at hafter
  | cons character after =>
      obtain ⟨lead, trail, heq, hbytes⟩ := exists_characterBytes character
      rw [encode_cons, heq, List.cons_append, List.cons.injEq] at hafter
      obtain ⟨rfl, rfl⟩ := hafter
      obtain rfl := hbytes.lineFeed rfl
      refine ⟨before ++ [character], after, by simp, ?_, rfl⟩
      rw [encode_append, encode_singleton, heq]

end AppLauncher.Utf8
