import AppLauncher.Proofs.Text.Boundaries

/-!
# Decoding encoded text

The leading byte of a character announces how many bytes there are, and the
payloads of the bytes spell the character's number.  So decoding finds the first
character of encoded text whatever follows it, and a byte string is decoded to a
text exactly when it is the text's encoding.
-/

namespace AppLauncher.Utf8

/-! ## Payloads -/

theorem payload_trailing : ∀ payload < 0x40,
    (UInt8.ofNat (payload + 0x80) &&& 0x3F).toNat = payload := by
  decide +kernel

theorem leading_one : ∀ payload < 0x80,
    UInt8.ofNat payload < 0x80 ∧ (UInt8.ofNat payload).toNat = payload := by
  decide +kernel

theorem leading_two : ∀ payload < 0x20,
    ¬UInt8.ofNat (payload + 0xC0) < 0x80 ∧ UInt8.ofNat (payload + 0xC0) < 0xE0 ∧
      (UInt8.ofNat (payload + 0xC0) &&& 0x1F).toNat = payload := by
  decide +kernel

theorem leading_three : ∀ payload < 0x10,
    ¬UInt8.ofNat (payload + 0xE0) < 0x80 ∧ ¬UInt8.ofNat (payload + 0xE0) < 0xE0 ∧
      UInt8.ofNat (payload + 0xE0) < 0xF0 ∧
      (UInt8.ofNat (payload + 0xE0) &&& 0x0F).toNat = payload := by
  decide +kernel

theorem leading_four : ∀ payload < 0x08,
    ¬UInt8.ofNat (payload + 0xF0) < 0x80 ∧ ¬UInt8.ofNat (payload + 0xF0) < 0xE0 ∧
      ¬UInt8.ofNat (payload + 0xF0) < 0xF0 ∧
      (UInt8.ofNat (payload + 0xF0) &&& 0x07).toNat = payload := by
  decide +kernel

/-! ## One character -/

theorem exists_spelling (character : Char) :
    ∃ lead trail, String.utf8EncodeChar character = lead :: trail ∧
      announcedLength lead = trail.length + 1 ∧
      spelledValue (lead :: trail) = character.toNat := by
  have hbound : character.val.toNat < 0x110000 := by
    have hvalid := character.valid
    simp only [UInt32.isValidChar, Nat.isValidChar] at hvalid
    omega
  unfold String.utf8EncodeChar Char.toNat
  generalize character.val.toNat = number at hbound
  by_cases hone : number ≤ 0x7F
  · obtain ⟨hlead, hpayload⟩ := leading_one number (by omega)
    refine ⟨_, _, if_pos hone, ?_, ?_⟩
    · simp [announcedLength, hlead]
    · simp only [spelledValue, List.foldl_nil, if_pos hlead, hpayload]
  rw [if_neg hone]
  by_cases htwo : number ≤ 0x7FF
  · obtain ⟨hone', hlead, hpayload⟩ := leading_two (number / 64 % 0x20) (by omega)
    refine ⟨_, _, if_pos htwo, ?_, ?_⟩
    · simp only [announcedLength, if_neg hone', if_pos hlead, List.length_singleton]
    · simp only [spelledValue, List.foldl_cons, List.foldl_nil, if_neg hone', if_pos hlead,
        hpayload, payload_trailing (number % 0x40) (by omega)]
      omega
  rw [if_neg htwo]
  by_cases hthree : number ≤ 0xFFFF
  · obtain ⟨hone', htwo', hlead, hpayload⟩ := leading_three (number / 4096 % 0x10) (by omega)
    refine ⟨_, _, if_pos hthree, ?_, ?_⟩
    · simp only [announcedLength, if_neg hone', if_neg htwo', if_pos hlead, List.length_cons,
        List.length_nil]
    · simp only [spelledValue, List.foldl_cons, List.foldl_nil, if_neg hone', if_neg htwo',
        if_pos hlead, hpayload, payload_trailing (number / 64 % 0x40) (by omega),
        payload_trailing (number % 0x40) (by omega)]
      omega
  · obtain ⟨hone', htwo', hthree', hpayload⟩ :=
      leading_four (number / 262144 % 0x08) (by omega)
    refine ⟨_, _, if_neg hthree, ?_, ?_⟩
    · simp only [announcedLength, if_neg hone', if_neg htwo', if_neg hthree', List.length_cons,
        List.length_nil]
    · simp only [spelledValue, List.foldl_cons, List.foldl_nil, if_neg hone', if_neg htwo',
        if_neg hthree', hpayload, payload_trailing (number / 4096 % 0x40) (by omega),
        payload_trailing (number / 64 % 0x40) (by omega),
        payload_trailing (number % 0x40) (by omega)]
      omega

theorem decodeFirst?_encode (character : Char) (rest : Bytes) :
    decodeFirst? (String.utf8EncodeChar character ++ rest) = some (character, rest) := by
  obtain ⟨lead, trail, heq, hlength, hvalue⟩ := exists_spelling character
  have hsequence : (lead :: trail ++ rest).take (announcedLength lead) = lead :: trail := by
    rw [hlength, ← List.length_cons, List.take_left]
  have hrest : (lead :: trail ++ rest).drop (announcedLength lead) = rest := by
    rw [hlength, ← List.length_cons, List.drop_left]
  have hcharacter : Char.ofNat (spelledValue (lead :: trail)) = character := by
    rw [hvalue, Char.ofNat_toNat]
  rw [heq]
  simp only [decodeFirst?, List.cons_append] at hsequence hrest ⊢
  rw [hsequence, hrest, hcharacter, if_pos heq]

theorem eq_encode_of_decodeFirst? {bytes rest : Bytes} {character : Char}
    (h : decodeFirst? bytes = some (character, rest)) :
    bytes = String.utf8EncodeChar character ++ rest := by
  cases bytes with
  | nil => simp [decodeFirst?] at h
  | cons lead tail =>
      simp only [decodeFirst?] at h
      split at h
      next hsequence =>
        simp only [Option.some.injEq, Prod.mk.injEq] at h
        obtain ⟨rfl, rfl⟩ := h
        rw [hsequence, List.take_append_drop]
      next => simp at h

/-! ## Whole texts -/

theorem decode?_encode (text : List Char) : decode? (encode text) = some text := by
  induction text with
  | nil => simp [decode?]
  | cons character text ih =>
      have hne : encode (character :: text) ≠ [] := by
        simp [encode_cons, String.utf8EncodeChar_ne_nil]
      rw [decode?, if_neg hne]
      rw [encode_cons]
      split
      next hnone => simp [decodeFirst?_encode] at hnone
      next first rest hfirst =>
        rw [decodeFirst?_encode, Option.some.injEq, Prod.mk.injEq] at hfirst
        obtain ⟨rfl, rfl⟩ := hfirst
        rw [ih, Option.map_some]

theorem encode_of_decode? {bytes : Bytes} {text : List Char}
    (h : decode? bytes = some text) : encode text = bytes := by
  fun_induction decode? bytes generalizing text with
  | case1 =>
      obtain rfl := Option.some.inj h
      rfl
  | case2 => simp at h
  | case3 bytes _ character rest hfirst ih =>
      obtain ⟨later, hlater, rfl⟩ := Option.map_eq_some_iff.mp h
      rw [encode_cons, ih hlater, ← eq_encode_of_decodeFirst? hfirst]

/-- Decoding gives a text exactly for the text's encoding. -/
theorem decode?_eq_some_iff {bytes : Bytes} {text : List Char} :
    decode? bytes = some text ↔ encode text = bytes := by
  constructor
  · exact encode_of_decode?
  · rintro rfl
    exact decode?_encode text

end AppLauncher.Utf8
