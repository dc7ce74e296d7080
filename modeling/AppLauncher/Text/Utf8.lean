import AppLauncher.Bytes

/-!
# UTF-8

Decoding is defined through encoding: a sequence is accepted exactly when the
scalar value it spells is encoded by that very sequence.  Overlong forms,
surrogates and values past the last code point need no rules of their own.
Text that must be shown although it is broken is decoded with a replacement
character for each maximal broken piece.
-/

namespace AppLauncher.Utf8

def encode (characters : List Char) : Bytes :=
  characters.flatMap String.utf8EncodeChar

/-- Whether a byte continues a sequence begun by an earlier one. -/
def isContinuation (byte : UInt8) : Bool :=
  byte &&& 0b11000000 == 0b10000000

def announcedLength (byte : UInt8) : Nat :=
  if byte < 0x80 then 1
  else if byte < 0xE0 then 2
  else if byte < 0xF0 then 3
  else 4

/-- The value spelled by a sequence: the payload bits of its leading byte,
then six bits of each further byte. -/
def spelledValue : Bytes → Nat
  | [] => 0
  | lead :: rest =>
    let payload : UInt8 :=
      if lead < 0x80 then lead
      else if lead < 0xE0 then lead &&& 0x1F
      else if lead < 0xF0 then lead &&& 0x0F
      else lead &&& 0x07
    rest.foldl (fun value byte => value * 64 + (byte &&& 0x3F).toNat) payload.toNat

/-- The first character of a byte string and what follows it, unless the
bytes there are no character's encoding. -/
def decodeFirst? (bytes : Bytes) : Option (Char × Bytes) :=
  match bytes with
  | [] => none
  | lead :: _ =>
    let sequence := bytes.take (announcedLength lead)
    let character := Char.ofNat (spelledValue sequence)
    if String.utf8EncodeChar character = sequence then
      some (character, bytes.drop (announcedLength lead))
    else
      none

theorem announcedLength_pos (byte : UInt8) : 0 < announcedLength byte := by
  simp only [announcedLength]
  split
  · omega
  · split
    · omega
    · split <;> omega

theorem length_lt_of_decodeFirst? {bytes rest : Bytes} {character : Char}
    (h : decodeFirst? bytes = some (character, rest)) :
    rest.length < bytes.length := by
  cases bytes with
  | nil => simp [decodeFirst?] at h
  | cons lead tail =>
    simp only [decodeFirst?] at h
    split at h
    · simp only [Option.some.injEq, Prod.mk.injEq] at h
      rw [← h.2, List.length_drop]
      have := announcedLength_pos lead
      simp only [List.length_cons]
      omega
    · simp at h

def decode? (bytes : Bytes) : Option (List Char) :=
  if bytes = [] then
    some []
  else
    match _h : decodeFirst? bytes with
    | none => none
    | some (character, rest) => (decode? rest).map (character :: ·)
termination_by bytes.length
decreasing_by exact length_lt_of_decodeFirst? _h

def toText? (bytes : Bytes) : Option String :=
  (decode? bytes).map String.ofList

/-- Whether a byte may stand second in a sequence with a given leading byte. -/
def mayFollow (lead second : UInt8) : Bool :=
  if lead == 0xE0 then 0xA0 ≤ second && second ≤ 0xBF
  else if lead == 0xED then 0x80 ≤ second && second ≤ 0x9F
  else if lead == 0xF0 then 0x90 ≤ second && second ≤ 0xBF
  else if lead == 0xF4 then 0x80 ≤ second && second ≤ 0x8F
  else if 0xC2 ≤ lead && lead ≤ 0xF3 then isContinuation second
  else false

/-- The length of the maximal broken piece at the start of a byte string that
begins with no character: the longest beginning of some sequence, or one
byte. -/
def brokenLength : Bytes → Nat
  | lead :: second :: rest =>
    if mayFollow lead second then
      match rest with
      | third :: _ => if 0xF0 ≤ lead && isContinuation third then 3 else 2
      | [] => 2
    else 1
  | _ => 1

theorem brokenLength_pos (bytes : Bytes) : 0 < brokenLength bytes := by
  unfold brokenLength
  split
  · split
    · split
      · split <;> omega
      · omega
    · omega
  · omega

/-- The characters of a byte string, with the replacement character for each
maximal piece that is not UTF-8. -/
def decodeLossy (bytes : Bytes) : List Char :=
  if _hne : bytes = [] then
    []
  else
    match _h : decodeFirst? bytes with
    | some (character, rest) => character :: decodeLossy rest
    | none => '\uFFFD' :: decodeLossy (bytes.drop (brokenLength bytes))
termination_by bytes.length
decreasing_by
  · exact length_lt_of_decodeFirst? _h
  · have hpos := brokenLength_pos bytes
    have hlen : 0 < bytes.length := List.length_pos_iff.2 _hne
    simp only [List.length_drop]
    omega

def shown (bytes : Bytes) : String :=
  String.ofList (decodeLossy bytes)

end AppLauncher.Utf8
