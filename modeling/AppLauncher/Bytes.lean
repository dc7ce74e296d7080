/-!
# Byte strings

Options, arguments, paths and file contents are byte strings: nothing says
that they are text, and no step re-encodes them.  This file names the type
and the few bytes that carry a meaning of their own.
-/

namespace AppLauncher

abbrev Bytes := List UInt8

namespace Bytes

def nul : UInt8 := 0

def lf : UInt8 := 10

def cr : UInt8 := 13

def slash : UInt8 := 47

def dot : UInt8 := 46

def ofText (text : String) : Bytes :=
  text.toList.flatMap String.utf8EncodeChar

def hasNul (bytes : Bytes) : Bool :=
  bytes.contains nul

theorem hasNul_iff (bytes : Bytes) : hasNul bytes = true ↔ nul ∈ bytes := by
  simp [hasNul]

theorem hasNul_eq_false_iff (bytes : Bytes) : hasNul bytes = false ↔ nul ∉ bytes := by
  simp [hasNul]

/-- The pieces between the occurrences of a separator, empty pieces included. -/
def splitOn (separator : UInt8) : Bytes → List Bytes
  | [] => [[]]
  | byte :: rest =>
    if byte = separator then
      [] :: splitOn separator rest
    else
      match splitOn separator rest with
      | [] => [[byte]]
      | piece :: pieces => (byte :: piece) :: pieces

def joinWith (separator : UInt8) : List Bytes → Bytes
  | [] => []
  | [piece] => piece
  | piece :: next :: pieces =>
    piece ++ separator :: joinWith separator (next :: pieces)

theorem splitOn_ne_nil (separator : UInt8) (bytes : Bytes) :
    splitOn separator bytes ≠ [] := by
  cases bytes with
  | nil => simp [splitOn]
  | cons byte rest =>
    simp only [splitOn]
    split
    · simp
    · split <;> simp

@[simp] theorem joinWith_splitOn (separator : UInt8) (bytes : Bytes) :
    joinWith separator (splitOn separator bytes) = bytes := by
  induction bytes with
  | nil => rfl
  | cons byte rest ih =>
    have hne := splitOn_ne_nil separator rest
    simp only [splitOn]
    split
    · next hbyte =>
      obtain ⟨piece, pieces, heq⟩ := List.exists_cons_of_ne_nil hne
      rw [heq] at ih ⊢
      simp [joinWith, ih, hbyte]
    · split
      · next heq => exact absurd heq hne
      · next piece pieces heq =>
        rw [heq] at ih
        cases pieces with
        | nil => simpa [joinWith] using ih
        | cons next pieces => simpa [joinWith] using ih

end Bytes

end AppLauncher
