/-!
# Limits on the options file

Two 64-bit limits bound what is taken from an options file: the number of
reads and the bytes of one read.  Their product, kept within 64 bits, bounds
the bytes of the file that are looked at.
-/

namespace AppLauncher

structure Limits where
  /-- The greatest number of reads, each a line or a fragment of one. -/
  maxOptions : UInt64 := 100
  /-- The greatest number of bytes in one read, its newline included. -/
  maxLineLength : UInt64 := 98
deriving DecidableEq, Repr, Inhabited

/-- The number of bytes of the file that are looked at: no more than the
limits could turn into options, and no more than 64 bits can count. -/
def Limits.budget (limits : Limits) : Nat :=
  min (limits.maxOptions.toNat * limits.maxLineLength.toNat) (UInt64.size - 1)

/-- The bytes of one read; a line length of zero counts as one. -/
def Limits.window (limits : Limits) : Nat :=
  max limits.maxLineLength.toNat 1

theorem Limits.one_le_window (limits : Limits) : 1 ≤ limits.window :=
  Nat.le_max_right _ _

theorem Limits.window_eq {limits : Limits} (hlength : 1 ≤ limits.maxLineLength.toNat) :
    limits.window = limits.maxLineLength.toNat :=
  Nat.max_eq_left hlength

end AppLauncher
