import AppLauncher.Text.Utf8
import AppLauncher.Options.Limits

/-!
# Reading options from file content

The content is consumed in reads.  A read takes at most a window of bytes and
stops after a line feed, so a line longer than the window turns into several
fragments.  Two rules keep the fragments whole: a read that ends on the
carriage return of a line end also takes the line feed, and a read that would
end inside a character's encoding stops before that character.  Every read
counts toward the limit; the ones that hold nothing but a line end give no
option.
-/

namespace AppLauncher.Options

open Bytes (lf cr)

/-- The position of the last byte that begins a character, as long as that
character started less than four bytes before the end and not at the very
beginning. -/
def lastBoundary? (window : Bytes) : Option Nat :=
  let trailing := (window.reverse.takeWhile Utf8.isContinuation).length
  let boundary := window.length - (trailing + 1)
  if trailing + 1 < 4 ∧ 0 < boundary then some boundary else none

/-- The number of bytes up to the first line feed, that line feed included, if
one lies in the window; `before` bytes have been passed already. -/
def lineLength? (before : Nat) : (width : Nat) → (rest : Bytes) → Option Nat
  | 0, _ => none
  | _, [] => none
  | width + 1, byte :: rest =>
    if byte = lf then some (before + 1) else lineLength? (before + 1) width rest

theorem lineLength?_eq_map_findIdx? (before width : Nat) (rest : Bytes) :
    lineLength? before width rest =
      ((rest.take width).findIdx? (· == lf)).map fun position => before + (position + 1) := by
  induction width generalizing before rest with
  | zero => simp [lineLength?]
  | succ width ih =>
    cases rest with
    | nil => simp [lineLength?]
    | cons byte rest =>
      by_cases h : byte = lf
      · simp [lineLength?, List.findIdx?_cons, h]
      · simp only [lineLength?, h, if_false, ih, List.take_succ_cons, List.findIdx?_cons,
          beq_iff_eq, Option.map_map]
        congr 1
        funext position
        simp only [Function.comp_apply]
        omega

def readLength (width : Nat) (rest : Bytes) : Nat :=
  match lineLength? 0 width rest with
  | some length => length
  | none =>
    let window := rest.take width
    match rest[width]? with
    | none => window.length
    | some next =>
      if next = lf ∧ window.getLast? = some cr then
        window.length + 1
      else if Utf8.isContinuation next then
        (lastBoundary? window).getD window.length
      else
        window.length

/-- The reads of a content, at most `count` of them, and what they leave. -/
def readUpTo (width : Nat) : (count : Nat) → (rest : Bytes) → List Bytes × Bytes
  | 0, rest => ([], rest)
  | count + 1, rest =>
    if rest = [] then
      ([], [])
    else
      let length := readLength width rest
      let (later, remainder) := readUpTo width count (rest.drop length)
      (rest.take length :: later, remainder)

def withoutTerminator (read : Bytes) : Bytes :=
  match read.reverse with
  | last :: before =>
    if last = lf then
      match before with
      | previous :: head => if previous = cr then head.reverse else before.reverse
      | [] => []
    else
      read
  | [] => read

/-- The result of parsing a content: its options, and whether some of the
content was left over when the limit on reads was reached. -/
structure Parsed where
  options : List Bytes
  truncated : Bool
deriving DecidableEq, Repr

/-- The options in a content: the reads without their line ends, empty ones
left out. -/
def parse (limits : Limits) (content : Bytes) : Parsed :=
  let (reads, remainder) := readUpTo limits.window limits.maxOptions.toNat content
  { options := (reads.map withoutTerminator).filter (· ≠ [])
    truncated := remainder ≠ [] }

/-- The options in a file: only the bytes within the budget are looked at. -/
def parseFile (limits : Limits) (content : Bytes) : Parsed :=
  parse limits (content.take limits.budget)

end AppLauncher.Options
