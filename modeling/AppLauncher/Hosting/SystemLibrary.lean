import AppLauncher.Files.Node

/-!
# The system's libraries

Every library can reach the functions of the C library.  Those that take a
number and give one can stand for an entry point, which then receives the
number of the arguments.
-/

namespace AppLauncher.SystemLibrary

/-- The number of trailing zero bits before the first bit of a number that is
one, counted from one; zero if there is none. -/
def firstBit (n : Nat) : Nat :=
  match (List.range 64).find? fun place => n.testBit place with
  | some place => place + 1
  | none => 0

def swapped : (count : Nat) → Nat → Nat
  | 0, _ => 0
  | count + 1, n => (n % 256) * Nat.pow 256 count + swapped count (n / 256)

def ofClass (bit : Nat) (belongs : Char → Bool) (n : Int32) : Int32 :=
  let code := n.toInt.toNat
  if 0 ≤ n.toInt ∧ code < 128 ∧ belongs (Char.ofNat code) then Int32.ofNat bit else 0

def isPrintable (c : Char) : Bool :=
  32 ≤ c.toNat && c.toNat < 127

def isSpace (c : Char) : Bool :=
  c == ' ' || (9 ≤ c.toNat && c.toNat ≤ 13)

def functions : List (String × (Int32 → Int32)) :=
  let magnitude (n : Int32) : Int32 := Int32.ofNat n.toInt.natAbs
  let mapped (change : Char → Char) (n : Int32) : Int32 :=
    if 0 ≤ n.toInt ∧ n.toInt < 128 then
      Int32.ofNat (change (Char.ofNat n.toInt.toNat)).toNat
    else n
  let bit (n : Int32) : Int32 := Int32.ofNat (firstBit n.toInt.toNat)
  let short (n : Int32) : Int32 := Int32.ofNat (swapped 2 n.toInt.toNat)
  let long (n : Int32) : Int32 := Int32.ofNat (swapped 4 n.toInt.toNat)
  [("abs", magnitude), ("labs", magnitude), ("llabs", magnitude), ("imaxabs", magnitude),
   ("toupper", mapped Char.toUpper), ("tolower", mapped Char.toLower),
   ("towupper", mapped Char.toUpper), ("towlower", mapped Char.toLower),
   ("toascii", fun n => Int32.ofNat (n.toInt.toNat % 128)),
   ("ffs", bit), ("ffsl", bit), ("ffsll", bit),
   ("htons", short), ("ntohs", short), ("htonl", long), ("ntohl", long),
   ("isupper", ofClass 256 Char.isUpper), ("islower", ofClass 512 Char.isLower),
   ("isalpha", ofClass 1024 Char.isAlpha), ("isdigit", ofClass 2048 Char.isDigit),
   ("isspace", ofClass 8192 isSpace), ("isprint", ofClass 16384 isPrintable),
   ("isgraph", ofClass 32768 fun c => isPrintable c && c != ' '),
   ("isblank", ofClass 1 fun c => c == ' ' || c == '\t'),
   ("iscntrl", ofClass 2 fun c => c.toNat < 32 || c.toNat == 127),
   ("ispunct", ofClass 4 fun c => isPrintable c && c != ' ' && !c.isAlphanum),
   ("isalnum", ofClass 8 Char.isAlphanum),
   ("isascii", fun n => if 0 ≤ n.toInt ∧ n.toInt < 128 then 1 else 0),
   ("getpagesize", fun _ => 4096), ("sched_yield", fun _ => 0),
   ("getuid", fun _ => 0), ("geteuid", fun _ => 0), ("getgid", fun _ => 0),
   ("getegid", fun _ => 0)]

def exports : List (Bytes × EntryPoint) :=
  functions.map fun (name, function) =>
    (Bytes.ofText name, fun arguments => function (Int32.ofNat arguments.count))

def names : List String :=
  ["libc.so.6", "libm.so.6", "libdl.so.2", "libpthread.so.0", "librt.so.1", "libutil.so.1",
   "libresolv.so.2", "libanl.so.1", "libnss_files.so.2", "libgcc_s.so.1", "libstdc++.so.6",
   "libcrypt.so.1", "libz.so.1", "ld-linux-x86-64.so.2"]

def file : Node := .file (.library []) false

end AppLauncher.SystemLibrary
