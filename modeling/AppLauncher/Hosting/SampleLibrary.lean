import AppLauncher.Files.Node

/-!
# A sample library

A small runtime library for trying a launcher out.  Its entry points tell
something about the arguments they were given, or end with a status of the
launcher's own.
-/

namespace AppLauncher.SampleLibrary

def checksumModulus : Nat := 1000003

def mix (sum : Nat) (byte : UInt8) : Nat :=
  (sum * 31 + byte.toNat) % checksumModulus

def checksum (arguments : List Bytes) : Nat :=
  arguments.foldl (fun sum argument => (argument ++ [Bytes.lf]).foldl mix sum) 7

def codeOfNat (count : Nat) : Int32 := Int32.ofNat count

def entryPoints : List (String × EntryPoint) :=
  [("launch", fun arguments => codeOfNat arguments.count),
   ("total_bytes", fun arguments => codeOfNat arguments.strings.flatten.length),
   ("check_null", fun arguments => if arguments.closed then 0 else 1),
   ("checksum", fun arguments => codeOfNat (checksum arguments.strings)),
   ("minus_one", fun _ => Int32.ofInt (-1)),
   ("not_found", fun _ => 201),
   ("bad_args", fun _ => 204),
   ("no_start", fun _ => 205)]

def exports : List (Bytes × EntryPoint) :=
  entryPoints.map fun (name, entry) => (Bytes.ofText name, entry)

def file : Node := .file (.library exports) false

end AppLauncher.SampleLibrary
