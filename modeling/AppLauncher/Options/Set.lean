import AppLauncher.Bytes

/-!
# Option sets

Options in order, together with where they came from, and the table that
stands in when no options file can be read.
-/

namespace AppLauncher

inductive OptionSource where
  | file
  | builtIn
deriving DecidableEq, Repr

structure OptionSet where
  options : List Bytes
  source : OptionSource
deriving DecidableEq, Repr

namespace OptionSet

def empty : OptionSet := ⟨[], .file⟩

def size (set : OptionSet) : Nat := set.options.length

def isEmpty (set : OptionSet) : Bool := set.options.isEmpty

end OptionSet

inductive Variant where
  | standard
  | profiling
deriving DecidableEq, Repr, Inhabited

namespace Variant

def current : Variant := .standard

def sharedOptions : List String :=
  ["-Xms64m", "-Xmx256m", "-Dasdf=fdsa",
   "-Dorg.apache.commons.logging.Log=org.apache.commons.logging.impl.NoOpLog",
   "-Djava.net.preferIPv4Stack=true", "-ea:com.limegroup...",
   "-ea:org.limewire...", "-Djava.library.path=lib"]

def payloadOptions : Variant → List String
  | .standard => ["-jar", "lib\\MuWire.jar"]
  | .profiling => ["-agentlib:yjpagent=port=11111", "-jar", "LimeWire.jar"]

def builtInOptions (variant : Variant) : OptionSet :=
  { options := (sharedOptions ++ variant.payloadOptions).map Bytes.ofText
    source := .builtIn }

end Variant

end AppLauncher
