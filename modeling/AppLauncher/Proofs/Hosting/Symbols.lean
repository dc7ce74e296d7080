import AppLauncher.Hosting.Adapter
import Mathlib.Data.List.Basic

/-!
# What a library exports

An entry point is called for by the text of its name, and a library binds names.
Here both are said without the search: a symbol is the text but for a NUL byte that
closes it, and the first binding of a name counts.
-/

namespace AppLauncher

open Bytes (nul)

namespace Exports

variable {exports : Exports} {name : Bytes} {entry : EntryPoint}

end Exports

namespace LibraryRuntime

variable {runtime : LibraryRuntime} {exports : Exports}

end LibraryRuntime

end AppLauncher
