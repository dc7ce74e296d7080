import AppLauncher.Files.InstallDirectory
import AppLauncher.Options.Load
import Mathlib.Data.List.DropRight

/-!
# Parents of paths

A path is spelled by what it begins with and the pieces that follow.  Its components
are read off the spelling, and so is its parent: the pieces before the last one that
names something.  Hence the parent takes off again what was joined to a directory, and
a file looked up in the install directory is a sibling of the executable.
-/

namespace AppLauncher

/-! ## Pieces and separators -/

namespace Bytes

theorem splitOn_eq_list_splitOn (separator : UInt8) (bytes : Bytes) :
    splitOn separator bytes = List.splitOn separator bytes := by
  unfold List.splitOn
  induction bytes with
  | nil => simp [splitOn]
  | cons byte rest ih =>
      rw [List.splitOnP_cons_eq_if_modifyHead, ← ih, splitOn]
      simp only [beq_iff_eq]
      split
      · rfl
      · obtain ⟨piece, pieces, hpieces⟩ :=
          List.exists_cons_of_ne_nil (splitOn_ne_nil separator rest)
        rw [hpieces, List.modifyHead_cons]

theorem joinWith_eq_intercalate (separator : UInt8) (pieces : List Bytes) :
    joinWith separator pieces = [separator].intercalate pieces := by
  induction pieces with
  | nil => rfl
  | cons piece pieces ih =>
      cases pieces with
      | nil => simp [joinWith]
      | cons next pieces => rw [joinWith, ih, List.intercalate_cons_cons]; simp

theorem splitOn_joinWith {separator : UInt8} {pieces : List Bytes}
    (hpieces : ∀ piece ∈ pieces, separator ∉ piece) (hne : pieces ≠ []) :
    splitOn separator (joinWith separator pieces) = pieces := by
  rw [splitOn_eq_list_splitOn, joinWith_eq_intercalate]
  exact List.splitOn_intercalate separator hpieces hne

theorem notMem_of_mem_splitOn {separator : UInt8} {bytes piece : Bytes}
    (hpiece : piece ∈ splitOn separator bytes) : separator ∉ piece := by
  induction bytes generalizing piece with
  | nil => simp_all [splitOn]
  | cons byte rest ih =>
      obtain ⟨first, more, hsplit⟩ :=
        List.exists_cons_of_ne_nil (splitOn_ne_nil separator rest)
      simp only [splitOn, hsplit] at hpiece ih
      by_cases hbyte : byte = separator
      · rw [if_pos hbyte, List.mem_cons] at hpiece
        rcases hpiece with rfl | hpiece
        · exact List.not_mem_nil
        · exact ih hpiece
      · rw [if_neg hbyte, List.mem_cons] at hpiece
        rcases hpiece with rfl | hpiece
        · rw [List.mem_cons, not_or]
          exact ⟨Ne.symm hbyte, ih List.mem_cons_self⟩
        · exact ih (List.mem_cons_of_mem first hpiece)

theorem joinWith_cons_of_ne_nil (separator : UInt8) (piece : Bytes) {pieces : List Bytes}
    (hne : pieces ≠ []) :
    joinWith separator (piece :: pieces) = piece ++ separator :: joinWith separator pieces := by
  obtain ⟨next, more, rfl⟩ := List.exists_cons_of_ne_nil hne
  rfl

theorem joinWith_append_cons (separator : UInt8) {pieces : List Bytes} (hne : pieces ≠ [])
    (next : Bytes) (more : List Bytes) :
    joinWith separator (pieces ++ next :: more) =
      joinWith separator pieces ++ separator :: joinWith separator (next :: more) := by
  induction pieces with
  | nil => exact absurd rfl hne
  | cons piece pieces ih =>
      by_cases hnil : pieces = []
      · subst hnil
        rfl
      · rw [List.cons_append, joinWith_cons_of_ne_nil separator piece (by simp),
          joinWith_cons_of_ne_nil separator piece hnil, ih hnil, List.append_assoc,
          List.cons_append]

theorem joinWith_isPrefix (separator : UInt8) {front pieces : List Bytes}
    (hfront : front <+: pieces) : joinWith separator front <+: joinWith separator pieces := by
  obtain ⟨more, rfl⟩ := hfront
  by_cases hne : front = []
  · rw [hne]
    exact List.nil_prefix
  · cases more with
    | nil => simp only [List.append_nil, List.prefix_rfl]
    | cons next more =>
        rw [joinWith_append_cons separator hne]
        exact List.prefix_append _ _

theorem joinWith_append_head (separator : UInt8) (front piece : Bytes) (pieces : List Bytes) :
    joinWith separator ((front ++ piece) :: pieces) =
      front ++ joinWith separator (piece :: pieces) := by
  cases pieces with
  | nil => rfl
  | cons next pieces => rw [joinWith, joinWith, List.append_assoc]

end Bytes

namespace Path

open Bytes (slash dot joinWith splitOn)

/-! ## Spellings of a path -/

/-- What a path may begin with, and which pieces may follow that. -/
inductive Beginning : (start : Bytes) → (pieces : List Bytes) → Prop where
  | root (pieces : List Bytes) (hne : pieces ≠ []) : Beginning [slash] pieces
  | current (more : List Bytes) : Beginning [dot] ([] :: more)
  | empty : Beginning [] [[]]
  | named (first : Bytes) (more : List Bytes) (hfirst : isIdle first = false) :
      Beginning [] (first :: more)

/-- The pieces of a path, apart from what it begins with. -/
structure Spelling (start : Bytes) (pieces : List Bytes) : Prop where
  beginning : Beginning start pieces
  unseparated : ∀ piece ∈ pieces, slash ∉ piece

def spell (start : Bytes) (pieces : List Bytes) : Path :=
  start ++ joinWith slash pieces

theorem Spelling.ne_nil {start : Bytes} {pieces : List Bytes}
    (hspelling : Spelling start pieces) : pieces ≠ [] := by
  cases hspelling.beginning with
  | root _ hne => exact hne
  | current => simp
  | empty => simp
  | named => simp

theorem isIdle_eq_false_iff (piece : Bytes) :
    isIdle piece = false ↔ piece ≠ [] ∧ piece ≠ [dot] := by
  simp [isIdle]

theorem isAbsolute_joinWith {first : Bytes} (more : List Bytes) (hfirst : isIdle first = false)
    (hsingle : slash ∉ first) : isAbsolute (joinWith slash (first :: more)) = false := by
  obtain ⟨byte, rest, rfl⟩ :=
    List.exists_cons_of_ne_nil ((isIdle_eq_false_iff first).mp hfirst).1
  have hhead : joinWith slash ((byte :: rest) :: more) = byte :: joinWith slash (rest :: more) :=
    Bytes.joinWith_append_head slash [byte] rest more
  rw [List.mem_cons, not_or] at hsingle
  rw [hhead]
  simpa [isAbsolute] using Ne.symm hsingle.1

theorem exists_spelling (path : Path) :
    ∃ start pieces, Spelling start pieces ∧ path = spell start pieces := by
  have hunseparated (bytes : Bytes) : ∀ piece ∈ splitOn slash bytes, slash ∉ piece :=
    fun piece hpiece => Bytes.notMem_of_mem_splitOn hpiece
  obtain ⟨first, more, hpieces⟩ :=
    List.exists_cons_of_ne_nil (Bytes.splitOn_ne_nil slash path)
  have hpath : joinWith slash (first :: more) = path := by
    rw [← hpieces, Bytes.joinWith_splitOn]
  have hwhole := hunseparated path
  rw [hpieces] at hwhole
  by_cases hroot : path.head? = some slash
  · obtain ⟨rest, rfl⟩ := List.head?_eq_some_iff.mp hroot
    refine ⟨[slash], splitOn slash rest, ⟨.root _ (Bytes.splitOn_ne_nil slash rest),
      hunseparated rest⟩, ?_⟩
    rw [spell, Bytes.joinWith_splitOn, List.singleton_append]
  · by_cases hfirst : isIdle first = false
    · exact ⟨[], first :: more, ⟨.named first more hfirst, hwhole⟩, hpath.symm⟩
    · by_cases hnil : first = []
      · -- A path that begins with a separator is absolute, so this one is empty.
        subst hnil
        cases more with
        | nil => exact ⟨[], [[]], ⟨.empty, hwhole⟩, hpath.symm⟩
        | cons next more =>
            rw [← hpath] at hroot
            exact absurd rfl hroot
      · have hdot : first = [dot] := by
          by_contra hdot
          exact hfirst ((isIdle_eq_false_iff first).mpr ⟨hnil, hdot⟩)
        subst hdot
        refine ⟨[dot], [] :: more, ⟨.current more, ?_⟩, ?_⟩
        · rw [List.forall_mem_cons] at hwhole ⊢
          exact ⟨List.not_mem_nil, hwhole.2⟩
        · rw [spell, ← Bytes.joinWith_append_head, List.append_nil, hpath]

section Spelled

variable {start : Bytes} {pieces stem : List Bytes}

theorem Spelling.anchor_eq (hspelling : Spelling start pieces) :
    anchor (spell start pieces) = start := by
  obtain ⟨hbeginning, hunseparated⟩ := hspelling
  cases hbeginning with
  | root _ hne =>
      obtain ⟨first, more, hpieces⟩ :=
        List.exists_cons_of_ne_nil (Bytes.splitOn_ne_nil slash (spell [slash] pieces))
      have habsolute : isAbsolute (spell [slash] pieces) = true := rfl
      simp only [anchor, Path.pieces, hpieces, habsolute, if_true]
  | current more =>
      have hpieces : Path.pieces (spell [dot] ([] :: more)) = [dot] :: more := by
        rw [spell, ← Bytes.joinWith_append_head]
        refine Bytes.splitOn_joinWith ?_ (List.cons_ne_nil _ _)
        rw [List.forall_mem_cons] at hunseparated ⊢
        exact ⟨by decide, hunseparated.2⟩
      have hrelative : isAbsolute (spell [dot] ([] :: more)) = false := rfl
      simp only [anchor, hpieces, hrelative]
      rfl
  | empty => rfl
  | named first more hfirst =>
      have hpieces : Path.pieces (spell [] (first :: more)) = first :: more :=
        Bytes.splitOn_joinWith hunseparated (List.cons_ne_nil _ _)
      have hdot : first ≠ [dot] := ((isIdle_eq_false_iff first).mp hfirst).2
      have hrelative : isAbsolute (spell [] (first :: more)) = false :=
        isAbsolute_joinWith more hfirst (hunseparated first List.mem_cons_self)
      simp only [anchor, hpieces, hrelative, hdot]
      rfl

theorem Spelling.pieces_body (hspelling : Spelling start pieces) :
    Path.pieces (body (spell start pieces)) = pieces := by
  rw [body, hspelling.anchor_eq, spell, List.drop_left]
  exact Bytes.splitOn_joinWith hspelling.unseparated hspelling.ne_nil

/-! ## Components of a spelling -/

def leading (start : Bytes) : List Component :=
  if start = [slash] then [.root] else if start = [dot] then [.current] else []

/-- The pieces that name something. -/
def names (pieces : List Bytes) : List Bytes :=
  pieces.filter (!isIdle ·)

theorem names_append (front back : List Bytes) :
    names (front ++ back) = names front ++ names back :=
  List.filter_append front back

theorem Spelling.components_eq (hspelling : Spelling start pieces) :
    components (spell start pieces) = leading start ++ (names pieces).map .named := by
  rw [components, hspelling.anchor_eq, hspelling.pieces_body]
  rfl

theorem withoutIdleEnd_eq_rdropWhile (pieces : List Bytes) :
    withoutIdleEnd pieces = pieces.rdropWhile isIdle :=
  rfl

theorem names_withoutIdleEnd (pieces : List Bytes) :
    names (withoutIdleEnd pieces) = names pieces := by
  rw [withoutIdleEnd_eq_rdropWhile]
  induction pieces using List.reverseRecOn with
  | nil => rfl
  | append_singleton pieces last ih =>
      rw [List.rdropWhile_concat, names_append]
      by_cases hidle : isIdle last = true
      · rw [if_pos hidle, ih]
        simp [names, hidle]
      · rw [if_neg hidle, names_append]

theorem withoutIdleEnd_isPrefix (pieces : List Bytes) : withoutIdleEnd pieces <+: pieces :=
  List.rdropWhile_prefix isIdle pieces

/-- A spelling without a name has no parent but the empty path; any other one has the
pieces before its last name for a parent, up to idle ones. -/
theorem Spelling.parent?_cases (hspelling : Spelling start pieces) :
    (names pieces = [] ∧
        parent? (spell start pieces) = if start = [dot] then some [] else none) ∨
      ∃ stem last, stem <+: pieces ∧ names pieces = names stem ++ [last] ∧
        parent? (spell start pieces) = some (spell start stem) := by
  rw [parent?, hspelling.anchor_eq, hspelling.pieces_body, ← names_withoutIdleEnd pieces]
  have hkept : withoutIdleEnd pieces <+: pieces := withoutIdleEnd_isPrefix pieces
  cases hpieces : withoutIdleEnd pieces with
  | nil => exact .inl ⟨rfl, rfl⟩
  | cons first more =>
      have hne : first :: more ≠ [] := List.cons_ne_nil first more
      have hlast : isIdle ((first :: more).getLast hne) = false := by
        have hnamed := List.rdropWhile_last_not isIdle pieces (by
          rw [← withoutIdleEnd_eq_rdropWhile, hpieces]
          exact hne)
        simpa only [← withoutIdleEnd_eq_rdropWhile, hpieces, Bool.not_eq_true] using hnamed
      rw [hpieces] at hkept
      refine .inr ⟨withoutIdleEnd (first :: more).dropLast, (first :: more).getLast hne,
        ?_, ?_, rfl⟩
      · exact (withoutIdleEnd_isPrefix _).trans ((List.dropLast_prefix _).trans hkept)
      · calc
          names (first :: more)
              = names ((first :: more).dropLast ++ [(first :: more).getLast hne]) := by
            rw [List.dropLast_append_getLast hne]
          _ = names (withoutIdleEnd (first :: more).dropLast) ++
                [(first :: more).getLast hne] := by
            rw [names_append, names_withoutIdleEnd, names, names]
            simp [hlast]

theorem Beginning.of_isPrefix (hbeginning : Beginning start pieces) (hstem : stem <+: pieces)
    (hne : stem ≠ []) : Beginning start stem := by
  cases hbeginning with
  | root => exact .root stem hne
  | current more =>
      obtain ⟨rest, rfl, -⟩ := (List.prefix_cons_iff.mp hstem).resolve_left hne
      exact .current rest
  | empty =>
      obtain ⟨rest, rfl, hrest⟩ := (List.prefix_cons_iff.mp hstem).resolve_left hne
      rw [List.prefix_nil.mp hrest]
      exact .empty
  | named first more hfirst =>
      obtain ⟨rest, rfl, -⟩ := (List.prefix_cons_iff.mp hstem).resolve_left hne
      exact .named first rest hfirst

theorem Beginning.single (hbeginning : Beginning start pieces) : Beginning start [[]] := by
  cases hbeginning with
  | root => exact .root [[]] (List.cons_ne_nil _ _)
  | current => exact .current []
  | empty => exact .empty
  | named => exact .empty

theorem Spelling.components_of_isPrefix (hspelling : Spelling start pieces)
    (hstem : stem <+: pieces) :
    components (spell start stem) = leading start ++ (names stem).map .named := by
  by_cases hne : stem = []
  · -- No piece at all is spelled like one empty piece.
    have hsingle : Spelling start [[]] := ⟨hspelling.beginning.single, by simp⟩
    rw [hne]
    exact hsingle.components_eq
  · have hfront : Spelling start stem :=
      ⟨hspelling.beginning.of_isPrefix hstem hne,
        fun piece hpiece => hspelling.unseparated piece (hstem.subset hpiece)⟩
    exact hfront.components_eq

end Spelled

/-! ## Parents -/

theorem components_nil : components [] = [] :=
  rfl

/-- A parent is the beginning of a path and lacks its last component alone.  That is a
name, unless nothing is left of the path. -/
theorem exists_components_of_parent? {path found : Path} (hfound : parent? path = some found) :
    found <+: path ∧ ∃ last, components path = components found ++ [last] ∧
      ((∃ name, last = .named name) ∨ found = []) := by
  obtain ⟨start, pieces, hspelling, rfl⟩ := exists_spelling path
  rw [hspelling.components_eq]
  rcases hspelling.parent?_cases with ⟨hnames, hparent⟩ | ⟨stem, last, hstem, hnames, hparent⟩
  · rw [hparent] at hfound
    split at hfound
    next hcurrent =>
      simp only [Option.some.injEq] at hfound
      subst hfound hcurrent
      exact ⟨List.nil_prefix, .current, by rw [hnames]; rfl, .inr rfl⟩
    next => simp at hfound
  · rw [hparent, Option.some.injEq] at hfound
    subst hfound
    refine ⟨?_, .named last, ?_, .inl ⟨last, rfl⟩⟩
    · exact (List.prefix_append_right_inj start).mpr (Bytes.joinWith_isPrefix slash hstem)
    · rw [hspelling.components_of_isPrefix hstem, hnames, List.map_append, List.append_assoc]
      rfl

theorem exists_parent?_of_components {path : Path} {front : List Component} {name : Bytes}
    (hpath : components path = front ++ [.named name]) :
    ∃ found, parent? path = some found ∧ components found = front := by
  have hsome : ∃ found, parent? path = some found := by
    obtain ⟨start, pieces, hspelling, rfl⟩ := exists_spelling path
    rcases hspelling.parent?_cases with ⟨hnames, -⟩ | ⟨stem, last, -, -, hparent⟩
    · have hlast : (leading start).getLast? = some (.named name) := by
        rw [hspelling.components_eq, hnames, List.map_nil, List.append_nil] at hpath
        rw [hpath, List.getLast?_concat]
      unfold leading at hlast
      split at hlast
      · simp at hlast
      · split at hlast <;> simp at hlast
    · exact ⟨_, hparent⟩
  obtain ⟨found, hfound⟩ := hsome
  obtain ⟨-, last, hlast, -⟩ := exists_components_of_parent? hfound
  rw [hpath] at hlast
  exact ⟨found, hfound, (List.append_inj_left' hlast rfl).symm⟩

theorem components_eq_nil_iff {path : Path} : components path = [] ↔ path = [] := by
  constructor
  · intro hnil
    obtain ⟨start, pieces, hspelling, rfl⟩ := exists_spelling path
    rw [hspelling.components_eq, List.append_eq_nil_iff, List.map_eq_nil_iff] at hnil
    obtain ⟨hleading, hnames⟩ := hnil
    cases hspelling.beginning with
    | root => exact absurd hleading (by decide)
    | current => exact absurd hleading (by decide)
    | empty => rfl
    | named first more hfirst =>
        rw [names, List.filter_cons_of_pos (by rw [hfirst]; rfl)] at hnames
        exact absurd hnames (List.cons_ne_nil _ _)
  · rintro rfl
    exact components_nil

/-! ## Names in a directory -/

/-- A name that a directory may have an entry under.  Two full stops are a name like any
other. -/
structure IsFileName (name : Bytes) : Prop where
  nonempty : name ≠ []
  single : slash ∉ name
  notCurrent : name ≠ [dot]

theorem IsFileName.names_singleton {name : Bytes} (hname : IsFileName name) :
    names [name] = [name] := by
  have hnamed := (isIdle_eq_false_iff name).mpr ⟨hname.nonempty, hname.notCurrent⟩
  simp [names, hnamed]

theorem IsFileName.isAbsolute_eq_false {name : Bytes} (hname : IsFileName name) :
    isAbsolute name = false := by
  have hhead : name.head? ≠ some slash := fun hhead => hname.single (List.mem_of_head? hhead)
  simpa [isAbsolute] using hhead

theorem components_slash {piece : Bytes} (hpiece : slash ∉ piece) :
    components (slash :: piece) = .root :: (names [piece]).map .named := by
  have hspelling : Spelling [slash] [piece] :=
    ⟨.root [piece] (List.cons_ne_nil _ _), by simpa using hpiece⟩
  exact hspelling.components_eq

theorem components_append_slash {front : Path} {piece : Bytes} (hfront : front ≠ [])
    (hpiece : slash ∉ piece) :
    components (front ++ slash :: piece) = components front ++ (names [piece]).map .named := by
  obtain ⟨start, pieces, hspelling, rfl⟩ := exists_spelling front
  have hlonger : spell start pieces ++ slash :: piece = spell start (pieces ++ [piece]) := by
    rw [spell, spell, Bytes.joinWith_append_cons slash hspelling.ne_nil, List.append_assoc]
    rfl
  have hbeginning : Beginning start (pieces ++ [piece]) := by
    cases hspelling.beginning with
    | root => exact .root _ (by simp)
    | current more => exact .current (more ++ [piece])
    | empty => exact absurd rfl hfront
    | named first more hfirst => exact .named first (more ++ [piece]) hfirst
  have hunseparated : ∀ other ∈ pieces ++ [piece], slash ∉ other := by
    rw [List.forall_mem_append]
    exact ⟨hspelling.unseparated, by simpa using hpiece⟩
  rw [hlonger, Spelling.components_eq ⟨hbeginning, hunseparated⟩, hspelling.components_eq,
    names_append, List.map_append, List.append_assoc]

theorem components_join {directory : Path} {name : Bytes} (hdirectory : directory ≠ [])
    (hname : IsFileName name) :
    components (directory.join name) = components directory ++ [.named name] := by
  have hnamed : (names [name]).map Component.named = [.named name] := by
    rw [hname.names_singleton]
    rfl
  have hidle : (names [[]]).map Component.named = [] := rfl
  rw [join, hname.isAbsolute_eq_false, if_neg Bool.false_ne_true]
  by_cases hslash : directory.getLast? = some slash
  · rw [if_pos (.inr hslash)]
    obtain ⟨front, rfl⟩ := List.getLast?_eq_some_iff.mp hslash
    rw [List.append_assoc, List.singleton_append]
    by_cases hfront : front = []
    · subst hfront
      rw [List.nil_append, List.nil_append, components_slash hname.single,
        components_slash List.not_mem_nil, hnamed, hidle]
      rfl
    · rw [components_append_slash hfront hname.single,
        components_append_slash hfront List.not_mem_nil, hnamed, hidle, List.append_nil]
  · rw [if_neg (not_or.mpr ⟨hdirectory, hslash⟩),
      components_append_slash hdirectory hname.single, hnamed]

end Path

/-! ## The install directory -/

theorem OptionsLoader.isFileName_fileName : Path.IsFileName OptionsLoader.fileName where
  nonempty := by decide +kernel
  single := by decide +kernel
  notCurrent := by decide +kernel

theorem installDirectory?_eq_some_iff {executable found : Path} :
    installDirectory? executable = some found ↔
      Path.parent? executable = some found ∧ found ≠ [] := by
  rw [installDirectory?, Option.filter_eq_some_iff, decide_eq_true_iff]

/-- The install directory takes off again what was joined to a directory.  Wherever it is
found, it is the beginning of the path of the executable, which has one name more, and the
options file that is looked up in it has its own name in that place. -/
theorem installDirectory?_join_and_sibling :
    (∀ directory name : Path, directory ≠ [] → Path.IsFileName name →
      ∃ found, installDirectory? (directory.join name) = some found ∧
        Path.components found = Path.components directory) ∧
    ∀ executable found : Path, installDirectory? executable = some found →
      found ≠ [] ∧ found <+: executable ∧
        (∃ name, Path.components executable = Path.components found ++ [.named name]) ∧
        ∀ loader : OptionsLoader, loader.directory = found →
          Path.components loader.path =
            Path.components found ++ [.named OptionsLoader.fileName] := by
  constructor
  · intro directory name hdirectory hname
    obtain ⟨found, hfound, hcomponents⟩ :=
      Path.exists_parent?_of_components (Path.components_join hdirectory hname)
    have hne : found ≠ [] := by
      rintro rfl
      exact hdirectory (Path.components_eq_nil_iff.mp hcomponents.symm)
    exact ⟨found, installDirectory?_eq_some_iff.mpr ⟨hfound, hne⟩, hcomponents⟩
  · intro executable found hinstalled
    obtain ⟨hfound, hne⟩ := installDirectory?_eq_some_iff.mp hinstalled
    obtain ⟨hstarts, last, hcomponents, hlast⟩ := Path.exists_components_of_parent? hfound
    refine ⟨hne, hstarts, ?_, ?_⟩
    · obtain ⟨name, rfl⟩ := hlast.resolve_right hne
      exact ⟨name, hcomponents⟩
    · rintro loader rfl
      exact Path.components_join hne OptionsLoader.isFileName_fileName

/-- A directory that ends with idle pieces, and an executable whose path goes up, is no
text, and has idle pieces on both sides of the last name. -/
theorem installDirectory?_join_and_sibling_of_idle_pieces :
    let directory : Path := Bytes.ofText "/opt//app/./"
    let name : Path := Bytes.ofText "launcher"
    let found : Path := Bytes.ofText "./../" ++ [0xFF]
    let executable : Path := found ++ Bytes.ofText "//./launcher/."
    let loader : OptionsLoader := { directory := found }
    directory ≠ [] ∧ Path.IsFileName name ∧
      (∃ parent, installDirectory? (directory.join name) = some parent ∧
        Path.components parent = Path.components directory) ∧
      installDirectory? executable = some found ∧ found <+: executable ∧
      loader.directory = found ∧
      Path.components loader.path = Path.components found ++ [.named OptionsLoader.fileName] := by
  intro directory name found executable loader
  have hdirectory : directory ≠ [] := by decide +kernel
  have hname : Path.IsFileName name :=
    ⟨by decide +kernel, by decide +kernel, by decide +kernel⟩
  have hinstalled : installDirectory? executable = some found := by decide +kernel
  obtain ⟨hjoined, hfound⟩ := installDirectory?_join_and_sibling
  obtain ⟨-, hstarts, -, hsibling⟩ := hfound executable found hinstalled
  exact ⟨hdirectory, hname, hjoined directory name hdirectory hname, hinstalled, hstarts, rfl,
    hsibling loader rfl⟩

end AppLauncher
