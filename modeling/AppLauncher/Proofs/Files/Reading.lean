import AppLauncher.Files.Host

/-!
# Reading files

A path whose content can be read leads to a file, so it exists and its first bytes
can be read as well.  A file in the root directory is found under its name.
-/

namespace AppLauncher.Host

section Content

variable {host : Host} {path : Path} {content : Bytes}

theorem exists_find_of_content (hfile : host.content path = .ok content) :
    ∃ location body executable,
      host.find path = .ok (location, .file body executable) ∧ body.content = content := by
  unfold Host.content at hfile
  cases hfind : host.find path with
  | error error => simp [hfind, bind, Except.bind] at hfile
  | ok found =>
      obtain ⟨location, node⟩ := found
      rw [hfind] at hfile
      cases node with
      | file body executable => exact ⟨location, body, executable, rfl, Except.ok.inj hfile⟩
      | directory entries => simp [bind, Except.bind] at hfile
      | link target => simp [bind, Except.bind] at hfile

theorem lookUp_of_content (hfile : host.content path = .ok content) :
    host.files.lookUp path = .ok () := by
  obtain ⟨location, body, executable, hfind, -⟩ := exists_find_of_content hfile
  simp only [files, hfind]
  rfl

theorem readAtMost_of_content (hfile : host.content path = .ok content) (count : Nat) :
    host.readAtMost path count = .ok (content.take count) := by
  obtain ⟨location, body, executable, hfind, rfl⟩ := exists_find_of_content hfile
  simp [readAtMost, hfind, bind, Except.bind]

end Content

/-! ## A host with one file -/

/-- A name that stands for an entry of a directory. -/
structure IsEntryName (name : Bytes) : Prop where
  noNul : Bytes.hasNul name = false
  short : name.length ≤ nameLimit
  relative : Path.isAbsolute name = false
  single : Path.pieces name = [name]
  named : Path.isIdle name = false
  notParent : name ≠ [Bytes.dot, Bytes.dot]

theorem IsEntryName.ne_nil {name : Bytes} (hname : IsEntryName name) : name ≠ [] := by
  rintro rfl
  exact absurd hname.named (by decide)

theorem locate_of_isEntryName {host : Host} {name : Bytes} (hname : IsEntryName name)
    (hcurrent : host.current = []) :
    host.locate true name = (walk host.root true linkLimit [] [name]).mapError .os := by
  have hlength : ¬pathLimit ≤ name.length := by
    have hlimits : nameLimit < pathLimit := by decide
    have hshort := hname.short
    omega
  simp [locate, hname.noNul, hname.ne_nil, hlength, hname.relative, hname.single, hcurrent]

theorem find_of_entry {host : Host} {entries : List (Bytes × Node)} {name : Bytes}
    {body : FileBody} {executable : Bool} (hname : IsEntryName name)
    (hroot : host.root = .directory entries) (hcurrent : host.current = [])
    (hentry : entries.lookup name = some (.file body executable)) :
    host.find name = .ok ([name], .file body executable) := by
  have hwalk : walk host.root true linkLimit [] [name] =
      .ok (.taken [name] (.file body executable)) := by
    simp [walk, hroot, Node.at?, Node.entries, hname.named, hname.notParent,
      Nat.not_lt.mpr hname.short, hentry]
  simp only [find, locate_of_isEntryName hname hcurrent, hwalk]
  rfl

theorem find_of_no_entry {host : Host} {entries : List (Bytes × Node)} {name : Bytes}
    (hname : IsEntryName name) (hroot : host.root = .directory entries)
    (hcurrent : host.current = []) (hentry : entries.lookup name = none) :
    host.find name = .error (.os .noEntry) := by
  have hwalk : walk host.root true linkLimit [] [name] = .ok (.vacant [] name) := by
    simp [walk, hroot, Node.at?, hname.named, hname.notParent, Nat.not_lt.mpr hname.short, hentry]
  simp only [find, locate_of_isEntryName hname hcurrent, hwalk]
  rfl

theorem walk_idle_cons {entries : List (Bytes × Node)} {piece : Bytes}
    (hidle : Path.isIdle piece = true) (links : Nat) (rest : List Bytes) :
    walk (.directory entries) true links [] (piece :: rest) =
      walk (.directory entries) true links [] rest := by
  rw [walk.eq_def _ _ _ _ (piece :: rest)]
  simp [Node.at?, hidle]

theorem IsEntryName.pieces_append_slash {front name : Bytes} (hname : IsEntryName name)
    (hfront : front = [] ∨ front = [Bytes.dot]) :
    Path.pieces (front ++ Bytes.slash :: name) = [front, name] := by
  have hsingle := hname.single
  have hdot : Bytes.dot ≠ Bytes.slash := by decide
  simp only [Path.pieces] at hsingle ⊢
  rcases hfront with rfl | rfl <;> simp [Bytes.splitOn, hsingle, hdot]

/-- From the root a name leads where it leads in the root directory. -/
theorem find_slash {host : Host} {entries : List (Bytes × Node)} {name : Bytes}
    (hname : IsEntryName name) (hroot : host.root = .directory entries) :
    host.find (Bytes.slash :: name) = ({ host with current := [] } : Host).find name := by
  have hnul : Bytes.hasNul (Bytes.slash :: name) = false := by
    have hnone := (Bytes.hasNul_eq_false_iff name).mp hname.noNul
    rw [Bytes.hasNul_eq_false_iff, List.mem_cons, not_or]
    exact ⟨by decide, hnone⟩
  have hlength : ¬pathLimit ≤ name.length + 1 := by
    have hlimits : nameLimit + 1 < pathLimit := by decide
    have hshort := hname.short
    omega
  have hpieces : Path.pieces (Bytes.slash :: name) = [[], name] :=
    hname.pieces_append_slash (.inl rfl)
  have hwalk : walk host.root true linkLimit [] [[], name] =
      walk host.root true linkLimit [] [name] := by
    rw [hroot, walk_idle_cons rfl]
  have hlocate : host.locate true (Bytes.slash :: name) =
      (walk host.root true linkLimit [] [name]).mapError .os := by
    simp [locate, hnul, hlength, hpieces, hwalk, Path.isAbsolute]
  have hrelative := @locate_of_isEntryName { host with current := [] } name hname rfl
  simp only [find, hlocate, hrelative]

theorem content_slash_of_entry {host : Host} {entries : List (Bytes × Node)}
    {name content : Bytes} (hname : IsEntryName name) (hroot : host.root = .directory entries)
    (hentry : entries.lookup name = some (.plain content)) :
    host.content (Bytes.slash :: name) = .ok content := by
  have hfind := @find_of_entry { host with current := [] } entries name _ _ hname hroot rfl hentry
  simp only [Host.content, find_slash hname hroot, hfind]
  rfl

/-- A link to itself is followed until no more links are. -/
theorem find_of_loop {host : Host} {entries : List (Bytes × Node)} {name : Bytes}
    (hname : IsEntryName name) (hroot : host.root = .directory entries)
    (hcurrent : host.current = []) (hentry : entries.lookup name = some (.link name)) :
    host.find name = .error (.os .tooManyLinks) := by
  have hwalk (links : Nat) :
      walk (.directory entries) true links [] [name] = .error .tooManyLinks := by
    induction links with
    | zero =>
        simp [walk, Node.at?, hname.named, hname.notParent, Nat.not_lt.mpr hname.short, hentry,
          hname.ne_nil]
    | succ links ih =>
        rw [walk]
        simpa [Node.at?, hname.named, hname.notParent, Nat.not_lt.mpr hname.short, hentry,
          hname.ne_nil, hname.relative, hname.single] using ih
  simp only [find, locate_of_isEntryName hname hcurrent, hroot, hwalk]
  rfl

/-- A host with nothing but one file in its root directory. -/
def withFile (name content : Bytes) : Host where
  root := .directory [(name, .plain content)]

theorem content_withFile {name : Bytes} (hname : IsEntryName name) (content : Bytes) :
    (withFile name content).content name = .ok content := by
  have hentry : [(name, Node.plain content)].lookup name = some (.plain content) :=
    List.lookup_cons_self
  have hfind : (withFile name content).find name = .ok ([name], .plain content) :=
    find_of_entry hname rfl rfl hentry
  simp only [Host.content, hfind]
  rfl

end AppLauncher.Host
