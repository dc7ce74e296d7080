import Mathlib.Data.List.Nodup
import AppLauncher.Proofs.Toml.KeyOrder
import AppLauncher.Settings.Shape

/-!
# Reading tables by key

A table in key order whose numbers can all be represented is read as if its fields were
looked up one after the other, in the order of their keys.  Keys that no field has leave no
trace, wherever they stand, so what is read depends on the values of the known keys alone.
-/

namespace AppLauncher

open Toml (Entry Value lookup)

/-! ## Numbers -/

mutual

/-- Whether every number in a value can be represented. -/
def Toml.Value.isRepresentable : Value → Bool
  | .integer value =>
    value.any fun number => -Int.pow 2 127 ≤ number && number < Int.pow 2 128
  | .float (.numeral numeral) => numeral.value?.isSome
  | .array items | .grown items => Toml.areRepresentable items
  | .table _ entries => Toml.hasRepresentable entries
  | .string _ | .float _ | .boolean _ | .moment => true

def Toml.areRepresentable : List Toml.Node → Bool
  | [] => true
  | .mk _ value :: items => value.isRepresentable && Toml.areRepresentable items

/-- Whether every number in the values of entries can be represented. -/
def Toml.hasRepresentable : List Entry → Bool
  | [] => true
  | .mk _ _ (.mk _ value) :: entries =>
    value.isRepresentable && Toml.hasRepresentable entries

end

theorem exists_ofInteger {number : Int} (hleast : -Int.pow 2 127 ≤ number)
    (hgreatest : number < Int.pow 2 128) :
    ∃ found, Found.ofInteger (some number) = .ok found := by
  have hpow : Int.pow 2 127 = 170141183460469231731687303715884105728 := rfl
  simp only [Found.ofInteger]
  by_cases hword : -Int.pow 2 63 ≤ number ∧ number < Int.pow 2 64
  · exact ⟨_, if_pos hword⟩
  · rw [if_neg hword]
    by_cases hwide : number < Int.pow 2 127
    · exact ⟨_, if_pos ⟨hleast, hwide⟩⟩
    · have hpositive : 0 ≤ number := by omega
      rw [if_neg (fun h => hwide h.2)]
      exact ⟨_, if_pos ⟨hpositive, hgreatest⟩⟩

mutual

/-- A value is passed over if all numbers in it can be represented. -/
theorem passOver_eq_ok (position : Toml.Place) :
    (value : Value) → value.isRepresentable → passOver (.mk position value) = .ok ()
  | .integer none, hvalue => by simp [Value.isRepresentable] at hvalue
  | .integer (some number), hvalue => by
      obtain ⟨hleast, hgreatest⟩ : -Int.pow 2 127 ≤ number ∧ number < Int.pow 2 128 := by
        simpa only [Value.isRepresentable, Option.any_some, Bool.and_eq_true,
          decide_eq_true_eq] using hvalue
      obtain ⟨found, hfound⟩ := exists_ofInteger hleast hgreatest
      simp only [passOver, hfound]
      rfl
  | .float (.numeral numeral), hvalue => by
      obtain ⟨number, hnumber⟩ : ∃ number, numeral.value? = some number := by
        simpa only [Value.isRepresentable, Option.isSome_iff_exists] using hvalue
      simp only [passOver, Found.ofFloat, hnumber]
      rfl
  | .float (.infinity _), _ | .float .notANumber, _ => rfl
  | .array items, hvalue => by
      simp only [Value.isRepresentable] at hvalue
      simpa only [passOver] using passOverItems_eq_ok items hvalue
  | .grown items, hvalue => by
      simp only [Value.isRepresentable] at hvalue
      simpa only [passOver] using passOverGrown_eq_ok items hvalue
  | .table _ entries, hvalue => by
      simp only [Value.isRepresentable] at hvalue
      simpa only [passOver] using passOverEntries_eq_ok entries hvalue
  | .string _, _ | .boolean _, _ | .moment, _ => by simp only [passOver]

theorem passOverItems_eq_ok :
    (items : List Toml.Node) → Toml.areRepresentable items → passOverItems items = .ok ()
  | [], _ => by simp only [passOverItems]
  | .mk position value :: items, hitems => by
      obtain ⟨hfirst, hlater⟩ := by
        simpa only [Toml.areRepresentable, Bool.and_eq_true] using hitems
      simp only [passOverItems, passOver_eq_ok position value hfirst,
        passOverItems_eq_ok items hlater]

theorem passOverGrown_eq_ok :
    (items : List Toml.Node) → Toml.areRepresentable items → passOverGrown items = .ok ()
  | [], _ => by simp only [passOverGrown]
  | .mk position value :: items, hitems => by
      obtain ⟨hlatest, hearlier⟩ := by
        simpa only [Toml.areRepresentable, Bool.and_eq_true] using hitems
      simp only [passOverGrown, passOver_eq_ok position value hlatest,
        passOverGrown_eq_ok items hearlier]

theorem passOverEntries_eq_ok :
    (entries : List Entry) → Toml.hasRepresentable entries → passOverEntries entries = .ok ()
  | [], _ => by simp only [passOverEntries]
  | .mk _ _ (.mk position value) :: entries, hentries => by
      obtain ⟨hfirst, hlater⟩ := by
        simpa only [Toml.hasRepresentable, Bool.and_eq_true] using hentries
      simp only [passOverEntries, passOver_eq_ok position value hfirst,
        passOverEntries_eq_ok entries hlater]

end

theorem passOver_node_eq_ok {node : Toml.Node} (hnode : node.value.isRepresentable) :
    passOver node = .ok () := by
  obtain ⟨position, value⟩ := node
  exact passOver_eq_ok position value hnode

theorem Toml.hasRepresentable_cons (entry : Entry) (entries : List Entry) :
    hasRepresentable (entry :: entries) ↔
      entry.node.value.isRepresentable ∧ hasRepresentable entries := by
  obtain ⟨key, keyPosition, position, value⟩ := entry
  rw [hasRepresentable, Bool.and_eq_true]
  rfl

theorem Toml.hasRepresentable_iff {entries : List Entry} :
    hasRepresentable entries ↔ ∀ entry ∈ entries, entry.node.value.isRepresentable := by
  induction entries with
  | nil => simp [hasRepresentable]
  | cons entry entries ih => rw [hasRepresentable_cons, ih, List.forall_mem_cons]

/-! ## Looking keys up -/

theorem Toml.lookup_eq_none {key : String} {entries : List Entry}
    (hne : ∀ entry ∈ entries, entry.key ≠ key) : lookup key entries = none := by
  induction entries with
  | nil => rfl
  | cons entry entries ih =>
      obtain ⟨hfirst, hlater⟩ := List.forall_mem_cons.mp hne
      rw [lookup, if_neg hfirst, ih hlater]

theorem Toml.lookup_eq_none_of_before {key : String} {entries : List Entry}
    (hbefore : ∀ entry ∈ entries, key < entry.key) : lookup key entries = none :=
  lookup_eq_none fun entry hentry heq =>
    String.lt_irrefl key (heq ▸ hbefore entry hentry)

/-- Entries in key order, with numbers that can all be represented. -/
structure Toml.Readable (entries : List Entry) : Prop where
  ascending : entries.Pairwise (·.key < ·.key)
  representable : Toml.hasRepresentable entries

section Fields

variable {α : Type} {fields order : List (Field α)} {entries : List Entry} {known : α}

/-- What a field learns from entries: it reads the value that its key is bound to, if there
is one. -/
def Field.readFrom (entries : List Entry) (known : α) (field : Field α) :
    Except ShapeError α :=
  match lookup field.key entries with
  | some node => field.read node known
  | none => .ok known

theorem foldlM_readFrom_of_absent
    (habsent : ∀ field ∈ fields, lookup field.key entries = none) :
    fields.foldlM (Field.readFrom entries) known = .ok known := by
  induction fields with
  | nil => rfl
  | cons field fields ih =>
      obtain ⟨hfirst, hlater⟩ := List.forall_mem_cons.mp habsent
      have hread : Field.readFrom entries known field = .ok known := by
        simp only [Field.readFrom, hfirst]
      rw [List.foldlM_cons, hread]
      exact ih hlater

theorem foldlM_readFrom_of_lookup {others : List Entry}
    (hlookup : ∀ field ∈ fields, lookup field.key entries = lookup field.key others) :
    fields.foldlM (Field.readFrom entries) known =
      fields.foldlM (Field.readFrom others) known := by
  induction fields generalizing known with
  | nil => rfl
  | cons field fields ih =>
      obtain ⟨hfirst, hlater⟩ := List.forall_mem_cons.mp hlookup
      have hread : Field.readFrom entries known field = Field.readFrom others known field := by
        simp only [Field.readFrom, hfirst]
      simp only [List.foldlM_cons, hread, ih hlater]

/-- The fields of a table, listed in the order of their keys. -/
structure Field.Listed (fields order : List (Field α)) : Prop where
  ascending : order.Pairwise (·.key < ·.key)
  perm : order.Perm fields

namespace Field.Listed

theorem find?_eq (hlisted : Listed fields order) {field : Field α} (hmem : field ∈ order) :
    fields.find? (·.key = field.key) = some field := by
  have hnodup : (order.map (·.key)).Nodup := by
    refine (List.pairwise_map.mpr hlisted.ascending).imp ?_
    rintro key other hlt rfl
    exact String.lt_irrefl key hlt
  obtain ⟨found, hfound⟩ : ∃ found, fields.find? (·.key = field.key) = some found := by
    rw [← Option.isSome_iff_exists, List.find?_isSome]
    exact ⟨field, hlisted.perm.mem_iff.mp hmem, by simp⟩
  have hkey : found.key = field.key := by simpa using List.find?_some hfound
  have hfoundMem := hlisted.perm.mem_iff.mpr (List.mem_of_find?_eq_some hfound)
  rw [hfound, List.inj_on_of_nodup_map hnodup hfoundMem hmem hkey]

theorem foldlM_cons_of_unknown (hlisted : Listed fields order) {entry : Entry}
    (hfind : fields.find? (·.key = entry.key) = none) :
    order.foldlM (readFrom (entry :: entries)) known =
      order.foldlM (readFrom entries) known := by
  refine foldlM_readFrom_of_lookup fun field hfield => ?_
  refine if_neg fun hkey => ?_
  rw [hkey, hlisted.find?_eq hfield] at hfind
  contradiction

/-- The first of entries in key order is read before the others.  The fields before its own
find nothing in any entry, and those after it find nothing in this one. -/
theorem foldlM_cons_of_known (hlisted : Listed fields order) {entry : Entry} {field : Field α}
    (hafter : ∀ later ∈ entries, entry.key < later.key)
    (hfind : fields.find? (·.key = entry.key) = some field) :
    order.foldlM (readFrom (entry :: entries)) known =
      field.read entry.node known >>= fun known => order.foldlM (readFrom entries) known := by
  have hkey : field.key = entry.key := by simpa using List.find?_some hfind
  have hmem := hlisted.perm.mem_iff.mpr (List.mem_of_find?_eq_some hfind)
  obtain ⟨before, after, rfl⟩ := List.append_of_mem hmem
  obtain ⟨-, hfrom, hbefore⟩ := List.pairwise_append.mp hlisted.ascending
  obtain ⟨hlater, -⟩ := List.pairwise_cons.mp hfrom
  replace hbefore : ∀ other ∈ before, other.key < entry.key := fun other hother =>
    hkey ▸ hbefore other hother field List.mem_cons_self
  have habsent : ∀ other ∈ before ++ [field], lookup other.key entries = none := by
    intro other hother
    refine Toml.lookup_eq_none_of_before fun next hnext => ?_
    rcases List.mem_append.mp hother with hother | hother
    · exact String.lt_trans (hbefore other hother) (hafter next hnext)
    · rw [List.mem_singleton.mp hother, hkey]
      exact hafter next hnext
  have hrest (known : α) : (before ++ field :: after).foldlM (readFrom entries) known =
      after.foldlM (readFrom entries) known := by
    rw [List.append_cons, List.foldlM_append, foldlM_readFrom_of_absent habsent]
    rfl
  have hnothing : ∀ other ∈ before, lookup other.key (entry :: entries) = none := by
    intro other hother
    refine Toml.lookup_eq_none_of_before (List.forall_mem_cons.mpr ⟨hbefore other hother, ?_⟩)
    exact fun next hnext => String.lt_trans (hbefore other hother) (hafter next hnext)
  have hsame : ∀ other ∈ after, lookup other.key (entry :: entries) = lookup other.key entries := by
    intro other hother
    refine if_neg fun heq => ?_
    have hlt := hlater other hother
    rw [hkey, heq] at hlt
    exact String.lt_irrefl _ hlt
  have hread : readFrom (entry :: entries) known field = field.read entry.node known := by
    simp only [readFrom, lookup, if_pos hkey.symm]
  calc (before ++ field :: after).foldlM (readFrom (entry :: entries)) known
      = (field :: after).foldlM (readFrom (entry :: entries)) known := by
        rw [List.foldlM_append, foldlM_readFrom_of_absent hnothing]
        rfl
    _ = field.read entry.node known >>= fun known => after.foldlM (readFrom entries) known := by
        simp only [List.foldlM_cons, hread, foldlM_readFrom_of_lookup hsame]
    _ = _ := by simp only [hrest]

/-- Reading entries in key order is looking the fields up in the order of their keys. -/
theorem readEntries_eq (hlisted : Listed fields order) (hentries : Toml.Readable entries) :
    readEntries fields known entries = order.foldlM (readFrom entries) known := by
  induction entries generalizing known with
  | nil => exact (foldlM_readFrom_of_absent fun _ _ => rfl).symm
  | cons entry entries ih =>
      obtain ⟨hafter, hrest⟩ := List.pairwise_cons.mp hentries.ascending
      obtain ⟨hvalue, hlater⟩ :=
        (Toml.hasRepresentable_cons entry entries).mp hentries.representable
      have hunfold : readEntries fields known (entry :: entries) =
          readEntry fields known entry >>= (readEntries fields · entries) := List.foldlM_cons
      simp only [hunfold, ih ⟨hrest, hlater⟩]
      cases hfind : fields.find? (·.key = entry.key) with
      | none =>
          rw [hlisted.foldlM_cons_of_unknown hfind]
          simp only [readEntry, hfind, passOver_node_eq_ok hvalue]
          rfl
      | some field =>
          rw [hlisted.foldlM_cons_of_known hafter hfind]
          simp only [readEntry, hfind]

end Field.Listed

end Fields

end AppLauncher
