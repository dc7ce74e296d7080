import AppLauncher.Toml.Document
import Mathlib.Data.List.Nodup

/-!
# Tables with new keys

Binding a key puts its entry in its place and leaves what other keys are bound to.
So a section whose keys are free and differ from each other is always accepted, and
its table holds the entries of its assignments in the order of their keys.
-/

namespace AppLauncher.Toml

/-! ## Entries in order -/

@[simp] theorem insert_nil (entry : Entry) : insert entry [] = [entry] := rfl

@[simp] theorem lookup_nil (key : String) : lookup key [] = none := rfl

section Entries

variable {key other : String} (position place : Place) (node bound : Node)
  (entries : List Entry)

theorem lookup_cons_of_ne (hne : other ≠ key) :
    lookup key (.mk other place bound :: entries) = lookup key entries :=
  if_neg hne

theorem insert_of_lt (horder : key < other) :
    insert (.mk key position node) (.mk other place bound :: entries) =
      .mk key position node :: .mk other place bound :: entries :=
  if_pos horder

theorem insert_of_eq :
    insert (.mk key position node) (.mk key place bound :: entries) =
      .mk key place node :: entries := by
  rw [insert, if_neg, if_pos]
  · rfl
  · rfl
  · exact String.lt_irrefl key

theorem insert_of_not_lt (horder : ¬key < other) (hne : key ≠ other) :
    insert (.mk key position node) (.mk other place bound :: entries) =
      .mk other place bound :: insert (.mk key position node) entries := by
  rw [insert, if_neg, if_neg]
  · exact hne
  · exact horder

theorem lookup_insert_of_ne (hne : key ≠ other) :
    lookup other (insert (.mk key position node) entries) = lookup other entries := by
  induction entries with
  | nil => rw [insert_nil, lookup_cons_of_ne _ _ _ hne]
  | cons entry entries ih =>
      obtain ⟨first, place, bound⟩ := entry
      by_cases horder : key < first
      · rw [insert_of_lt _ _ _ _ _ horder, lookup_cons_of_ne _ _ _ hne]
      · by_cases hkey : key = first
        · subst hkey
          rw [insert_of_eq, lookup_cons_of_ne _ _ _ hne, lookup_cons_of_ne _ _ _ hne]
        · rw [insert_of_not_lt _ _ _ _ _ horder hkey, lookup, lookup, ih]

theorem erase_of_lookup_eq_none (hnew : lookup key entries = none) :
    erase key entries = entries := by
  induction entries with
  | nil => rfl
  | cons entry entries ih =>
      rw [lookup] at hnew
      split at hnew
      next => contradiction
      next hkey =>
        have hkept := ih hnew
        simp only [erase] at hkept ⊢
        simp [hkey, hkept]

end Entries

/-! ## Sections -/

theorem define_of_new (key : Key) (node : Node) {entries : List Entry}
    (hnew : lookup key.name entries = none) :
    define [] key node entries = some (insert (.mk key.name key.position node) entries) := by
  simp [define, changeAt, hnew]

theorem defineAll_of_new {assignments : List Assignment} {entries : List Entry}
    (hpath : ∀ a ∈ assignments, a.path = [])
    (hnew : ∀ a ∈ assignments, lookup a.key.name entries = none)
    (hdistinct : (assignments.map (·.key.name)).Nodup) :
    defineAll assignments entries =
      some (assignments.foldl
        (fun entries a => insert (.mk a.key.name a.key.position a.node) entries) entries) := by
  induction assignments generalizing entries with
  | nil => rfl
  | cons assignment assignments ih =>
      obtain ⟨path, key, node⟩ := assignment
      obtain rfl : path = [] := hpath _ List.mem_cons_self
      rw [List.map_cons, List.nodup_cons] at hdistinct
      have hbound : define [] key node entries =
          some (insert (.mk key.name key.position node) entries) :=
        define_of_new key node (hnew _ List.mem_cons_self)
      have hfree : ∀ a ∈ assignments,
          lookup a.key.name (insert (.mk key.name key.position node) entries) = none := by
        intro a ha
        have hne : key.name ≠ a.key.name := by
          intro heq
          exact hdistinct.1 (heq ▸ List.mem_map_of_mem ha)
        rw [lookup_insert_of_ne _ _ _ hne]
        exact hnew a (List.mem_cons_of_mem _ ha)
      have hrest := ih (fun a ha => hpath a (List.mem_cons_of_mem _ ha)) hfree hdistinct.2
      simpa [defineAll, hbound] using hrest

/-- A header of a name that is free opens a table with the assignments below it. -/
theorem addSection_of_new {name : String} {keyPosition position : Place}
    {assignments : List Assignment} {inner entries : List Entry}
    (hinner : defineAll assignments [] = some inner) (hnew : lookup name entries = none) :
    addSection entries ⟨⟨position, false, [], ⟨name, keyPosition⟩⟩, assignments⟩ =
      some (insert (.mk name keyPosition (.mk position (.table .header inner))) entries) := by
  simp [addSection, changeAt, openTable, hinner, hnew, erase_of_lookup_eq_none _ hnew]

end AppLauncher.Toml
