import AppLauncher.Toml.Document

/-!
# Tables in key order

In every document that is read, the entries of each table are in the strict order of their
keys, however deep the table is nested and in whatever order its keys were written.
Binding a key keeps the order, and all tables are made by binding keys.
-/

namespace AppLauncher.Toml

/-! ## Everywhere in a value -/

/-- The values that a value is put together from. -/
def Value.parts : Value → List Node
  | .array items | .grown items => items
  | .table _ entries => entries.map (·.node)
  | _ => []

/-- A property of a value and of all that it is put together from. -/
inductive Value.Everywhere (p : Value → Prop) : Value → Prop where
  | intro {value : Value} (here : p value)
      (below : ∀ part ∈ value.parts, Everywhere p part.value) : Everywhere p value

/-- The entries of a table are in the strict order of their keys. -/
def Value.InKeyOrder : Value → Prop
  | .table _ entries => entries.Pairwise (·.key < ·.key)
  | _ => True

def Value.Ordered (value : Value) : Prop :=
  value.Everywhere InKeyOrder

/-- Entries in key order, with values in which all tables are. -/
structure Ordered (entries : List Entry) : Prop where
  ascending : entries.Pairwise (·.key < ·.key)
  values : ∀ entry ∈ entries, entry.node.value.Ordered

theorem Value.ordered_table_iff (origin : TableOrigin) (entries : List Entry) :
    (Value.table origin entries).Ordered ↔ Toml.Ordered entries := by
  constructor
  · rintro ⟨hascending, hbelow⟩
    exact ⟨hascending, fun entry hentry => hbelow _ (List.mem_map_of_mem hentry)⟩
  · rintro ⟨hascending, hvalues⟩
    refine .intro hascending fun part hpart => ?_
    obtain ⟨entry, hentry, rfl⟩ := List.mem_map.mp hpart
    exact hvalues entry hentry

theorem Value.ordered_array_iff (items : List Node) :
    (Value.array items).Ordered ↔ ∀ item ∈ items, item.value.Ordered :=
  ⟨fun ⟨_, hbelow⟩ => hbelow, fun hitems => .intro trivial hitems⟩

theorem Value.ordered_grown_iff (items : List Node) :
    (Value.grown items).Ordered ↔ ∀ item ∈ items, item.value.Ordered :=
  ⟨fun ⟨_, hbelow⟩ => hbelow, fun hitems => .intro trivial hitems⟩

theorem ordered_nil : Ordered [] :=
  ⟨.nil, by simp⟩

/-! ## Binding keys -/

theorem eq_or_mem_of_mem_insert {entry other : Entry} {entries : List Entry}
    (hmem : other ∈ insert entry entries) :
    other.key = entry.key ∧ other.node = entry.node ∨ other ∈ entries := by
  induction entries with
  | nil =>
      obtain rfl : other = entry := by simpa [insert] using hmem
      exact .inl ⟨rfl, rfl⟩
  | cons first rest ih =>
      simp only [insert] at hmem
      split at hmem
      next =>
        rcases List.mem_cons.mp hmem with rfl | hmem
        · exact .inl ⟨rfl, rfl⟩
        · exact .inr hmem
      next =>
        split at hmem
        next hkey =>
          rcases List.mem_cons.mp hmem with rfl | hmem
          · exact .inl ⟨hkey.symm, rfl⟩
          · exact .inr (List.mem_cons_of_mem first hmem)
        next =>
          rcases List.mem_cons.mp hmem with rfl | hmem
          · exact .inr List.mem_cons_self
          · exact (ih hmem).imp id (List.mem_cons_of_mem first)

theorem lt_of_not_lt {key other : String} (hnot : ¬key < other) (hne : key ≠ other) :
    other < key :=
  Decidable.byContradiction fun hother =>
    hne (String.le_antisymm (String.not_lt.mp hother) (String.not_lt.mp hnot))

theorem ascending_insert (entry : Entry) {entries : List Entry}
    (hascending : entries.Pairwise (·.key < ·.key)) :
    (insert entry entries).Pairwise (·.key < ·.key) := by
  induction entries with
  | nil => exact List.pairwise_singleton _ _
  | cons first rest ih =>
      obtain ⟨hfirst, hrest⟩ := List.pairwise_cons.mp hascending
      simp only [insert]
      split
      next hbefore =>
        refine List.pairwise_cons.mpr ⟨?_, hascending⟩
        intro other hother
        rcases List.mem_cons.mp hother with rfl | hother
        · exact hbefore
        · exact String.lt_trans hbefore (hfirst other hother)
      next hnotBefore =>
        split
        next hkey => exact List.pairwise_cons.mpr ⟨hfirst, hrest⟩
        next hkey =>
          refine List.pairwise_cons.mpr ⟨?_, ih hrest⟩
          intro other hother
          rcases eq_or_mem_of_mem_insert hother with ⟨hsame, -⟩ | hother
          · rw [hsame]
            exact lt_of_not_lt hnotBefore hkey
          · exact hfirst other hother

theorem ordered_insert {entry : Entry} {entries : List Entry}
    (hentry : entry.node.value.Ordered) (hentries : Ordered entries) :
    Ordered (insert entry entries) := by
  refine ⟨ascending_insert entry hentries.ascending, fun other hother => ?_⟩
  rcases eq_or_mem_of_mem_insert hother with ⟨-, hnode⟩ | hother
  · rwa [hnode]
  · exact hentries.values other hother

theorem ordered_erase (key : String) {entries : List Entry} (hentries : Ordered entries) :
    Ordered (erase key entries) :=
  ⟨hentries.ascending.filter _, fun entry hentry =>
    hentries.values entry (List.mem_filter.mp hentry).1⟩

theorem exists_mem_of_lookup {key : String} {entries : List Entry} {node : Node}
    (hlookup : lookup key entries = some node) :
    ∃ entry ∈ entries, entry.key = key ∧ entry.node = node := by
  induction entries with
  | nil => contradiction
  | cons first rest ih =>
      simp only [lookup] at hlookup
      split at hlookup
      next hkey => exact ⟨first, List.mem_cons_self, hkey, Option.some.inj hlookup⟩
      next =>
        obtain ⟨entry, hentry, hfound⟩ := ih hlookup
        exact ⟨entry, List.mem_cons_of_mem first hentry, hfound⟩

theorem Ordered.of_lookup {key : String} {entries : List Entry} {node : Node}
    (hentries : Ordered entries) (hlookup : lookup key entries = some node) :
    node.value.Ordered := by
  obtain ⟨entry, hentry, -, rfl⟩ := exists_mem_of_lookup hlookup
  exact hentries.values entry hentry

/-- A change below a path keeps the order if the change itself does. -/
theorem ordered_changeAt {byDots : Bool}
    {change : TableOrigin → List Entry → Option (List Entry)}
    (hchange : ∀ origin entries changed, Ordered entries →
      change origin entries = some changed → Ordered changed)
    {path : List Key} {origin : TableOrigin} {entries changed : List Entry}
    (hentries : Ordered entries)
    (hchanged : changeAt byDots change path origin entries = some changed) :
    Ordered changed := by
  induction path generalizing origin entries changed with
  | nil => exact hchange origin entries changed hentries hchanged
  | cons key path ih =>
      have hbound (place : Place) {value : Value} (hvalue : value.Ordered) :
          Ordered (insert (.mk key.name key.position (.mk place value)) entries) :=
        ordered_insert hvalue hentries
      simp only [changeAt] at hchanged
      split at hchanged
      next =>
        obtain ⟨inner, hinner, rfl⟩ := Option.map_eq_some_iff.mp hchanged
        exact hbound _ ((Value.ordered_table_iff _ inner).mpr (ih ordered_nil hinner))
      next position origin inner hlookup =>
        split at hchanged
        next => contradiction
        next =>
          have htable := (Value.ordered_table_iff _ inner).mp (hentries.of_lookup hlookup)
          obtain ⟨inner, hinner, rfl⟩ := Option.map_eq_some_iff.mp hchanged
          exact hbound _ ((Value.ordered_table_iff _ inner).mpr (ih htable hinner))
      next position itemPosition origin inner earlier hlookup =>
        have hitems := (Value.ordered_grown_iff _).mp (hentries.of_lookup hlookup)
        have htable := (Value.ordered_table_iff _ inner).mp (hitems _ List.mem_cons_self)
        obtain ⟨inner, hinner, rfl⟩ := Option.map_eq_some_iff.mp hchanged
        refine hbound _ ((Value.ordered_grown_iff _).mpr ?_)
        intro item hitem
        rcases List.mem_cons.mp hitem with rfl | hitem
        · exact (Value.ordered_table_iff _ inner).mpr (ih htable hinner)
        · exact hitems item (List.mem_cons_of_mem _ hitem)
      next => contradiction

theorem ordered_define {path : List Key} {key : Key} {node : Node}
    {entries changed : List Entry} (hnode : node.value.Ordered) (hentries : Ordered entries)
    (hchanged : define path key node entries = some changed) : Ordered changed := by
  refine ordered_changeAt (fun origin entries changed hentries hchanged => ?_) hentries hchanged
  split at hchanged
  next => contradiction
  next =>
    split at hchanged
    next => contradiction
    next =>
      rw [← Option.some.inj hchanged]
      exact ordered_insert hnode hentries

theorem ordered_foldlM {ι : Type} {step : List Entry → ι → Option (List Entry)}
    {items : List ι} {entries changed : List Entry}
    (hstep : ∀ item ∈ items, ∀ {entries changed}, Ordered entries →
      step entries item = some changed → Ordered changed)
    (hentries : Ordered entries) (hchanged : items.foldlM step entries = some changed) :
    Ordered changed := by
  induction items generalizing entries with
  | nil =>
      obtain rfl : entries = changed := Option.some.inj hchanged
      exact hentries
  | cons item items ih =>
      obtain ⟨hfirst, hlater⟩ := List.forall_mem_cons.mp hstep
      rw [List.foldlM_cons] at hchanged
      obtain ⟨middle, hmiddle, hchanged⟩ := Option.bind_eq_some_iff.mp hchanged
      exact ih hlater (hfirst hentries hmiddle) hchanged

theorem ordered_defineAll {assignments : List Assignment} {entries changed : List Entry}
    (hassignments : ∀ a ∈ assignments, a.node.value.Ordered) (hentries : Ordered entries)
    (hchanged : defineAll assignments entries = some changed) : Ordered changed :=
  ordered_foldlM (fun a ha _ _ => ordered_define (hassignments a ha)) hentries hchanged

/-! ## Reading values -/

/-- A reader that gives values in which all tables are in key order. -/
def ReadsOrdered (item : Reader Node) : Prop :=
  ∀ {text node rest}, item text = some (node, rest) → node.value.Ordered

theorem ordered_of_scalar? {text : List Char} {value : Value}
    (hvalue : scalar? text = some value) : value.Ordered := by
  have hleaf : value.InKeyOrder ∧ value.parts = [] := by
    unfold scalar? at hvalue
    split at hvalue
    next => simp [← Option.some.inj hvalue, Value.InKeyOrder, Value.parts]
    next =>
      split at hvalue
      next => simp [← Option.some.inj hvalue, Value.InKeyOrder, Value.parts]
      next =>
        split at hvalue
        next => simp [← Option.some.inj hvalue, Value.InKeyOrder, Value.parts]
        next =>
          split at hvalue
          next => simp [← Option.some.inj hvalue, Value.InKeyOrder, Value.parts]
          next =>
            obtain ⟨literal, -, rfl⟩ := Option.map_eq_some_iff.mp hvalue
            exact ⟨trivial, rfl⟩
  exact .intro hleaf.1 (by simp [hleaf.2])

theorem ordered_of_readScalar {text rest : List Char} {value : Value}
    (hread : readScalar text = some (value, rest)) : value.Ordered := by
  have hscalar : ∃ word, scalar? word = some value := by
    unfold readScalar at hread
    simp only at hread
    split at hread
    next =>
      split at hread
      next =>
        obtain ⟨found, hfound, heq⟩ := Option.map_eq_some_iff.mp hread
        exact ⟨_, by rw [hfound, (Prod.mk.inj heq).1]⟩
      next =>
        obtain ⟨found, hfound, heq⟩ := Option.map_eq_some_iff.mp hread
        exact ⟨_, by rw [hfound, (Prod.mk.inj heq).1]⟩
    next =>
      obtain ⟨found, hfound, heq⟩ := Option.map_eq_some_iff.mp hread
      exact ⟨_, by rw [hfound, (Prod.mk.inj heq).1]⟩
  obtain ⟨word, hword⟩ := hscalar
  exact ordered_of_scalar? hword

theorem ordered_of_readItems {item : Reader Node} (hitem : ReadsOrdered item) {fuel : Nat}
    {text rest : List Char} {nodes : List Node}
    (hread : readItems item fuel text = some (nodes, rest)) :
    ∀ node ∈ nodes, node.value.Ordered := by
  induction fuel generalizing text nodes rest with
  | zero => contradiction
  | succ fuel ih =>
      simp only [readItems] at hread
      split at hread
      next =>
        obtain ⟨rfl, -⟩ := Prod.mk.inj (Option.some.inj hread)
        simp
      next =>
        split at hread
        next => contradiction
        next node _ hnode =>
          have hfirst := hitem hnode
          split at hread
          next =>
            obtain ⟨⟨later, _⟩, hlater, heq⟩ := Option.map_eq_some_iff.mp hread
            obtain ⟨rfl, -⟩ := Prod.mk.inj heq
            exact List.forall_mem_cons.mpr ⟨hfirst, ih hlater⟩
          next =>
            obtain ⟨rfl, -⟩ := Prod.mk.inj (Option.some.inj hread)
            exact List.forall_mem_cons.mpr ⟨hfirst, by simp⟩
          next => contradiction

theorem ordered_of_readAssignment {skip : List Char → List Char} {item : Reader Node}
    (hitem : ReadsOrdered item) {text rest : List Char} {assignment : Assignment}
    (hread : readAssignment skip item text = some (assignment, rest)) :
    assignment.node.value.Ordered := by
  unfold readAssignment at hread
  split at hread
  next => contradiction
  next =>
    split at hread
    next =>
      obtain ⟨⟨node, _⟩, hnode, heq⟩ := Option.map_eq_some_iff.mp hread
      obtain ⟨rfl, -⟩ := Prod.mk.inj heq
      exact hitem hnode
    next => contradiction

theorem ordered_of_readAssignments {item : Reader Node} (hitem : ReadsOrdered item)
    {fuel : Nat} {text rest : List Char} {assignments : List Assignment}
    (hread : readAssignments item fuel text = some (assignments, rest)) :
    ∀ a ∈ assignments, a.node.value.Ordered := by
  induction fuel generalizing text assignments rest with
  | zero => contradiction
  | succ fuel ih =>
      simp only [readAssignments] at hread
      split at hread
      next =>
        obtain ⟨rfl, -⟩ := Prod.mk.inj (Option.some.inj hread)
        simp
      next =>
        split at hread
        next => contradiction
        next assignment _ hassignment =>
          have hfirst := ordered_of_readAssignment hitem hassignment
          split at hread
          next =>
            obtain ⟨⟨later, _⟩, hlater, heq⟩ := Option.map_eq_some_iff.mp hread
            obtain ⟨rfl, -⟩ := Prod.mk.inj heq
            exact List.forall_mem_cons.mpr ⟨hfirst, ih hlater⟩
          next =>
            obtain ⟨rfl, -⟩ := Prod.mk.inj (Option.some.inj hread)
            exact List.forall_mem_cons.mpr ⟨hfirst, by simp⟩
          next => contradiction

/-- Whatever value is read, its tables are in key order. -/
theorem readsOrdered_readNode (size depth : Nat) : ReadsOrdered (readNode size depth) := by
  induction depth using Nat.strongRecOn with
  | ind depth ih =>
      have hstring {place text : List Char} {node : Node} {rest : List Char}
          (hread : (Quoted.read text).map
            (fun found => (Node.mk place (.string (String.ofList found.1)), found.2)) =
              some (node, rest)) : node.value.Ordered := by
        obtain ⟨_, -, heq⟩ := Option.map_eq_some_iff.mp hread
        obtain ⟨rfl, -⟩ := Prod.mk.inj heq
        exact .intro trivial (by simp [Value.parts, Node.value])
      intro text node rest hread
      unfold readNode at hread
      simp only at hread
      split at hread
      next => exact hstring hread
      next => exact hstring hread
      next =>
        split at hread
        next => contradiction
        next depth =>
          obtain ⟨⟨items, _⟩, hitems, heq⟩ := Option.map_eq_some_iff.mp hread
          obtain ⟨rfl, -⟩ := Prod.mk.inj heq
          exact (Value.ordered_array_iff items).mpr
            (ordered_of_readItems (ih depth (Nat.lt_succ_self depth)) hitems)
      next =>
        split at hread
        next => contradiction
        next depth =>
          split at hread
          next => contradiction
          next assignments _ hassignments =>
            obtain ⟨entries, hentries, heq⟩ := Option.map_eq_some_iff.mp hread
            obtain ⟨rfl, -⟩ := Prod.mk.inj heq
            have hnodes := ordered_of_readAssignments (ih depth (Nat.lt_succ_self depth))
              hassignments
            exact (Value.ordered_table_iff _ entries).mpr
              (ordered_defineAll hnodes ordered_nil hentries)
      next =>
        obtain ⟨⟨value, _⟩, hvalue, heq⟩ := Option.map_eq_some_iff.mp hread
        obtain ⟨rfl, -⟩ := Prod.mk.inj heq
        exact ordered_of_readScalar hvalue

/-! ## Reading documents -/

/-- A statement that binds a value in which all tables are in key order, or none. -/
def Statement.Ordered : Statement → Prop
  | .header _ => True
  | .assign assignment => assignment.node.value.Ordered

theorem ordered_of_readStatement {size : Nat} {text rest : List Char} {statement : Statement}
    (hread : readStatement size text = some (statement, rest)) : statement.Ordered := by
  unfold readStatement at hread
  split at hread
  next =>
    obtain ⟨_, -, heq⟩ := Option.map_eq_some_iff.mp hread
    obtain ⟨rfl, -⟩ := Prod.mk.inj heq
    trivial
  next =>
    obtain ⟨⟨assignment, _⟩, hassignment, heq⟩ := Option.map_eq_some_iff.mp hread
    obtain ⟨rfl, -⟩ := Prod.mk.inj heq
    exact ordered_of_readAssignment (readsOrdered_readNode size nestingLimit) hassignment

theorem ordered_of_readStatements {size fuel : Nat} {text : List Char}
    {statements : List Statement}
    (hread : readStatements size fuel text = some statements) :
    ∀ statement ∈ statements, statement.Ordered := by
  induction fuel generalizing text statements with
  | zero => contradiction
  | succ fuel ih =>
      simp only [readStatements] at hread
      split at hread
      next => simp [← Option.some.inj hread]
      next =>
        split at hread
        next => contradiction
        next statement _ hstatement =>
          have hfirst := ordered_of_readStatement hstatement
          split at hread
          next =>
            rw [← Option.some.inj hread]
            exact List.forall_mem_cons.mpr ⟨hfirst, by simp⟩
          next =>
            split at hread
            next => contradiction
            next =>
              obtain ⟨later, hlater, rfl⟩ := Option.map_eq_some_iff.mp hread
              exact List.forall_mem_cons.mpr ⟨hfirst, ih hlater⟩

theorem ordered_sections {statements : List Statement}
    (hstatements : ∀ statement ∈ statements, statement.Ordered) :
    (∀ a ∈ (sections statements).1, a.node.value.Ordered) ∧
      ∀ part ∈ (sections statements).2, ∀ a ∈ part.assignments, a.node.value.Ordered := by
  induction statements with
  | nil => simp [sections]
  | cons statement statements ih =>
      obtain ⟨hfirst, hlater⟩ := List.forall_mem_cons.mp hstatements
      obtain ⟨hassignments, hsections⟩ := ih hlater
      cases statement with
      | header header =>
          exact ⟨by simp [sections], List.forall_mem_cons.mpr ⟨hassignments, hsections⟩⟩
      | assign assignment =>
          exact ⟨List.forall_mem_cons.mpr ⟨hfirst, hassignments⟩, hsections⟩

theorem ordered_openTable {header : Header} {assignments : List Assignment}
    {entries changed : List Entry} (hassignments : ∀ a ∈ assignments, a.node.value.Ordered)
    (hentries : Ordered entries)
    (hchanged : openTable header assignments entries = some changed) : Ordered changed := by
  have hopened {inner : List Entry} (hinner : Ordered inner) :
      Ordered (insert (.mk header.key.name header.key.position
        (.mk header.position (.table .header inner))) (erase header.key.name entries)) :=
    ordered_insert ((Value.ordered_table_iff _ inner).mpr hinner) (ordered_erase _ hentries)
  unfold openTable at hchanged
  simp only at hchanged
  split at hchanged
  next =>
    obtain ⟨inner, hinner, rfl⟩ := Option.map_eq_some_iff.mp hchanged
    exact hopened (ordered_defineAll hassignments ordered_nil hinner)
  next hlookup =>
    have hthere := (Value.ordered_table_iff _ _).mp (hentries.of_lookup hlookup)
    obtain ⟨inner, hinner, rfl⟩ := Option.map_eq_some_iff.mp hchanged
    exact hopened (ordered_defineAll hassignments hthere hinner)
  next => contradiction

theorem ordered_growArray {header : Header} {assignments : List Assignment}
    {entries changed : List Entry} (hassignments : ∀ a ∈ assignments, a.node.value.Ordered)
    (hentries : Ordered entries)
    (hchanged : growArray header assignments entries = some changed) : Ordered changed := by
  have hbound {place : Place} {items : List Node}
      (hitems : ∀ item ∈ items, item.value.Ordered) :
      Ordered (insert (.mk header.key.name header.key.position (.mk place (.grown items)))
        entries) :=
    ordered_insert ((Value.ordered_grown_iff items).mpr hitems) hentries
  unfold growArray at hchanged
  obtain ⟨inner, hinner, hchanged⟩ := Option.bind_eq_some_iff.mp hchanged
  have hitem : (Value.table .header inner).Ordered :=
    (Value.ordered_table_iff _ inner).mpr (ordered_defineAll hassignments ordered_nil hinner)
  simp only at hchanged
  split at hchanged
  next =>
    rw [← Option.some.inj hchanged]
    exact hbound (List.forall_mem_singleton.mpr hitem)
  next hlookup =>
    have hearlier := (Value.ordered_grown_iff _).mp (hentries.of_lookup hlookup)
    rw [← Option.some.inj hchanged]
    exact hbound (List.forall_mem_cons.mpr ⟨hitem, hearlier⟩)
  next => contradiction

theorem ordered_addSection {part : Section} {entries changed : List Entry}
    (hpart : ∀ a ∈ part.assignments, a.node.value.Ordered) (hentries : Ordered entries)
    (hchanged : addSection entries part = some changed) : Ordered changed := by
  refine ordered_changeAt (fun _ _ _ hentries hchanged => ?_) hentries hchanged
  split at hchanged
  next => exact ordered_growArray hpart hentries hchanged
  next => exact ordered_openTable hpart hentries hchanged

theorem ordered_of_parse? {text : List Char} {entries : List Entry}
    (hparse : parse? text = some entries) : Ordered entries := by
  obtain ⟨statements, hread, hassemble⟩ := Option.bind_eq_some_iff.mp hparse
  obtain ⟨hassignments, hsections⟩ := ordered_sections (ordered_of_readStatements hread)
  obtain ⟨first, hfirst, hlater⟩ := Option.bind_eq_some_iff.mp hassemble
  exact ordered_foldlM (fun part hpart _ _ => ordered_addSection (hsections part hpart))
    (ordered_defineAll hassignments ordered_nil hfirst) hlater

end AppLauncher.Toml
