import AppLauncher.Proofs.Arguments.CVector

/-!
# Assembled vectors in C

A vector is its name and what its parts contribute, in their order.  As long as a C int can
count its arguments, it has a C form exactly when none of them holds a NUL byte; the form
has a pointer for each argument, one null pointer behind them, and every string ends where
its argument does.  Otherwise the error names the first argument that holds one.
-/

namespace AppLauncher

open Bytes (nul)

namespace CVector

/-- The C form of some arguments: each of them can be read at its own pointer, up to a NUL
byte that is there, and the last pointer alone is null. -/
structure Encodes (vector : CVector) (arguments : List Bytes) : Prop where
  count : vector.count = arguments.length
  length : vector.pointers.length = arguments.length + 1
  null : ∀ index : Nat, vector.pointers[index]? = some none ↔ index = arguments.length
  strings : ∀ (index : Nat) argument, arguments[index]? = some argument →
    ∃ offset, vector.pointers[index]? = some (some offset) ∧
      vector.stringAt offset = argument ∧
      vector.memory[offset + argument.length]? = some nul

/-- The first argument that holds a NUL byte is the one at an index. -/
structure FirstNul (arguments : List Bytes) (index : Nat) : Prop where
  holds : ∃ argument, arguments[index]? = some argument ∧ nul ∈ argument
  earlier : ∀ argument ∈ arguments.take index, nul ∉ argument

/-! ## The layout -/

theorem getElem?_memory_of_offsets {memory : Array UInt8} {front : Bytes}
    {arguments : List Bytes} {index offset : Nat} {argument : Bytes}
    (hmemory : memory.toList = front ++ arguments.flatMap (· ++ [nul]))
    (hoffset : (offsets front.length arguments)[index]? = some offset)
    (hargument : arguments[index]? = some argument) :
    memory[offset + argument.length]? = some nul := by
  induction arguments generalizing front index with
  | nil => simp at hargument
  | cons first later ih =>
      cases index with
      | zero =>
          obtain rfl : front.length = offset := by simpa [offsets] using hoffset
          obtain rfl : first = argument := by simpa using hargument
          have hsplit : memory.toList =
              (front ++ first) ++ nul :: later.flatMap (· ++ [nul]) := by
            simpa using hmemory
          rw [← Array.getElem?_toList, hsplit, ← List.length_append,
            List.getElem?_append_right (Nat.le_refl _), Nat.sub_self]
          rfl
      | succ index =>
          have hlater : memory.toList =
              (front ++ first ++ [nul]) ++ later.flatMap (· ++ [nul]) := by
            simpa using hmemory
          have hstart : (front ++ first ++ [nul]).length = front.length + first.length + 1 := by
            simp [Nat.add_assoc]
          rw [offsets, List.getElem?_cons_succ, ← hstart] at hoffset
          rw [List.getElem?_cons_succ] at hargument
          exact ih hlater hoffset hargument

theorem layOut_encodes {arguments : List Bytes}
    (hfree : ∀ argument ∈ arguments, nul ∉ argument) :
    (layOut arguments).Encodes arguments where
  count := (layOut_carries hfree).count
  length := by simp [layOut, length_offsets]
  null index := by
    have hlength : ((offsets 0 arguments).map some).length = arguments.length := by
      rw [List.length_map, length_offsets]
    simp only [layOut]
    by_cases hindex : index < arguments.length
    · rw [List.getElem?_append_left (by omega), List.getElem?_map]
      simp [Nat.ne_of_lt hindex]
    · rw [List.getElem?_append_right (by omega), hlength, List.getElem?_singleton]
      by_cases hlast : index = arguments.length
      · simp [hlast]
      · rw [if_neg (by omega)]
        simp [hlast]
  strings index argument hargument := by
    have hread : (offsets 0 arguments).map (bytesUpToNul (layOut arguments).memory) =
        arguments :=
      @map_bytesUpToNul_offsets (layOut arguments).memory [] arguments rfl hfree
    have hstring := hargument
    rw [← hread, List.getElem?_map, Option.map_eq_some_iff] at hstring
    obtain ⟨offset, hoffset, hstring⟩ := hstring
    refine ⟨offset, ?_, hstring, ?_⟩
    · have hbound : index < ((offsets 0 arguments).map some).length := by
        rw [List.length_map]
        exact (List.getElem?_eq_some_iff.mp hoffset).1
      simp only [layOut]
      rw [List.getElem?_append_left hbound, List.getElem?_map, hoffset]
      rfl
    · exact @getElem?_memory_of_offsets (layOut arguments).memory [] arguments index offset
        argument rfl hoffset hargument

/-! ## The first NUL byte -/

theorem firstNul?_eq_some_iff {arguments : List Bytes} {index : Nat} :
    firstNul? arguments = some index ↔ FirstNul arguments index := by
  unfold firstNul?
  rw [List.findIdx?_eq_some_iff_getElem]
  constructor
  · rintro ⟨hbound, hnul, hearlier⟩
    refine ⟨⟨arguments[index], List.getElem?_eq_getElem hbound,
      (Bytes.hasNul_iff _).mp hnul⟩, fun argument hargument => ?_⟩
    obtain ⟨earlier, hlt, rfl⟩ := List.mem_take_iff_getElem.mp hargument
    exact (Bytes.hasNul_eq_false_iff _).mp
      (Bool.eq_false_iff.mpr (hearlier earlier (by omega)))
  · rintro ⟨⟨argument, hargument, hnul⟩, hearlier⟩
    obtain ⟨hbound, rfl⟩ := List.getElem?_eq_some_iff.mp hargument
    refine ⟨hbound, (Bytes.hasNul_iff _).mpr hnul, fun earlier hlt hnul => ?_⟩
    refine hearlier _ (List.mem_take_iff_getElem.mpr ⟨earlier, by omega, rfl⟩) ?_
    exact (Bytes.hasNul_iff _).mp hnul

theorem free_or_firstNul (arguments : List Bytes) :
    (∀ argument ∈ arguments, nul ∉ argument) ∨ ∃ index, FirstNul arguments index := by
  cases hfirst : firstNul? arguments with
  | none => exact .inl ((firstNul?_eq_none_iff arguments).mp hfirst)
  | some index => exact .inr ⟨index, firstNul?_eq_some_iff.mp hfirst⟩

/-- Arguments put in front that hold no NUL byte move the first one along. -/
theorem FirstNul.append_left {arguments : List Bytes} {index : Nat} {front : List Bytes}
    (hfirst : FirstNul arguments index) (hfront : ∀ argument ∈ front, nul ∉ argument) :
    FirstNul (front ++ arguments) (front.length + index) := by
  obtain ⟨⟨argument, hargument, hnul⟩, hearlier⟩ := hfirst
  refine ⟨⟨argument, ?_, hnul⟩, ?_⟩
  · rwa [List.getElem?_append_right (Nat.le_add_right _ _), Nat.add_sub_cancel_left]
  · rw [List.take_length_add_append]
    intro other hother
    rcases List.mem_append.mp hother with hother | hother
    · exact hfront other hother
    · exact hearlier other hother

theorem FirstNul.append_right {arguments : List Bytes} {index : Nat} (back : List Bytes)
    (hfirst : FirstNul arguments index) : FirstNul (arguments ++ back) index := by
  obtain ⟨⟨argument, hargument, hnul⟩, hearlier⟩ := hfirst
  obtain ⟨hbound, -⟩ := List.getElem?_eq_some_iff.mp hargument
  refine ⟨⟨argument, ?_, hnul⟩, ?_⟩
  · rwa [List.getElem?_append_left hbound]
  · rwa [List.take_append_of_le_length (Nat.le_of_lt hbound)]

theorem FirstNul.tail {first : Bytes} {later : List Bytes} {index : Nat}
    (hfirst : FirstNul (first :: later) (index + 1)) : nul ∉ first ∧ FirstNul later index := by
  obtain ⟨⟨argument, hargument, hnul⟩, hearlier⟩ := hfirst
  rw [List.take_succ_cons, List.forall_mem_cons] at hearlier
  exact ⟨hearlier.1, ⟨argument, hargument, hnul⟩, hearlier.2⟩

end CVector

namespace ArgumentVector

open CVector

/-! ## Building a vector -/

/-- What a part adds to a vector: all options of a set, and of a caller's arguments all
but the first. -/
def Part.arguments : Part → List Bytes
  | .options set => set.options
  | .caller arguments => arguments.tail

theorem toList_append (vector : ArgumentVector) (part : Part) :
    (vector.append part).toList = vector.toList ++ part.arguments := by
  cases part <;> rfl

theorem toList_foldl_append (vector : ArgumentVector) (parts : List Part) :
    (parts.foldl append vector).toList = vector.toList ++ parts.flatMap Part.arguments := by
  induction parts generalizing vector with
  | nil => simp
  | cons part parts ih =>
      rw [List.foldl_cons, ih, toList_append, List.flatMap_cons, List.append_assoc]

theorem compose_eq_assemble (caller : List Bytes) (options : OptionSet) :
    compose caller options =
      assemble (caller.headD []) [.options options, .caller caller] :=
  rfl

/-! ## Its C form -/

theorem toCVector_eq {vector : ArgumentVector} (hcount : vector.count < Nat.pow 2 31) :
    vector.toCVector =
      match firstNul? vector.toList with
      | some index => .error (.interiorNul index)
      | none => .ok (layOut vector.toList) := by
  have hgreatest : greatestCount + 1 = Nat.pow 2 31 := rfl
  unfold count at hcount
  unfold toCVector ofList
  exact if_neg (by omega)

theorem toCVector_of_firstNul {vector : ArgumentVector} {index : Nat}
    (hcount : vector.count < Nat.pow 2 31) (hfirst : FirstNul vector.toList index) :
    vector.toCVector = .error (.interiorNul index) := by
  rw [toCVector_eq hcount, firstNul?_eq_some_iff.mpr hfirst]

theorem toCVector_of_free {vector : ArgumentVector} (hcount : vector.count < Nat.pow 2 31)
    (hfree : ∀ argument ∈ vector.toList, nul ∉ argument) :
    vector.toCVector = .ok (layOut vector.toList) := by
  rw [toCVector_eq hcount, (firstNul?_eq_none_iff _).mpr hfree]

theorem exists_toCVector_eq_ok_iff {vector : ArgumentVector}
    (hcount : vector.count < Nat.pow 2 31) :
    (∃ c, vector.toCVector = .ok c) ↔ ∀ argument ∈ vector.toList, nul ∉ argument := by
  constructor
  · rintro ⟨c, hc⟩
    rcases free_or_firstNul vector.toList with hfree | ⟨index, hfirst⟩
    · exact hfree
    · rw [toCVector_of_firstNul hcount hfirst] at hc
      contradiction
  · intro hfree
    exact ⟨_, toCVector_of_free hcount hfree⟩

theorem encodes_of_toCVector {vector : ArgumentVector} {c : CVector}
    (hcount : vector.count < Nat.pow 2 31) (hc : vector.toCVector = .ok c) :
    c.Encodes vector.toList := by
  have hfree := (exists_toCVector_eq_ok_iff hcount).mp ⟨c, hc⟩
  rw [toCVector_of_free hcount hfree] at hc
  rw [← Except.ok.inj hc]
  exact layOut_encodes hfree

theorem exists_firstNul_of_toCVector {vector : ArgumentVector} {error : ArgumentError}
    (hcount : vector.count < Nat.pow 2 31) (herror : vector.toCVector = .error error) :
    ∃ index, error = .interiorNul index ∧ FirstNul vector.toList index := by
  rcases free_or_firstNul vector.toList with hfree | ⟨index, hfirst⟩
  · rw [toCVector_of_free hcount hfree] at herror
    contradiction
  · rw [toCVector_of_firstNul hcount hfirst] at herror
    exact ⟨index, (Except.error.inj herror).symm, hfirst⟩

/-! ## Composed vectors -/

section Compose

variable {caller : List Bytes} {options : OptionSet} {index : Nat}

theorem firstNul_compose_of_option (hname : nul ∉ caller.headD [])
    (hoption : FirstNul options.options index) :
    FirstNul (compose caller options).toList (1 + index) := by
  have hvector : (compose caller options).toList =
      [caller.headD []] ++ (options.options ++ caller.tail) := toList_compose caller options
  rw [hvector]
  exact (hoption.append_right caller.tail).append_left (by simpa using hname)

/-- The caller's first argument is the name, and the options stand between it and the
others. -/
theorem firstNul_compose_of_caller (hindex : 1 ≤ index)
    (hoptions : ∀ option ∈ options.options, nul ∉ option) (hcaller : FirstNul caller index) :
    FirstNul (compose caller options).toList (options.size + index) := by
  cases caller with
  | nil =>
      obtain ⟨argument, hargument, -⟩ := hcaller.holds
      simp at hargument
  | cons first later =>
      obtain ⟨behind, rfl⟩ := Nat.exists_eq_add_of_le hindex
      rw [Nat.add_comm 1 behind] at hcaller
      obtain ⟨hname, hlater⟩ := hcaller.tail
      have hvector : (compose (first :: later) options).toList =
          (first :: options.options) ++ later := toList_compose (first :: later) options
      have hposition : options.size + (1 + behind) =
          (first :: options.options).length + behind := by
        rw [OptionSet.size, List.length_cons]
        omega
      rw [hvector, hposition]
      exact hlater.append_left (List.forall_mem_cons.mpr ⟨hname, hoptions⟩)

end Compose

/-- A vector is its name and the contributions of its parts.  As long as a C int can count
the arguments, it has a C form exactly when none of them holds a NUL byte; the form encodes
them all, and the error names the first that holds one.  In a composed vector that is
found behind the name for an option, and behind the name and the options for an argument
of the caller. -/
theorem assemble_toCVector (name : Bytes) (parts : List Part) :
    (assemble name parts).toList = name :: parts.flatMap Part.arguments ∧
    ((assemble name parts).count < Nat.pow 2 31 →
      ((∃ c, (assemble name parts).toCVector = .ok c) ↔
        ∀ argument ∈ (assemble name parts).toList, nul ∉ argument) ∧
      (∀ c, (assemble name parts).toCVector = .ok c →
        c.Encodes (assemble name parts).toList) ∧
      ∀ error, (assemble name parts).toCVector = .error error →
        ∃ index, error = .interiorNul index ∧ FirstNul (assemble name parts).toList index) ∧
    ∀ (caller : List Bytes) (options : OptionSet),
      compose caller options = assemble (caller.headD []) [.options options, .caller caller] ∧
      ((compose caller options).count < Nat.pow 2 31 →
        (∀ index, nul ∉ caller.headD [] → FirstNul options.options index →
          (compose caller options).toCVector = .error (.interiorNul (1 + index))) ∧
        ∀ index, 1 ≤ index → (∀ option ∈ options.options, nul ∉ option) →
          FirstNul caller index →
          (compose caller options).toCVector =
            .error (.interiorNul (options.size + index))) := by
  refine ⟨toList_foldl_append (ofName name) parts, fun hcount => ?_, fun caller options =>
    ⟨compose_eq_assemble caller options, fun hcount => ⟨?_, ?_⟩⟩⟩
  · exact ⟨exists_toCVector_eq_ok_iff hcount, fun _ => encodes_of_toCVector hcount,
      fun _ => exists_firstNul_of_toCVector hcount⟩
  · intro index hname hoption
    exact toCVector_of_firstNul hcount (firstNul_compose_of_option hname hoption)
  · intro index hindex hoptions hcaller
    exact toCVector_of_firstNul hcount (firstNul_compose_of_caller hindex hoptions hcaller)

/-- A vector with an empty argument and a caller without arguments, and vectors in which an
option or an argument of the caller is the first to hold a NUL byte. -/
theorem assemble_toCVector_of_empty_and_nul :
    let name := Bytes.ofText "app"
    let parts : List Part :=
      [.caller (["me", "-v", ""].map Bytes.ofText), .caller [],
        .options ⟨[Bytes.ofText "-a"], .file⟩]
    let clean : OptionSet := ⟨["-a", "-b"].map Bytes.ofText, .file⟩
    let broken : OptionSet := ⟨[Bytes.ofText "-a", [45, nul], [nul]], .file⟩
    let caller : List Bytes := [Bytes.ofText "app", [], [nul, 120]]
    (assemble name parts).count < Nat.pow 2 31 ∧
      (∃ c, (assemble name parts).toCVector = .ok c ∧
        c.Encodes (["app", "-v", "", "-a"].map Bytes.ofText)) ∧
      (compose caller broken).count < Nat.pow 2 31 ∧ nul ∉ caller.headD [] ∧
      FirstNul broken.options 1 ∧
      (compose caller broken).toCVector = .error (.interiorNul 2) ∧
      (compose caller clean).count < Nat.pow 2 31 ∧
      (∀ option ∈ clean.options, nul ∉ option) ∧ FirstNul caller 2 ∧
      (compose caller clean).toCVector = .error (.interiorNul 4) := by
  intro name parts clean broken caller
  have hcount : (assemble name parts).count < Nat.pow 2 31 := by decide
  have hbroken : (compose caller broken).count < Nat.pow 2 31 := by decide
  have hclean : (compose caller clean).count < Nat.pow 2 31 := by decide
  have hname : nul ∉ caller.headD [] := by decide
  have hoptions : ∀ option ∈ clean.options, nul ∉ option := by decide
  have hoption : FirstNul broken.options 1 := ⟨⟨_, rfl, by decide⟩, by decide⟩
  have hcaller : FirstNul caller 2 := ⟨⟨_, rfl, by decide⟩, by decide⟩
  obtain ⟨-, hform, hcompose⟩ := assemble_toCVector name parts
  obtain ⟨hiff, hencodes, -⟩ := hform hcount
  obtain ⟨c, hc⟩ := hiff.mpr (by decide)
  exact ⟨hcount, ⟨c, hc, hencodes c hc⟩, hbroken, hname, hoption,
    ((hcompose caller broken).2 hbroken).1 1 hname hoption, hclean, hoptions, hcaller,
    ((hcompose caller clean).2 hclean).2 2 (by decide) hoptions hcaller⟩

end ArgumentVector

end AppLauncher
