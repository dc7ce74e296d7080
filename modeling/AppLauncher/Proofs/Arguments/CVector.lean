import AppLauncher.Arguments.CVector

/-!
# Reading C vectors back

Arguments without NUL bytes are found again, byte for byte, by a reader who knows
nothing but the number of arguments and the array of pointers.  The induction
follows the layout: what is already laid out in front of an argument is where its
offset points behind.
-/

namespace AppLauncher.CVector

open Bytes (nul)

/-- What a reader of a vector finds: so many arguments, a null pointer at the end
of the array, and up to there these strings. -/
structure Carries (vector : CVector) (arguments : List Bytes) : Prop where
  count : vector.count = arguments.length
  closed : vector.closed = true
  strings : vector.strings = arguments

theorem length_offsets (start : Nat) (arguments : List Bytes) :
    (offsets start arguments).length = arguments.length := by
  induction arguments generalizing start with
  | nil => rfl
  | cons argument later ih => simp [offsets, ih]

theorem bytesUpToNul_of_eq {memory : Array UInt8} {front argument back : Bytes}
    (hmemory : memory.toList = front ++ (argument ++ nul :: back))
    (hfree : nul ∉ argument) :
    bytesUpToNul memory front.length = argument := by
  have hne : ∀ byte ∈ argument, decide (byte ≠ nul) = true := by
    intro byte hbyte
    exact decide_eq_true fun heq => hfree (heq ▸ hbyte)
  rw [bytesUpToNul_eq_takeWhile, hmemory, List.drop_left,
    List.takeWhile_append_of_pos hne]
  simp

theorem map_bytesUpToNul_offsets {memory : Array UInt8} {front : Bytes}
    {arguments : List Bytes}
    (hmemory : memory.toList = front ++ arguments.flatMap (· ++ [nul]))
    (hfree : ∀ argument ∈ arguments, nul ∉ argument) :
    (offsets front.length arguments).map (bytesUpToNul memory) = arguments := by
  induction arguments generalizing front with
  | nil => rfl
  | cons argument later ih =>
      have hfirst : memory.toList =
          front ++ (argument ++ nul :: later.flatMap (· ++ [nul])) := by
        simpa using hmemory
      have hlater : memory.toList =
          (front ++ argument ++ [nul]) ++ later.flatMap (· ++ [nul]) := by
        simpa using hmemory
      have hread := bytesUpToNul_of_eq hfirst (hfree argument List.mem_cons_self)
      have hrest := ih hlater fun other hother => hfree other (List.mem_cons_of_mem _ hother)
      have hstart : (front ++ argument ++ [nul]).length = front.length + argument.length + 1 := by
        simp [Nat.add_assoc]
      rw [hstart] at hrest
      rw [offsets, List.map_cons, hread, hrest]

theorem layOut_carries {arguments : List Bytes}
    (hfree : ∀ argument ∈ arguments, nul ∉ argument) :
    (layOut arguments).Carries arguments where
  count := by simp [count, layOut, length_offsets]
  closed := by simp [closed, layOut]
  strings := by
    have hpointers : (layOut arguments).pointers.takeWhile (·.isSome) =
        (offsets 0 arguments).map some := by
      unfold layOut
      rw [List.takeWhile_append_of_pos (by simp)]
      simp
    have hread : (offsets 0 arguments).map (bytesUpToNul (layOut arguments).memory) =
        arguments :=
      @map_bytesUpToNul_offsets (layOut arguments).memory [] arguments rfl hfree
    unfold strings
    rw [hpointers, List.filterMap_map]
    have hstring : (fun pointer => Option.map (layOut arguments).stringAt pointer) ∘ some =
        some ∘ bytesUpToNul (layOut arguments).memory := rfl
    rw [hstring, List.filterMap_eq_map, hread]

theorem firstNul?_eq_none_iff (arguments : List Bytes) :
    firstNul? arguments = none ↔ ∀ argument ∈ arguments, nul ∉ argument := by
  simp [firstNul?, Bytes.hasNul_eq_false_iff]

theorem exists_ofList_eq_ok {arguments : List Bytes}
    (hcount : arguments.length ≤ greatestCount)
    (hfree : ∀ argument ∈ arguments, nul ∉ argument) :
    ∃ vector, ofList arguments = .ok vector := by
  refine ⟨layOut arguments, ?_⟩
  unfold ofList
  rw [if_neg (Nat.not_lt.mpr hcount), (firstNul?_eq_none_iff arguments).mpr hfree]

end AppLauncher.CVector
