import AppLauncher.Settings.Shape

/-!
# The same values

Two values are the same wherever they stand and however they are written: a table may be
written between braces or under a header, an array between brackets or item by item, a number
with or without underscores.  What is read from the same values is the same, and so is the
reason why they are refused.
-/

namespace AppLauncher

open Toml (Entry Value lookup)

/-! ## Values that say the same -/

namespace Toml

def FloatLiteral.same : FloatLiteral → FloatLiteral → Bool
  | .numeral first, .numeral second => first.value? == second.value?
  | .infinity first, .infinity second => first == second
  | .notANumber, .notANumber => true
  | _, _ => false

mutual

/-- Whether two values are the same, places aside.  The order of keys does not matter, and any
two dates or times count as the same: no reader tells them apart. -/
def Value.same : Value → Value → Bool
  | .string text, .string other => text == other
  | .integer value, .integer other => value == other
  | .float literal, .float other => literal.same other
  | .boolean value, .boolean other => value == other
  | .moment, .moment => true
  | .array items, .array others | .grown items, .grown others => sameItems items others
  | .array items, .grown others | .grown items, .array others => sameItems items others.reverse
  | .table _ entries, .table _ others =>
    entries.length == others.length && areBoundIn others entries
  | _, _ => false

def sameItems : List Node → List Node → Bool
  | [], [] => true
  | .mk _ value :: items, other :: others => value.same other.value && sameItems items others
  | _, _ => false

/-- Whether each key of some entries is bound by others, and to the same value. -/
def areBoundIn (others : List Entry) : List Entry → Bool
  | [] => true
  | .mk key _ (.mk _ value) :: entries =>
    (lookup key others).any (value.same ·.value) && areBoundIn others entries

end

/-- Whether two values are the same, or there is none in either place. -/
def sameIfAny : Option Value → Option Value → Bool
  | none, none => true
  | some value, some other => value.same other
  | _, _ => false

theorem eq_nil_of_sameItems {items others : List Node} (hsame : sameItems items others) :
    items = [] ↔ others = [] := by
  cases items with
  | nil => cases others with
    | nil => simp
    | cons => simp [sameItems] at hsame
  | cons item items => cases others with
    | nil => simp [sameItems] at hsame
    | cons => simp

theorem of_areBoundIn_singleton {entry other : Entry} (hbound : areBoundIn [other] [entry]) :
    other.key = entry.key ∧ entry.node.value.same other.node.value := by
  obtain ⟨key, _, _, value⟩ := entry
  simp only [areBoundIn, Bool.and_true] at hbound
  by_cases hkey : other.key = key
  · rw [lookup, if_pos hkey] at hbound
    exact ⟨hkey, hbound⟩
  · rw [lookup, if_neg hkey] at hbound
    contradiction

end Toml

/-! ## Results but for places -/

/-- Two results that are the same, the place of an error aside. -/
inductive Alike {α : Type} : Except ShapeError α → Except ShapeError α → Prop where
  | ok (value : α) : Alike (.ok value) (.ok value)
  | error {first second : ShapeError} (hcause : first.cause = second.cause) :
    Alike (.error first) (.error second)

namespace Alike

variable {α β : Type} {first second : Except ShapeError α}

theorem map (f : α → β) (hresults : Alike first second) :
    Alike (first.map f) (second.map f) := by
  cases hresults with
  | ok value => exact .ok (f value)
  | error hcause => exact .error hcause

theorem bind {f g : α → Except ShapeError β} (hresults : Alike first second)
    (hnext : ∀ value, Alike (f value) (g value)) : Alike (first >>= f) (second >>= g) := by
  cases hresults with
  | ok value => exact hnext value
  | error hcause => exact .error hcause

theorem foldlM {ι : Type} {step other : α → ι → Except ShapeError α} {items : List ι}
    (hstep : ∀ item ∈ items, ∀ known, Alike (step known item) (other known item)) (known : α) :
    Alike (items.foldlM step known) (items.foldlM other known) := by
  induction items generalizing known with
  | nil => exact .ok known
  | cons item items ih =>
      obtain ⟨hfirst, hlater⟩ := List.forall_mem_cons.mp hstep
      simp only [List.foldlM_cons]
      exact (hfirst known).bind (ih hlater)

end Alike

/-! ## Reading the same values -/

theorem Found.ofFloat_of_same {first second : Toml.FloatLiteral} (hsame : first.same second) :
    Found.ofFloat first = Found.ofFloat second := by
  fun_cases Toml.FloatLiteral.same first second with
  | case1 first second =>
      have hvalue : first.value? = second.value? := by
        simpa [Toml.FloatLiteral.same] using hsame
      simp only [Found.ofFloat, hvalue]
  | case2 first second => simpa [Toml.FloatLiteral.same, Found.ofFloat] using hsame
  | case3 => rfl
  | case4 => simp [Toml.FloatLiteral.same] at hsame

/-- What readers see of two values that are the same. -/
inductive SeenAlike : Value → Value → Prop where
  | string (text : String) : SeenAlike (.string text) (.string text)
  | integer (value : Option Int) : SeenAlike (.integer value) (.integer value)
  | float {first second : Toml.FloatLiteral}
    (hfound : Found.ofFloat first = Found.ofFloat second) :
    SeenAlike (.float first) (.float second)
  | boolean (value : Bool) : SeenAlike (.boolean value) (.boolean value)
  | moment : SeenAlike .moment .moment
  | sequence {value other : Value} {items others : List Toml.Node}
    (hvalue : value = .array items ∨ value = .grown items)
    (hother : other = .array others ∨ other = .grown others)
    (hnil : items = [] ↔ others = []) : SeenAlike value other
  | table {origin origin' : Toml.TableOrigin} {entries others : List Entry}
    (hlength : entries.length = others.length) (hbound : Toml.areBoundIn others entries) :
    SeenAlike (.table origin entries) (.table origin' others)

theorem seenAlike_of_same {value other : Value} (hsame : value.same other) :
    SeenAlike value other := by
  fun_cases Value.same value other with
  | case1 text other =>
      obtain rfl : text = other := by simpa [Value.same] using hsame
      exact .string text
  | case2 number other =>
      obtain rfl : number = other := by simpa [Value.same] using hsame
      exact .integer number
  | case3 literal other =>
      exact .float (Found.ofFloat_of_same (by simpa [Value.same] using hsame))
  | case4 value other =>
      obtain rfl : value = other := by simpa [Value.same] using hsame
      exact .boolean value
  | case5 => exact .moment
  | case6 items others =>
      have hitems : Toml.sameItems items others := by simpa [Value.same] using hsame
      exact .sequence (.inl rfl) (.inl rfl) (Toml.eq_nil_of_sameItems hitems)
  | case7 items others =>
      have hitems : Toml.sameItems items others := by simpa [Value.same] using hsame
      exact .sequence (.inr rfl) (.inr rfl) (Toml.eq_nil_of_sameItems hitems)
  | case8 items others =>
      have hitems : Toml.sameItems items others.reverse := by simpa [Value.same] using hsame
      exact .sequence (.inl rfl) (.inr rfl) (by simpa using Toml.eq_nil_of_sameItems hitems)
  | case9 items others =>
      have hitems : Toml.sameItems items others.reverse := by simpa [Value.same] using hsame
      exact .sequence (.inr rfl) (.inl rfl) (by simpa using Toml.eq_nil_of_sameItems hitems)
  | case10 origin entries origin' others =>
      obtain ⟨hlength, hbound⟩ :
          entries.length = others.length ∧ Toml.areBoundIn others entries := by
        simpa [Value.same] using hsame
      exact .table hlength hbound
  | case11 => simp [Value.same, *] at hsame

section Readers

variable {value other : Value} {position place : Toml.Place}

theorem Found.ofValue_of_same (hsame : value.same other) :
    Found.ofValue value = Found.ofValue other := by
  cases seenAlike_of_same hsame with
  | string | integer | boolean | moment | table => rfl
  | float hfound => exact hfound
  | sequence hvalue hother =>
      rcases hvalue with rfl | rfl <;> rcases hother with rfl | rfl <;> rfl

theorem alike_refuse {α : Type} (expected : Expected) (hsame : value.same other) :
    Alike (refuse (α := α) expected (.mk position value)) (refuse expected (.mk place other)) := by
  refine .error ?_
  simp only [Toml.Node.value, Found.ofValue_of_same hsame]

theorem alike_readText (expected : Expected) (hsame : value.same other) :
    Alike (readText expected (.mk position value)) (readText expected (.mk place other)) := by
  have hrefuse : Alike (refuse (α := String) expected (.mk position value))
    (refuse expected (.mk place other)) := alike_refuse expected hsame
  cases seenAlike_of_same hsame with
  | string text => exact .ok text
  | integer | float | boolean | moment | table => exact hrefuse
  | sequence hvalue hother =>
      rcases hvalue with rfl | rfl <;> rcases hother with rfl | rfl <;> exact hrefuse

theorem alike_readLimit (hsame : value.same other) :
    Alike (readLimit (.mk position value)) (readLimit (.mk place other)) := by
  have hrefuse : Alike (refuse (α := UInt64) .count (.mk position value))
    (refuse .count (.mk place other)) := alike_refuse .count hsame
  cases seenAlike_of_same hsame with
  | integer number =>
      cases number with
      | none => exact hrefuse
      | some number =>
          simp only [readLimit, Toml.Node.value]
          split
          next => exact .ok _
          next =>
            split
            next => exact .error rfl
            next => exact hrefuse
  | string | float | boolean | moment | table => exact hrefuse
  | sequence hvalue hother =>
      rcases hvalue with rfl | rfl <;> rcases hother with rfl | rfl <;> exact hrefuse

theorem alike_readPath (hsame : value.same other) :
    Alike (readPath (.mk position value)) (readPath (.mk place other)) :=
  (alike_readText .path hsame).map Bytes.ofText

theorem checkKindValue_sequence {items : List Toml.Node}
    (hvalue : value = .array items ∨ value = .grown items) :
    checkKindValue (.mk position value) =
      if items = [] then .ok () else .error ⟨.kindValueArray, position⟩ := by
  rcases hvalue with rfl | rfl <;> cases items <;> rfl

theorem alike_checkKindValue (hsame : value.same other) :
    Alike (checkKindValue (.mk position value)) (checkKindValue (.mk place other)) := by
  cases seenAlike_of_same hsame with
  | string | integer | float | boolean | moment => exact .error rfl
  | sequence hvalue hother hnil =>
      rw [checkKindValue_sequence hvalue, checkKindValue_sequence hother]
      simp only [hnil]
      split
      next => exact .ok ()
      next => exact .error rfl
  | @table origin origin' entries others hlength =>
      match entries, others, hlength with
      | [], [], _ => exact .ok ()
      | _ :: _, _ :: _, _ => exact .error rfl

theorem alike_readKind (hsame : value.same other) :
    Alike (readKind (.mk position value)) (readKind (.mk place other)) := by
  cases seenAlike_of_same hsame with
  | integer | float | boolean | moment => exact .error rfl
  | sequence hvalue hother =>
      rcases hvalue with rfl | rfl <;> rcases hother with rfl | rfl <;> exact .error rfl
  | string name =>
      simp only [readKind, Toml.Node.value]
      split
      next => exact .ok _
      next => exact .error rfl
  | @table origin origin' entries others hlength hbound =>
      match entries, others, hlength with
      | [], [], _ => exact .error rfl
      | _ :: _ :: _, _ :: _ :: _, _ => exact .error rfl
      | [.mk key _ (.mk _ value)], [.mk name _ (.mk _ other)], _ =>
          obtain ⟨hkey, hcarried⟩ := Toml.of_areBoundIn_singleton hbound
          obtain rfl : name = key := hkey
          simp only [readKind, Toml.Node.value, Entry.key, Entry.node]
          split
          next => exact (alike_checkKindValue hcarried).map _
          next => exact .error rfl

end Readers

end AppLauncher
