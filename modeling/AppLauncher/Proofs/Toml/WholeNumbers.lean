import AppLauncher.Toml.Expression
import Mathlib.Data.List.Basic
import Mathlib.Data.List.TakeWhile

/-!
# Whole numbers, written and read

The decimal form of a whole number is an unquoted scalar that means the number:
its digits are no truth value, no date and no time, no base is marked, nothing is
padded, and their value is the number.
-/

namespace AppLauncher.Toml

/-! ## Texts of digits -/

theorem ne_of_isDigit {c other : Char} (hc : c.isDigit = true)
    (hother : other.isDigit = false) : c ≠ other := by
  rintro rfl
  rw [hc] at hother
  contradiction

section Digits

variable {text : List Char} (hdigits : ∀ c ∈ text, c.isDigit = true)
include hdigits

theorem notMem_of_digits {other : Char} (hother : other.isDigit = false) : other ∉ text :=
  fun hmem => ne_of_isDigit (hdigits other hmem) hother rfl

namespace Moment

theorem digits_of_digits? {count value number : Nat} {rest : List Char}
    (hread : digits? count value text = some (number, rest)) :
    ∀ c ∈ rest, c.isDigit = true := by
  induction count generalizing value text with
  | zero =>
      simp only [digits?, Option.some.injEq, Prod.mk.injEq] at hread
      rw [← hread.2]
      exact hdigits
  | succ count ih =>
      cases text with
      | nil => simp [digits?] at hread
      | cons c text =>
          rw [digits?, if_pos (hdigits c List.mem_cons_self)] at hread
          exact ih (fun other hmem => hdigits other (List.mem_cons_of_mem c hmem)) hread

theorem after?_of_digits (expected : Char) (hexpected : expected.isDigit = false) :
    after? expected text = none := by
  cases text with
  | nil => rfl
  | cons c text =>
      have hc := ne_of_isDigit (hdigits c List.mem_cons_self) hexpected
      simp [after?, hc]

theorem afterDate?_of_digits : afterDate? text = none := by
  unfold afterDate?
  cases hread : digits? 4 0 text with
  | none => rfl
  | some read =>
      have hrest := digits_of_digits? hdigits hread
      simp [after?_of_digits hrest '-' (by decide)]

theorem afterTime?_of_digits : afterTime? text = none := by
  unfold afterTime?
  cases hread : digits? 2 0 text with
  | none => rfl
  | some read =>
      have hrest := digits_of_digits? hdigits hread
      simp [after?_of_digits hrest ':' (by decide)]

theorem accepts_of_digits : accepts text = false := by
  simp [accepts, afterDate?_of_digits hdigits, afterTime?_of_digits hdigits]

end Moment

namespace Number

theorem ungrouped_of_digits : ungrouped text = text := by
  apply List.filter_eq_self.mpr
  intro c hc
  simpa using ne_of_isDigit (hdigits c hc) (by decide : '_'.isDigit = false)

theorem isGrouped_of_digits (isDigit : Char → Bool) (joined : Bool) :
    isGrouped isDigit joined text = true := by
  induction text generalizing joined with
  | nil => rfl
  | cons c text ih =>
      have hc := ne_of_isDigit (hdigits c List.mem_cons_self) (by decide : '_'.isDigit = false)
      simp only [isGrouped, beq_iff_eq, if_neg hc]
      exact ih (fun other hmem => hdigits other (List.mem_cons_of_mem c hmem)) _

theorem splitSign_of_digits : splitSign text = (none, text) := by
  cases text with
  | nil => rfl
  | cons c text =>
      have hc := hdigits c List.mem_cons_self
      have hminus := ne_of_isDigit hc (by decide : '-'.isDigit = false)
      have hplus := ne_of_isDigit hc (by decide : '+'.isDigit = false)
      simp [splitSign, hminus, hplus]

theorem valueAfter_of_digits (value : Nat) :
    valueAfter 10 value text = Nat.ofDigitChars 10 text value := by
  induction text generalizing value with
  | nil => rfl
  | cons c text ih =>
      have hvalue : digitValue c = c.toNat - '0'.toNat := by
        rw [digitValue, if_pos (hdigits c List.mem_cons_self)]
      rw [Nat.ofDigitChars_cons, ← hvalue, Nat.mul_comm,
        ← ih fun other hmem => hdigits other (List.mem_cons_of_mem c hmem)]
      rfl

/-- Digits that no zero pads are the decimal form of their value. -/
theorem integer?_of_digits (hne : text ≠ []) (hpadded : isPadded text = false) :
    integer? text = some (some (valueOf 10 text : Int)) := by
  have htail : text.dropWhile Char.isDigit = [] := by
    rw [List.dropWhile_eq_nil_iff]
    exact hdigits
  unfold integer?
  split
  · exact absurd (by simp) (notMem_of_digits hdigits (by decide : 'x'.isDigit = false))
  · exact absurd (by simp) (notMem_of_digits hdigits (by decide : 'o'.isDigit = false))
  · exact absurd (by simp) (notMem_of_digits hdigits (by decide : 'b'.isDigit = false))
  · simp [splitSign_of_digits hdigits, decimal?, hpadded, hne, htail,
      isGrouped_of_digits hdigits, ungrouped_of_digits hdigits, signed]

end Number

end Digits

/-! ## Decimal forms -/

theorem isDigit_of_mem_toDigits {number : Nat} :
    ∀ c ∈ Nat.toDigits 10 number, c.isDigit = true :=
  fun _ hc => Nat.isDigit_of_mem_toDigits (by decide) (by decide) hc

theorem Number.valueOf_toDigits (number : Nat) :
    valueOf 10 (Nat.toDigits 10 number) = number := by
  rw [valueOf_eq_valueAfter, valueAfter_of_digits isDigit_of_mem_toDigits,
    Nat.ofDigitChars_ten_toDigits]

theorem head?_toDigits_ne_zero {number : Nat} (hnumber : number ≠ 0) :
    (Nat.toDigits 10 number).head? ≠ some '0' := by
  induction number using Nat.strongRecOn with
  | ind number ih =>
      by_cases hsmall : number < 10
      · have hdigit : ∀ digit < 10, digit ≠ 0 → [Nat.digitChar digit].head? ≠ some '0' := by
          decide
        rw [Nat.toDigits_of_lt_base hsmall]
        exact hdigit number hsmall hnumber
      · rw [Nat.toDigits_of_base_le (by decide) (by omega),
          List.head?_append_of_ne_nil _ Nat.toDigits_ne_nil]
        exact ih (number / 10) (by omega) (by omega)

theorem Number.isPadded_toDigits (number : Nat) :
    isPadded (Nat.toDigits 10 number) = false := by
  by_cases hnumber : number = 0
  · subst hnumber
    decide
  · have hhead := head?_toDigits_ne_zero hnumber
    simp [isPadded, hhead]

theorem scalar?_toDigits (number : Nat) :
    scalar? (Nat.toDigits 10 number) = some (.integer (some number)) := by
  have hdigits : ∀ c ∈ Nat.toDigits 10 number, c.isDigit = true := isDigit_of_mem_toDigits
  have htrue : Nat.toDigits 10 number ≠ ['t', 'r', 'u', 'e'] := by
    intro heq
    exact notMem_of_digits hdigits (by decide : 'e'.isDigit = false) (by simp [heq])
  have hfalse : Nat.toDigits 10 number ≠ ['f', 'a', 'l', 's', 'e'] := by
    intro heq
    exact notMem_of_digits hdigits (by decide : 'e'.isDigit = false) (by simp [heq])
  have hinteger := Number.integer?_of_digits hdigits Nat.toDigits_ne_nil
    (Number.isPadded_toDigits number)
  rw [Number.valueOf_toDigits] at hinteger
  simp [scalar?, htrue, hfalse, Moment.accepts_of_digits hdigits, hinteger]

end AppLauncher.Toml
