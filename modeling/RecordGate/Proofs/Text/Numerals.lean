import Mathlib.Data.List.TakeDrop

/-!
# Decimal numerals

The digits of a number, as they are written, and the split of a text behind the longest run of characters of
one kind. Readers of several formats rely on both.
-/

namespace RecordGate.Text
set_option autoImplicit false

/-- A run of one kind ends where a character of another kind follows. -/
theorem span_append {p : Char → Bool} {front back : List Char} (run : ∀ c ∈ front, p c = true)
    (stops : ∀ c, back.head? = some c → p c = false) : (front ++ back).span p = (front, back) := by
  have rest : back.takeWhile p = [] ∧ back.dropWhile p = back := by
    cases back with
    | nil => exact ⟨rfl, rfl⟩
    | cons c cs => simp [stops c rfl]
  rw [List.span_eq_takeWhile_dropWhile, List.takeWhile_append_of_pos run, List.dropWhile_append_of_pos run,
    rest.1, rest.2, List.append_nil]

theorem isDigit_of_mem {n : Nat} {c : Char} (member : c ∈ Nat.toDigits 10 n) : c.isDigit = true :=
  Nat.isDigit_of_mem_toDigits (by decide) (by decide) member

/-- Only the numeral of zero begins with a zero. -/
theorem toDigits_head {n : Nat} (positive : 0 < n) :
    ∃ c cs, Nat.toDigits 10 n = c :: cs ∧ c ≠ '0' ∧ c.isDigit = true := by
  induction n using Nat.strongRecOn with
  | ind n ih =>
    rw [Nat.toDigits_eq_if (by decide)]
    split
    · next small =>
      refine ⟨n.digitChar, [], rfl, ?_, ?_⟩
      · simp
        omega
      · simpa using small
    · next large =>
      obtain ⟨c, cs, digits, nonzero, digit⟩ := ih (n / 10) (by omega) (by omega)
      exact ⟨c, cs ++ [(n % 10).digitChar], by rw [digits]; rfl, nonzero, digit⟩

end RecordGate.Text
