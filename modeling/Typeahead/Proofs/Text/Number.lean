import Typeahead.Text.Number

namespace Typeahead.Text

theorem decimalValue_eq (digits : Text) : decimalValue digits = Nat.ofDigitChars 10 digits 0 := by
  simp only [decimalValue, Nat.ofDigitChars, Nat.mul_comm]

theorem isDigit_eq (c : Char) : isDigit c = c.isDigit := by
  simp only [isDigit, Char.isDigit, Char.le_def]

theorem digits?_toDigits (n : Nat) : digits? (Nat.toDigits 10 n) = some n := by
  have each : (Nat.toDigits 10 n).all isDigit = true := by
    refine List.all_eq_true.mpr fun c member => ?_
    rw [isDigit_eq]
    exact Nat.isDigit_of_mem_toDigits (by decide) (by decide) member
  rw [digits?, each, List.isEmpty_eq_false_iff.mpr Nat.toDigits_ne_nil, decimalValue_eq,
    Nat.ofDigitChars_ten_toDigits]
  rfl

-- What is printed has no sign, so that it is read as digits.
theorem natural?_toDigits (n : Nat) : natural? (Nat.toDigits 10 n) = some n := by
  rw [natural?]
  · exact digits?_toDigits n
  · intro rest signed
    have member : '+' ∈ Nat.toDigits 10 n := signed ▸ List.mem_cons_self ..
    exact absurd (Nat.isDigit_of_mem_toDigits (by decide) (by decide) member) (by decide)

theorem word64?_toDigits {n : Nat} (fits : n < count64) : word64? (Nat.toDigits 10 n) = some n := by
  rw [word64?, natural?_toDigits, Option.bind_some, if_pos fits]

end Typeahead.Text
