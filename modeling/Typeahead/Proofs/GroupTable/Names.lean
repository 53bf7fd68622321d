import Typeahead.GroupTable
import Typeahead.Pattern.Reader

namespace Typeahead
namespace GroupTable

theorem nameOf_injective {m n : Nat} (same : nameOf m = nameOf n) : m = n := by
  have digits : Nat.toDigits 10 m = Nat.toDigits 10 n := List.append_cancel_left same
  rw [← Nat.ofDigitChars_ten_toDigits (n := m), digits, Nat.ofDigitChars_ten_toDigits]

end GroupTable

namespace Pattern

theorem isNamePart_of_isDigit {c : Char} (digit : c.isDigit = true) : isNamePart c = true := by
  simp only [Char.isDigit, Bool.and_eq_true, decide_eq_true_eq] at digit
  have number : Unicode.numbers.contains c = true := by
    refine List.any_eq_true.mpr ⟨(0x30, 0x39), List.Mem.head _, ?_⟩
    simp only [Bool.and_eq_true, decide_eq_true_eq]
    exact digit
  simp [isNamePart, Unicode.isNameDigit, number]

-- What may stand between `(?P<` and `>`.
structure GroupName (name : List Char) : Prop where
  valid : isGroupName name = true
  noEnd : '>' ∉ name

theorem nameOf_groupName (n : Nat) : GroupName (GroupTable.nameOf n) := by
  have digits : ∀ c ∈ Nat.toDigits 10 n, c.isDigit = true := fun c member =>
    Nat.isDigit_of_mem_toDigits (by decide) (by decide) member
  constructor
  · have stem : isNameStart 'n' = true ∧ ("ode_".toList.all isNamePart) = true := by decide +kernel
    have split : GroupTable.nameOf n = 'n' :: ("ode_".toList ++ Nat.toDigits 10 n) := rfl
    rw [split, isGroupName, stem.1, List.all_append, stem.2]
    simpa using fun c member => isNamePart_of_isDigit (digits c member)
  · intro member
    cases List.mem_append.mp member with
    | inl member =>
      revert member
      decide
    | inr member => exact absurd (digits _ member) (by decide)

end Pattern
end Typeahead
