import Typeahead.Json.Reader
import Typeahead.Proofs.Json.Spelling
import Typeahead.Proofs.Text.Number

namespace Typeahead

theorem Text.hexDigit?_digitChar : ∀ value < 16, hexDigit? (Nat.digitChar value) = some value ∧
    hexDigit? (Nat.digitChar value).toUpper = some value := by
  decide

namespace Json
variable {a b c d : Char} {n : Nat} {text written rest gap digits chars : Text}

theorem HexDigit.read {value : Nat} (small : value < 16) (digit : HexDigit value c) :
    Text.hexDigit? c = some value := by
  obtain ⟨low, capital⟩ := Text.hexDigit?_digitChar value small
  rcases digit with rfl | rfl
  · exact low
  · exact capital

theorem HexUnit.read (hex : HexUnit n digits) :
    ∃ a b c d, digits = [a, b, c, d] ∧ hexUnit? a b c d = some n := by
  obtain ⟨small, first, second, third, fourth⟩ := hex
  refine ⟨_, _, _, _, rfl, ?_⟩
  have top : n / 0x1000 < 16 := by omega
  rw [hexUnit?, first.read top, second.read (Nat.mod_lt _ (by decide)),
    third.read (Nat.mod_lt _ (by decide)), fourth.read (Nat.mod_lt _ (by decide))]
  refine congrArg some ?_
  show (n / 0x1000 * 16 + n / 0x100 % 0x10) * 256 + (n / 0x10 % 0x10 * 16 + n % 0x10) = n
  omega

theorem shortEscape?_known : ∀ row ∈ shortEscapes, row.1 ≠ 'u' ∧ shortEscape? row.1 = some row.2 := by
  decide

-- No character is half of another.
theorem surrogate_free (c : Char) :
    isHighSurrogate c.toNat = false ∧ isLowSurrogate c.toNat = false := by
  have valid : c.toNat < 0xd800 ∨ 0xdfff < c.toNat ∧ c.toNat < 0x110000 := c.valid
  simp only [isHighSurrogate, isLowSurrogate, Bool.and_eq_false_iff, decide_eq_false_iff_not]
  omega

theorem halves_joined (large : 0x10000 ≤ c.toNat) :
    isHighSurrogate (highHalf c) = true ∧ isLowSurrogate (lowHalf c) = true ∧
      Char.ofNat (0x10000 + (highHalf c - 0xd800) * 0x400 + (lowHalf c - 0xdc00)) = c := by
  have valid : c.toNat < 0xd800 ∨ 0xdfff < c.toNat ∧ c.toNat < 0x110000 := c.valid
  have joined : 0x10000 + (highHalf c - 0xd800) * 0x400 + (lowHalf c - 0xdc00) = c.toNat := by
    unfold highHalf lowHalf
    omega
  refine ⟨?_, ?_, ?_⟩
  · refine Bool.and_eq_true_iff.mpr ⟨decide_eq_true ?_, decide_eq_true ?_⟩ <;> unfold highHalf <;> omega
  · refine Bool.and_eq_true_iff.mpr ⟨decide_eq_true ?_, decide_eq_true ?_⟩ <;> unfold lowHalf <;> omega
  · rw [joined, Char.ofNat_toNat]

theorem readString_unit (unit : hexUnit? a b c d = some n) (high : isHighSurrogate n = false)
    (low : isLowSurrogate n = false) (after : readString text = some (chars, rest)) :
    readString ('\\' :: 'u' :: a :: b :: c :: d :: text) = some (Char.ofNat n :: chars, rest) := by
  by_cases another : ∃ e f g h more, text = '\\' :: 'u' :: e :: f :: g :: h :: more
  · obtain ⟨e, f, g, h, more, rfl⟩ := another
    rw [readString, unit]
    simp only [Option.bind_eq_bind, Option.bind_some, high, low, after]
    rfl
  · rw [readString, unit]
    · simp only [Option.bind_eq_bind, Option.bind_some, high, low, after]
      rfl
    · exact fun e f g h more equal => another ⟨e, f, g, h, more, equal⟩

theorem readString_pair {e f g h : Char} {m : Nat} (first : hexUnit? a b c d = some n)
    (second : hexUnit? e f g h = some m) (high : isHighSurrogate n = true) (low : isLowSurrogate m = true)
    (after : readString text = some (chars, rest)) :
    readString ('\\' :: 'u' :: a :: b :: c :: d :: '\\' :: 'u' :: e :: f :: g :: h :: text) =
      some (Char.ofNat (0x10000 + (n - 0xd800) * 0x400 + (m - 0xdc00)) :: chars, rest) := by
  rw [readString, first]
  simp only [Option.bind_eq_bind, Option.bind_some, high, low, second, after, if_true]
  rfl

theorem SpellsChar.read (spelled : SpellsChar c written) (after : readString text = some (chars, rest)) :
    readString (written ++ text) = some (c :: chars, rest) := by
  cases spelled with
  | plain shown noQuote noEscape =>
    rw [List.singleton_append, readString, if_neg (Nat.not_lt.mpr shown), after]
    · rfl
    · exact noQuote
    · exact fun _ _ _ _ _ _ _ _ _ equal _ => noEscape equal
    · exact fun _ _ _ _ _ equal _ => noEscape equal
    · exact fun _ _ equal _ => noEscape equal
  | short known =>
    obtain ⟨other, escape⟩ := shortEscape?_known _ known
    rw [List.cons_append, List.singleton_append, readString, escape, after]
    · rfl
    · exact fun _ _ _ _ _ _ _ _ _ equal _ => other equal
    · exact fun _ _ _ _ _ equal _ => other equal
  | unit _ hex =>
    obtain ⟨_, _, _, _, rfl, unit⟩ := hex.read
    obtain ⟨high, low⟩ := surrogate_free c
    have read := readString_unit unit high low after
    rwa [Char.ofNat_toNat] at read
  | pair large high low =>
    obtain ⟨_, _, _, _, rfl, first⟩ := high.read
    obtain ⟨_, _, _, _, rfl, second⟩ := low.read
    obtain ⟨isHigh, isLow, joined⟩ := halves_joined large
    have read := readString_pair first second isHigh isLow after
    rwa [joined] at read

theorem SpellsText.read (spelled : SpellsText chars written) :
    readString (written ++ '"' :: rest) = some (chars, rest) := by
  induction spelled with
  | nil => rw [List.nil_append, readString]
  | cons first _ ih =>
    rw [List.append_assoc]
    exact first.read ih

-- What may follow a value.
def Ends (rest : Text) : Prop := ∀ c ∈ rest.head?, c ∈ blanks ++ [',', ']', '\x7d']

theorem ends_nil : Ends [] := fun _ head => nomatch head

theorem ends_sign (sign : c ∈ [',', ']', '\x7d']) : Ends (c :: rest) := by
  intro d head
  cases head
  exact List.mem_append_right _ sign

theorem Ends.behind (ends : Ends rest) (blank : Blank gap) : Ends (gap ++ rest) := by
  cases gap with
  | nil => exact ends
  | cons d gap =>
    intro e head
    cases head
    exact List.mem_append_left _ (blank d (List.mem_cons_self ..))

-- What may follow digits.
def NoDigit (rest : Text) : Prop := ∀ c ∈ rest.head?, c.isDigit = false

theorem Ends.number (ends : Ends rest) :
    NoDigit rest ∧ ∀ c ∈ rest.head?, c ≠ '.' ∧ c ≠ 'e' ∧ c ≠ 'E' := by
  have signs : ∀ c ∈ blanks ++ [',', ']', '\x7d'],
      c.isDigit = false ∧ c ≠ '.' ∧ c ≠ 'e' ∧ c ≠ 'E' := by simp [blanks]
  exact ⟨fun c head => (signs c (ends c head)).1, fun c head => (signs c (ends c head)).2⟩

theorem Digits.head (digits : Digits text) : ∃ c more, text = c :: more ∧ c.isDigit = true := by
  obtain ⟨some', each⟩ := digits
  obtain ⟨c, more, rfl⟩ := List.exists_cons_of_ne_nil some'
  exact ⟨c, more, rfl, each c (List.mem_cons_self ..)⟩

theorem Whole.head (whole : Whole text) : ∃ c more, text = c :: more ∧ c.isDigit = true := by
  cases whole with
  | zero => exact ⟨'0', [], rfl, rfl⟩
  | digits digits _ => exact digits.head

theorem Digits.read (digits : Digits text) (further : NoDigit rest) :
    readDigits (text ++ rest) = some (text, rest) := by
  obtain ⟨some', each⟩ := digits
  have each : ∀ c ∈ text, Text.isDigit c = true := fun c member => Text.isDigit_eq c ▸ each c member
  have taken : rest.takeWhile Text.isDigit = [] ∧ rest.dropWhile Text.isDigit = rest := by
    cases rest with
    | nil => exact ⟨rfl, rfl⟩
    | cons c rest =>
      have other : Text.isDigit c = false := Text.isDigit_eq c ▸ further c rfl
      simp [other]
  simp [readDigits, List.takeWhile_append_of_pos each, List.dropWhile_append_of_pos each, taken, some']

theorem Whole.read (whole : Whole text) (further : NoDigit rest) :
    readInteger (text ++ rest) = some (text, rest) := by
  cases whole with
  | zero => rfl
  | digits digits noZero =>
    have read := digits.read further
    obtain ⟨c, more, rfl, _⟩ := digits.head
    rw [List.cons_append] at read ⊢
    rw [readInteger]
    · exact read
    · exact fun _ equal => noZero (congrArg some (List.cons.inj equal).1)

theorem Fraction.read (fraction : Fraction text) (further : NoDigit rest)
    (noPoint : ∀ c ∈ rest.head?, c ≠ '.') : readFraction (text ++ rest) = some (text, rest) := by
  cases fraction with
  | none =>
    rw [List.nil_append, readFraction]
    exact fun _ equal => noPoint '.' (equal ▸ rfl) rfl
  | digits digits =>
    rw [List.cons_append, readFraction, digits.read further]
    rfl

theorem Exponent.read (exponent : Exponent text) (ends : Ends rest) :
    readExponent (text ++ rest) = some (text, rest) := by
  obtain ⟨further, others⟩ := ends.number
  cases exponent with
  | none =>
    cases rest with
    | nil => rfl
    | cons c rest =>
      obtain ⟨_, small, capital⟩ := others c rfl
      simp [readExponent, small, capital]
  | @digits e signs text letter sign digits =>
    have known : (e = 'e' || e = 'E') = true := by simpa using letter
    have read := digits.read further
    simp only [List.mem_cons, List.not_mem_nil, or_false] at sign
    rcases sign with rfl | rfl | rfl
    · obtain ⟨c, more, rfl, digit⟩ := digits.head
      simp only [List.cons_append, List.nil_append] at read ⊢
      rw [readExponent, if_pos known, read]
      · rfl
      · exact fun _ equal => absurd ((List.cons.inj equal).1 ▸ digit) (by decide)
      · exact fun _ equal => absurd ((List.cons.inj equal).1 ▸ digit) (by decide)
    · simp only [List.cons_append, List.nil_append]
      rw [readExponent, if_pos known, read]
      rfl
    · simp only [List.cons_append, List.nil_append]
      rw [readExponent, if_pos known, read]
      rfl

theorem Exponent.further (exponent : Exponent text) (ends : Ends rest) :
    NoDigit (text ++ rest) ∧ ∀ c ∈ (text ++ rest).head?, c ≠ '.' := by
  obtain ⟨further, others⟩ := ends.number
  cases exponent with
  | none => exact ⟨further, fun c head => (others c head).1⟩
  | digits letter =>
    have signs : ∀ c ∈ ['e', 'E'], c.isDigit = false ∧ c ≠ '.' := by simp
    constructor
    · intro c head
      cases head
      exact (signs _ letter).1
    · intro c head
      cases head
      exact (signs _ letter).2

theorem Fraction.further (fraction : Fraction text) (further : NoDigit rest) :
    NoDigit (text ++ rest) := by
  cases fraction with
  | none => exact further
  | digits =>
    intro c head
    cases head
    rfl

theorem IsNumber.head (number : IsNumber written) :
    ∃ c more, written = c :: more ∧ (c = '-' ∨ c.isDigit = true) := by
  obtain ⟨sign, whole, _, _⟩ := number
  obtain ⟨c, more, rfl, digit⟩ := whole.head
  simp only [List.mem_cons, List.not_mem_nil, or_false] at sign
  rcases sign with rfl | rfl
  · exact ⟨c, _, rfl, .inr digit⟩
  · exact ⟨'-', _, rfl, .inl rfl⟩

theorem IsNumber.read (number : IsNumber text) (ends : Ends rest) :
    readNumber (text ++ rest) = some (text, rest) := by
  obtain ⟨sign, whole, fraction, exponent⟩ := number
  rename_i signs a b c
  obtain ⟨noDigit, noPoint⟩ := exponent.further ends
  have first := whole.read (fraction.further noDigit)
  have second := fraction.read noDigit noPoint
  have third := exponent.read ends
  simp only [List.mem_cons, List.not_mem_nil, or_false] at sign
  rcases sign with rfl | rfl
  · obtain ⟨d, more, rfl, digit⟩ := whole.head
    simp only [List.nil_append, List.cons_append, List.append_assoc] at first ⊢
    unfold readNumber
    split
    rename_i signs text parts
    split at parts
    · rename_i equal
      exact absurd ((List.cons.inj equal).1 ▸ digit) (by decide)
    · obtain ⟨rfl, rfl⟩ := Prod.mk.inj parts
      simp [first, second, third]
  · simp only [List.cons_append, List.nil_append, List.append_assoc]
    simp [readNumber, first, second, third]

end Json
end Typeahead
