import Mathlib.Logic.Basic
import Typeahead.Proofs.Json.Scalars

namespace Typeahead.Json

variable {c : Char} {text written rest gap chars : Text}

theorem isBlank_blanks : ∀ c ∈ blanks, isBlank c = true := List.all_eq_true.mp rfl

theorem skipBlanks_gap (blank : Blank gap) : skipBlanks (gap ++ text) = skipBlanks text :=
  List.dropWhile_append_of_pos fun c member => isBlank_blanks c (blank c member)

theorem skipBlanks_cons (ink : isBlank c = false) : skipBlanks (c :: text) = c :: text := by
  simp [skipBlanks, ink]

theorem skipBlanks_to (blank : Blank gap) (ink : isBlank c = false) :
    skipBlanks (gap ++ c :: text) = c :: text :=
  (skipBlanks_gap blank).trans (skipBlanks_cons ink)

variable {fuel nest : Nat} {value item : Json} {items : List Json} {members : List (Text × Json)}
  {name : Text}

theorem readValue_gap (blank : Blank gap) :
    readValue fuel nest (gap ++ text) = readValue fuel nest text := by
  cases fuel with
  | zero => rfl
  | succ fuel => rw [readValue, readValue, skipBlanks_gap blank]

theorem readItems_gap (blank : Blank gap) :
    readItems fuel nest (gap ++ text) = readItems fuel nest text := by
  cases fuel with
  | zero => rfl
  | succ fuel => rw [readItems, readItems, readValue_gap blank]

theorem readMembers_gap (blank : Blank gap) :
    readMembers fuel nest (gap ++ text) = readMembers fuel nest text := by
  cases fuel with
  | zero => rfl
  | succ fuel => rw [readMembers, readMembers, skipBlanks_gap blank]

-- What no value begins with: blanks, and the ends of a list and an object.
def enders : List Char := ']' :: '\x7d' :: blanks

theorem ink_of_begins (begins : c ∉ enders) : isBlank c = false := by
  simp only [enders, blanks, List.mem_cons, List.not_mem_nil, or_false, not_or] at begins
  simp [isBlank, begins]

theorem apart_of_number {signs : List Char} (others : ∀ d ∈ signs, d ≠ '-' ∧ d.isDigit = false)
    (number : c = '-' ∨ c.isDigit = true) : c ∉ signs := by
  intro member
  obtain ⟨noSign, noDigit⟩ := others c member
  rcases number with sign | digit
  · exact noSign sign
  · exact absurd (noDigit.symm.trans digit) Bool.false_ne_true

theorem Spells.head (spelled : Spells value written) : ∃ c more, written = c :: more ∧ c ∉ enders := by
  cases spelled with
  | null | yes | no => exact ⟨_, _, rfl, by decide⟩
  | number number =>
    obtain ⟨c, more, rfl, first⟩ := number.head
    exact ⟨c, more, rfl, apart_of_number (by simp [enders, blanks]) first⟩
  | str | noItems | items | noMembers | members => exact ⟨_, _, rfl, by decide⟩

theorem readValue_null : readValue (fuel + 1) nest ("null".toList ++ rest) = some (.null, rest) := rfl

theorem readValue_true :
    readValue (fuel + 1) nest ("true".toList ++ rest) = some (.bool true, rest) := rfl

theorem readValue_false :
    readValue (fuel + 1) nest ("false".toList ++ rest) = some (.bool false, rest) := rfl

theorem readValue_string (after : readString text = some (chars, rest)) :
    readValue (fuel + 1) nest ('"' :: text) = some (.str chars, rest) := by
  change (readString text).map (fun read => (Json.str read.1, read.2)) = _
  rw [after]
  rfl

theorem readValue_number (number : IsNumber written) (ends : Ends rest) :
    readValue (fuel + 1) nest (written ++ rest) = some (.number written, rest) := by
  have read := number.read ends
  obtain ⟨c, more, rfl, first⟩ := number.head
  have ink : c ∉ enders := apart_of_number (by simp [enders, blanks]) first
  have other : c ∉ ['n', 't', 'f', '"', '[', '\x7b'] := apart_of_number (by simp) first
  simp only [List.mem_cons, List.not_mem_nil, or_false, not_or] at other
  rw [List.cons_append] at read ⊢
  rw [readValue, skipBlanks_cons (ink_of_begins ink)]
  split
  case h_7 => rw [read]; rfl
  all_goals
    rename_i equal
    have same := (List.cons.inj equal).1
    simp [same] at other

theorem readValue_list_deep : readValue (fuel + 1) 0 ('[' :: text) = none := rfl

theorem readValue_bracket : readValue (fuel + 1) (nest + 1) ('[' :: text) =
    match skipBlanks text with
    | ']' :: rest => some (.arr [], rest)
    | rest => (readItems fuel nest rest).map fun (items, rest) => (.arr items, rest) := rfl

theorem readValue_list_empty (blank : Blank gap) :
    readValue (fuel + 1) (nest + 1) ('[' :: (gap ++ ']' :: rest)) = some (.arr [], rest) := by
  rw [readValue_bracket, skipBlanks_to blank rfl]
  rfl

theorem readValue_list (blank : Blank gap) (begins : c ∉ enders) :
    readValue (fuel + 1) (nest + 1) ('[' :: (gap ++ c :: text)) =
      (readItems fuel nest (gap ++ c :: text)).map fun (items, rest) => (.arr items, rest) := by
  rw [readValue_bracket, readItems_gap blank, skipBlanks_to blank (ink_of_begins begins)]
  split
  · rename_i equal
    exact absurd ((List.cons.inj equal).1 ▸ begins) (by decide)
  · rfl

theorem readValue_object_deep : readValue (fuel + 1) 0 ('\x7b' :: text) = none := rfl

theorem readValue_brace : readValue (fuel + 1) (nest + 1) ('\x7b' :: text) =
    match skipBlanks text with
    | '\x7d' :: rest => some (.obj [], rest)
    | rest => (readMembers fuel nest rest).map fun (members, rest) => (.obj members, rest) := rfl

theorem readValue_object_empty (blank : Blank gap) :
    readValue (fuel + 1) (nest + 1) ('\x7b' :: (gap ++ '\x7d' :: rest)) = some (.obj [], rest) := by
  rw [readValue_brace, skipBlanks_to blank rfl]
  rfl

theorem readValue_object (blank : Blank gap) :
    readValue (fuel + 1) (nest + 1) ('\x7b' :: (gap ++ '"' :: text)) =
      (readMembers fuel nest (gap ++ '"' :: text)).map fun (members, rest) => (.obj members, rest) := by
  rw [readValue_brace, readMembers_gap blank, skipBlanks_to blank rfl]
  rfl

theorem SpellsItems.head (spelled : SpellsItems items written) :
    ∃ gap c more, written = gap ++ c :: more ∧ Blank gap ∧ c ∉ enders := by
  cases spelled with
  | last before first =>
    obtain ⟨c, more, rfl, begins⟩ := first.head
    exact ⟨_, c, _, by rw [List.append_assoc, List.cons_append], before, begins⟩
  | cons before first =>
    obtain ⟨c, more, rfl, begins⟩ := first.head
    exact ⟨_, c, _, by simp only [List.append_assoc, List.cons_append]; rfl, before, begins⟩

theorem SpellsMember.head (spelled : SpellsMember name value written) :
    ∃ gap more, written = gap ++ '"' :: more ∧ Blank gap := by
  obtain ⟨before, _⟩ := spelled
  exact ⟨_, _, by simp only [List.append_assoc, List.cons_append]; rfl, before⟩

theorem SpellsMembers.head (spelled : SpellsMembers members written) :
    ∃ gap more, written = gap ++ '"' :: more ∧ Blank gap := by
  cases spelled with
  | last member => exact member.head
  | cons member =>
    obtain ⟨gap, more, rfl, blank⟩ := member.head
    exact ⟨gap, _, by rw [List.append_assoc, List.cons_append], blank⟩

-- So much fuel reads what is so long, whatever follows it.
structure Reads (fuel : Nat) : Prop where
  value : ∀ (nest : Nat) {value : Json} {written rest : Text}, Spells value written → Ends rest →
    2 * written.length ≤ fuel →
    readValue fuel nest (written ++ rest) = if value.depth ≤ nest then some (value, rest) else none
  items : ∀ (nest : Nat) (rest : Text) {items : List Json} {written : Text}, SpellsItems items written →
    2 * written.length < fuel → readItems fuel nest (written ++ ']' :: rest) =
      if depthOfItems items ≤ nest then some (items, rest) else none
  members : ∀ (nest : Nat) (rest : Text) {members : List (Text × Json)} {written : Text},
    SpellsMembers members written → 2 * written.length < fuel →
    readMembers fuel nest (written ++ '\x7d' :: rest) =
      if depthOfMembers members ≤ nest then some (members, rest) else none

section
variable (reads : Reads fuel)
include reads

theorem Reads.list (inside : SpellsItems items written) (short : 2 * written.length < fuel) :
    readValue (fuel + 1) nest ('[' :: (written ++ ']' :: rest)) =
      if (Json.arr items).depth ≤ nest then some (.arr items, rest) else none := by
  cases nest with
  | zero => exact readValue_list_deep.trans (if_neg (Nat.not_succ_le_zero _)).symm
  | succ nest =>
    have read := reads.items nest rest inside short
    obtain ⟨gap, c, more, rfl, blank, begins⟩ := inside.head
    rw [List.append_assoc, List.cons_append] at read ⊢
    rw [readValue_list blank begins, read, depth]
    simp only [Nat.add_le_add_iff_right]
    split <;> rfl

theorem Reads.object (inside : SpellsMembers members written) (short : 2 * written.length < fuel) :
    readValue (fuel + 1) nest ('\x7b' :: (written ++ '\x7d' :: rest)) =
      if (Json.obj members).depth ≤ nest then some (.obj members, rest) else none := by
  cases nest with
  | zero => exact readValue_object_deep.trans (if_neg (Nat.not_succ_le_zero _)).symm
  | succ nest =>
    have read := reads.members nest rest inside short
    obtain ⟨gap, more, rfl, blank⟩ := inside.head
    rw [List.append_assoc, List.cons_append] at read ⊢
    rw [readValue_object blank, read, depth]
    simp only [Nat.add_le_add_iff_right]
    split <;> rfl

theorem Reads.stepValue (spelled : Spells value written) (ends : Ends rest)
    (enough : 2 * written.length ≤ fuel + 1) : readValue (fuel + 1) nest (written ++ rest) =
      if value.depth ≤ nest then some (value, rest) else none := by
  cases spelled with
  | null => exact readValue_null.trans (if_pos (Nat.zero_le nest)).symm
  | yes => exact readValue_true.trans (if_pos (Nat.zero_le nest)).symm
  | no => exact readValue_false.trans (if_pos (Nat.zero_le nest)).symm
  | number number => exact (readValue_number number ends).trans (if_pos (Nat.zero_le nest)).symm
  | str inside =>
    rw [List.append_assoc]
    exact (readValue_string inside.read).trans (if_pos (Nat.zero_le nest)).symm
  | noItems blank =>
    rw [List.append_assoc]
    cases nest with
    | zero => exact readValue_list_deep
    | succ nest => exact (readValue_list_empty blank).trans (if_pos (Nat.succ_pos nest)).symm
  | items inside =>
    rw [List.append_assoc]
    simp only [List.length_append, List.length_cons, List.length_nil] at enough
    exact reads.list inside (by omega)
  | noMembers blank =>
    rw [List.append_assoc]
    cases nest with
    | zero => exact readValue_object_deep
    | succ nest => exact (readValue_object_empty blank).trans (if_pos (Nat.succ_pos nest)).symm
  | members inside =>
    rw [List.append_assoc]
    simp only [List.length_append, List.length_cons, List.length_nil] at enough
    exact reads.object inside (by omega)

theorem Reads.firstItem (nest : Nat) (before : Blank gap) (first : Spells item written)
    (ends : Ends rest) (enough : 2 * written.length ≤ fuel) :
    readItems (fuel + 1) nest (gap ++ (written ++ rest)) =
      if item.depth ≤ nest then
        match skipBlanks rest with
        | ']' :: rest => some ([item], rest)
        | ',' :: rest => do
          let (items, rest) ← readItems fuel nest rest
          return (item :: items, rest)
        | _ => none
      else none := by
  rw [readItems, readValue_gap before, reads.value nest first ends enough]
  split <;> rfl

theorem Reads.firstMember (nest : Nat) (spelled : SpellsMember name value written) (ends : Ends rest)
    (enough : 2 * written.length ≤ fuel) : readMembers (fuel + 1) nest (written ++ rest) =
      if value.depth ≤ nest then
        match skipBlanks rest with
        | '\x7d' :: rest => some ([(name, value)], rest)
        | ',' :: rest => do
          let (members, rest) ← readMembers fuel nest rest
          return ((name, value) :: members, rest)
        | _ => none
      else none := by
  obtain ⟨before, key, behind, after, content, last⟩ := spelled
  simp only [List.length_append, List.length_cons] at enough
  have read := reads.value nest content (ends.behind last) (by omega)
  have colon : isBlank ':' = false := rfl
  simp only [List.append_assoc, List.cons_append]
  rw [readMembers, skipBlanks_to before rfl]
  simp only [key.read, Option.bind_eq_bind, Option.bind_some, skipBlanks_to behind colon,
    readValue_gap after, read]
  split
  · simp only [Option.bind_some, skipBlanks_gap last]
    rfl
  · rfl

theorem Reads.stepItems (spelled : SpellsItems items written) (enough : 2 * written.length < fuel + 1) :
    readItems (fuel + 1) nest (written ++ ']' :: rest) =
      if depthOfItems items ≤ nest then some (items, rest) else none := by
  cases spelled with
  | last before first behind =>
    simp only [List.length_append] at enough
    have ends : Ends (']' :: rest) := ends_sign (by decide)
    have read := reads.firstItem nest before first (ends.behind behind) (by omega)
    rw [skipBlanks_to behind rfl] at read
    simpa only [List.append_assoc, depthOfItems, Nat.max_zero] using read
  | cons before first behind others =>
    rename_i more
    simp only [List.length_append, List.length_cons] at enough
    have ends : Ends (',' :: (more ++ ']' :: rest)) := ends_sign (by decide)
    have read := reads.firstItem nest before first (ends.behind behind) (by omega)
    rw [skipBlanks_to behind rfl] at read
    simp only [reads.items nest rest others (show 2 * more.length < fuel by omega)] at read
    simp only [List.append_assoc, List.cons_append, depthOfItems, Nat.max_le, ite_and]
    rw [read]
    split
    · split <;> rfl
    · rfl

theorem Reads.stepMembers (spelled : SpellsMembers members written)
    (enough : 2 * written.length < fuel + 1) : readMembers (fuel + 1) nest (written ++ '\x7d' :: rest) =
      if depthOfMembers members ≤ nest then some (members, rest) else none := by
  cases spelled with
  | last member =>
    have ends : Ends ('\x7d' :: rest) := ends_sign (by decide)
    have read := reads.firstMember nest member ends (by omega)
    rw [skipBlanks_cons rfl] at read
    simpa only [depthOfMembers, Nat.max_zero] using read
  | cons member others =>
    rename_i more
    simp only [List.length_append, List.length_cons] at enough
    have ends : Ends (',' :: (more ++ '\x7d' :: rest)) := ends_sign (by decide)
    have read := reads.firstMember nest member ends (by omega)
    rw [skipBlanks_cons rfl] at read
    simp only [reads.members nest rest others (show 2 * more.length < fuel by omega)] at read
    simp only [List.append_assoc, List.cons_append, depthOfMembers, Nat.max_le, ite_and]
    rw [read]
    split
    · split <;> rfl
    · rfl

end

theorem reads (fuel : Nat) : Reads fuel := by
  induction fuel with
  | zero =>
    refine ⟨fun _ _ _ _ spelled _ enough => ?_, fun _ _ _ _ _ enough => absurd enough (Nat.not_lt_zero _),
      fun _ _ _ _ _ enough => absurd enough (Nat.not_lt_zero _)⟩
    obtain ⟨c, more, rfl, _⟩ := spelled.head
    rw [List.length_cons] at enough
    omega
  | succ fuel ih => exact ⟨fun _ => ih.stepValue, fun _ _ => ih.stepItems, fun _ _ => ih.stepMembers⟩

-- A text of a value is read as it, unless it is nested too deep.
theorem TextOf.read (written : TextOf value text) :
    read? text = if value.depth ≤ depthLimit then some value else none := by
  obtain ⟨before, content, behind⟩ := written
  rename_i a written b
  have enough : 2 * written.length ≤ 2 * (a ++ written ++ b).length + 2 := by
    simp only [List.length_append]
    omega
  have read := (reads _).value depthLimit content (ends_nil.behind behind) enough
  rw [List.append_nil] at read
  have gone : skipBlanks b = [] := by
    have all : skipBlanks (b ++ []) = skipBlanks [] := skipBlanks_gap behind
    rwa [List.append_nil] at all
  rw [read?, List.append_assoc, readValue_gap before, ← List.append_assoc]
  by_cases shallow : value.depth ≤ depthLimit
  · rw [if_pos shallow] at read ⊢
    rw [read]
    simp [gone]
  · rw [if_neg shallow] at read ⊢
    rw [read]

end Typeahead.Json
