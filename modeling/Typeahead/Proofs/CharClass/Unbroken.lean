import Typeahead.Proofs.CharClass.Scan

namespace Typeahead
namespace Text
variable {text : Text} {offset : Nat}

-- The offset is that of a boundary between two characters, or of one of the ends.
def Cuts (text : Text) (offset : Nat) : Prop :=
  ∃ before rest, text = before ++ rest ∧ bytes before = offset

theorem Cuts.split (cuts : Cuts text offset) : ∃ before rest, text = before ++ rest ∧
    bytes before = offset ∧ splitAtByte? offset text = some (before, rest) := by
  obtain ⟨before, rest, rfl, rfl⟩ := cuts
  exact ⟨before, rest, rfl, rfl, splitAtByte?_bytes before rest⟩

theorem Cuts.le_bytes (cuts : Cuts text offset) : offset ≤ bytes text := by
  obtain ⟨before, rest, rfl, rfl⟩ := cuts
  rw [bytes_append]
  exact Nat.le_add_right ..

theorem bytes_eq_utf8ByteSize (text : Text) : bytes text = (String.ofList text).utf8ByteSize := by
  induction text with
  | nil => rfl
  | cons c text ih => simp [bytes, ih, String.ofList_cons]

theorem Cuts.valid (cuts : Cuts text offset) :
    String.Pos.Raw.IsValid (String.ofList text) ⟨offset⟩ := by
  obtain ⟨before, rest, rfl, rfl⟩ := cuts
  rw [String.Pos.Raw.isValid_iff_exists_append]
  refine ⟨String.ofList before, String.ofList rest, String.ofList_append, ?_⟩
  rw [bytes_eq_utf8ByteSize]
  rfl

end Text

namespace CharClass
open Text (Cuts)

-- What a check that breaks off has met.
inductive Mishap where
  | belowZero
  | noBoundary (offset : Nat)
  deriving DecidableEq

-- The scan for the closing bracket, where the counter of open brackets has to be above zero to go down.
def countedBracket? (depth : Nat) (atStart : Bool) (offset : Nat) : Text → Except Mishap (Option Nat)
  | [] => .ok none
  | '\\' :: [] => .ok none
  | '\\' :: c :: rest => countedBracket? depth false (offset + 1 + c.utf8Size) rest
  | c :: rest =>
    if c = '[' then countedBracket? (depth + 1) true (offset + 1) rest
    else if c = '^' && atStart then countedBracket? depth true (offset + 1) rest
    else if c = ']' && !atStart then
      match depth with
      | 0 => .error .belowZero
      | 1 => .ok (some offset)
      | depth + 1 => countedBracket? depth false (offset + 1) rest
    else countedBracket? depth false (offset + c.utf8Size) rest

def countedBytes (text : Text) : Except Mishap (Except ClassError Nat) :=
  match text with
  | '[' :: _ => do
    match ← countedBracket? 0 false 0 text with
    | some offset => return .ok (offset + 1)
    | none => return .error (.notAClass text)
  | _ => return atomBytes text

-- What follows an offset, which has to be a boundary between two characters.
def restAfter (offset : Nat) (text : Text) : Except Mishap Text :=
  match Text.splitAtByte? offset text with
  | some (_, rest) => .ok rest
  | none => .error (.noBoundary offset)

def verdict (text : Text) : Text → Except ClassError CharClass
  | c :: _ => .error (if quantifiers.contains c then .quantified text c else .notAClass text)
  | [] =>
    match Pattern.readWithin defaultNestLimit text with
    | .ok _ => .ok ⟨text⟩
    | .error cause => .error (.malformed text cause)

def checkedOfText (text : Text) : Except Mishap (Except ClassError CharClass) := do
  match ← countedBytes text with
  | .error cause => return .error cause
  | .ok bytes => return verdict text (← restAfter bytes text)

section
variable {depth offset k : Nat} {atStart : Bool} {text body : Text} {c : Char}

theorem closingBracket?_cons {rest : Text} (noEscape : c ≠ '\\') :
    closingBracket? depth atStart offset (c :: rest) =
      if c = '[' then closingBracket? (depth + 1) true (offset + 1) rest
      else if c = '^' && atStart then closingBracket? depth true (offset + 1) rest
      else if c = ']' && !atStart then
        if depth ≤ 1 then some offset else closingBracket? (depth - 1) false (offset + 1) rest
      else closingBracket? depth false (offset + c.utf8Size) rest := by
  rw [closingBracket?]
  · exact fun equal => absurd equal noEscape
  · exact fun _ _ equal => absurd equal noEscape

-- Inside a bracket the counter is above zero, and the scan ends where it would come down to zero.
theorem countedBracket?_inside (inside : 0 < depth) :
    countedBracket? depth atStart offset text = .ok (closingBracket? depth atStart offset text) := by
  fun_induction countedBracket? depth atStart offset text with
  | case1 | case2 => rfl
  | case3 depth atStart offset c rest ih => exact ih inside
  | case4 depth atStart offset rest short long ih =>
    rw [ih (Nat.succ_pos depth)]
    rfl
  | case5 depth atStart offset c rest short long noOpening caret ih =>
    rw [ih inside, closingBracket?_cons (lone short long), if_neg noOpening, if_pos caret]
  | case6 => cases inside
  | case7 atStart offset c rest short long noOpening noCaret closing =>
    rw [closingBracket?_cons (lone short long), if_neg noOpening, if_neg noCaret, if_pos closing,
      if_pos (Nat.le_refl 1)]
  | case8 atStart offset c rest short long noOpening noCaret closing depth deep ih =>
    have still : 0 < depth := Nat.pos_of_ne_zero deep
    have above : ¬ depth + 1 ≤ 1 := Nat.not_le_of_lt (Nat.succ_lt_succ still)
    rw [ih still, closingBracket?_cons (lone short long), if_neg noOpening, if_neg noCaret,
      if_pos closing, if_neg above]
    rfl
  | case9 depth atStart offset c rest short long noOpening noCaret noClosing ih =>
    rw [ih inside, closingBracket?_cons (lone short long), if_neg noOpening, if_neg noCaret,
      if_neg noClosing]

theorem countedBracket?_opened (body : Text) :
    countedBracket? 0 false 0 ('[' :: body) = .ok (closingBracket? 0 false 0 ('[' :: body)) := by
  have inside : countedBracket? 1 true 1 body = .ok (closingBracket? 1 true 1 body) :=
    countedBracket?_inside Nat.one_pos
  exact inside

example : countedBracket? 0 false 0 [']'] = .error .belowZero := rfl

theorem countedBytes_eq (text : Text) : countedBytes text = .ok (atomBytes text) := by
  unfold countedBytes
  split
  · rename_i body
    rw [countedBracket?_opened, atomBytes]
    cases closingBracket? 0 false 0 ('[' :: body) <;> rfl
  · rfl

theorem atomBytes_cuts (measured : atomBytes text = .ok k) : Cuts text k := by
  obtain ⟨used, rest, split, place, _⟩ := measured_of_atomBytes measured
  exact ⟨used, rest, split, place.symm⟩

theorem ofText_cut {before rest : Text} (measured : atomBytes text = .ok k)
    (cut : Text.splitAtByte? k text = some (before, rest)) : ofText text = verdict text rest := by
  simp only [ofText, measured, bind, Except.bind, cut]
  cases rest with
  | nil => rfl
  | cons c rest =>
    simp only [verdict]
    split <;> rfl

theorem checkedOfText_eq (text : Text) : checkedOfText text = .ok (ofText text) := by
  unfold checkedOfText
  rw [countedBytes_eq]
  cases measured : atomBytes text with
  | error cause =>
    unfold ofText
    rw [measured]
    rfl
  | ok bytes =>
    obtain ⟨before, rest, _, _, cut⟩ := (atomBytes_cuts measured).split
    have after : restAfter bytes text = .ok rest := by rw [restAfter, cut]
    rw [ofText_cut measured cut]
    show (do return verdict text (← restAfter bytes text)) = _
    rw [after]
    rfl

-- No text breaks the check off. The counter is never taken below zero in a text that begins with a
-- bracket, and what is measured ends inside the text, between two of its characters.
theorem ofText_unbroken (text : Text) :
    checkedOfText text = .ok (ofText text) ∧
    (∀ body, text = '[' :: body →
      countedBracket? 0 false 0 text = .ok (closingBracket? 0 false 0 text)) ∧
    ∀ k, atomBytes text = .ok k → k ≤ Text.bytes text ∧
      String.Pos.Raw.IsValid (String.ofList text) ⟨k⟩ ∧
      ∃ before rest, text = before ++ rest ∧ Text.bytes before = k ∧
        Text.splitAtByte? k text = some (before, rest) := by
  refine ⟨checkedOfText_eq text, ?_, fun k measured => ?_⟩
  · rintro body rfl
    exact countedBracket?_opened body
  · have cuts := atomBytes_cuts measured
    exact ⟨cuts.le_bytes, cuts.valid, cuts.split⟩

-- A bracket in a bracket, with characters of two bytes in both and behind them.
theorem umlauts_unbroken : atomBytes "[ä[^]ö]]ü".toList = .ok 10 ∧
    countedBracket? 0 false 0 "[ä[^]ö]]ü".toList = .ok (some 9) ∧
    10 ≤ Text.bytes "[ä[^]ö]]ü".toList ∧
    String.Pos.Raw.IsValid (String.ofList "[ä[^]ö]]ü".toList) ⟨10⟩ ∧
    checkedOfText "[ä[^]ö]]ü".toList = .ok (ofText "[ä[^]ö]]ü".toList) := by
  have measured : atomBytes "[ä[^]ö]]ü".toList = .ok 10 := by rfl
  obtain ⟨checked, counted, places⟩ := ofText_unbroken "[ä[^]ö]]ü".toList
  obtain ⟨inside, valid, _⟩ := places 10 measured
  exact ⟨measured, counted _ rfl, inside, valid, checked⟩

end

end CharClass
end Typeahead
