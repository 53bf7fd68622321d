import Typeahead.CharClass
import Typeahead.Proofs.Pattern.ClassRounds

namespace Typeahead.CharClass
open Pattern (Plain Steady Atom Round ClassState ReadsClass opened dashesFirst readEscape)

-- The scan with what it leaves behind the bracket, in place of the offset.
def afterBracket? (depth : Nat) (atStart : Bool) : Text → Option Text
  | [] => none
  | '\\' :: [] => none
  | '\\' :: _ :: rest => afterBracket? depth false rest
  | c :: rest =>
    if c = '[' then afterBracket? (depth + 1) true rest
    else if c = '^' && atStart then afterBracket? depth true rest
    else if c = ']' && !atStart then
      if depth ≤ 1 then some rest else afterBracket? (depth - 1) false rest
    else afterBracket? depth false rest

section
variable {depth : Nat} {atStart : Bool} {text rest after : Text} {c : Char}

theorem afterBracket?_cons (noEscape : c ≠ '\\') : afterBracket? depth atStart (c :: rest) =
    if c = '[' then afterBracket? (depth + 1) true rest
    else if c = '^' && atStart then afterBracket? depth true rest
    else if c = ']' && !atStart then
      if depth ≤ 1 then some rest else afterBracket? (depth - 1) false rest
    else afterBracket? depth false rest := by
  rw [afterBracket?]
  · exact fun equal => absurd equal noEscape
  · exact fun _ _ equal => absurd equal noEscape

-- The scan found a closing bracket at an offset, and this is what it leaves.
def Stops (stop offset : Nat) (scanned : Option Text) (text : Text) : Prop :=
  ∃ before rest, text = before ++ ']' :: rest ∧ stop = offset + Text.bytes before ∧ scanned = some rest

theorem Stops.later {stop offset : Nat} {scanned : Option Text} (head : Text)
    (stops : Stops stop (offset + Text.bytes head) scanned text) :
    Stops stop offset scanned (head ++ text) := by
  obtain ⟨before, rest, split, place, scan⟩ := stops
  refine ⟨head ++ before, rest, ?_, ?_, scan⟩
  · rw [split, List.append_assoc]
  · rw [place, Text.bytes_append, Nat.add_assoc]

theorem lone (short : c = '\\' → rest = [] → False)
    (long : ∀ d more, c = '\\' → rest = d :: more → False) : c ≠ '\\' := by
  intro equal
  cases rest with
  | nil => exact short equal rfl
  | cons d more => exact long d more equal rfl

theorem closingBracket?_stops {offset stop : Nat}
    (found : closingBracket? depth atStart offset text = some stop) :
    Stops stop offset (afterBracket? depth atStart text) text := by
  fun_induction closingBracket? depth atStart offset text with
  | case1 | case2 => cases found
  | case3 depth atStart offset c rest ih =>
    have stops := ih found
    rw [Nat.add_assoc] at stops
    exact stops.later ['\\', c]
  | case4 depth atStart offset rest short long ih =>
    exact (ih found).later ['[']
  | case5 depth atStart offset c rest short long noOpening caret ih =>
    obtain ⟨rfl, _⟩ : c = '^' ∧ atStart = true := by simpa using caret
    rw [afterBracket?_cons (lone short long), if_neg noOpening, if_pos caret]
    exact (ih found).later ['^']
  | case6 depth atStart offset c rest short long noOpening noCaret closing shallow =>
    obtain ⟨rfl, _⟩ : c = ']' ∧ atStart = false := by simpa using closing
    rw [afterBracket?_cons (lone short long), if_neg noOpening, if_neg noCaret, if_pos closing,
      if_pos shallow]
    cases found
    exact ⟨[], rest, rfl, rfl, rfl⟩
  | case7 depth atStart offset c rest short long noOpening noCaret closing deep ih =>
    obtain ⟨rfl, _⟩ : c = ']' ∧ atStart = false := by simpa using closing
    rw [afterBracket?_cons (lone short long), if_neg noOpening, if_neg noCaret, if_pos closing,
      if_neg deep]
    exact (ih found).later [']']
  | case8 depth atStart offset c rest short long noOpening noCaret noClosing ih =>
    rw [afterBracket?_cons (lone short long), if_neg noOpening, if_neg noCaret, if_neg noClosing]
    exact (ih found).later [c]

theorem closingBracket?_none {offset : Nat}
    (unclosed : closingBracket? depth atStart offset text = none) :
    afterBracket? depth atStart text = none := by
  fun_induction closingBracket? depth atStart offset text with
  | case1 | case2 => rfl
  | case3 depth atStart offset c rest ih => exact ih unclosed
  | case4 depth atStart offset rest short long ih => exact ih unclosed
  | case5 depth atStart offset c rest short long noOpening caret ih =>
    rw [afterBracket?_cons (lone short long), if_neg noOpening, if_pos caret]
    exact ih unclosed
  | case6 => cases unclosed
  | case7 depth atStart offset c rest short long noOpening noCaret closing deep ih =>
    rw [afterBracket?_cons (lone short long), if_neg noOpening, if_neg noCaret, if_pos closing,
      if_neg deep]
    exact ih unclosed
  | case8 depth atStart offset c rest short long noOpening noCaret noClosing ih =>
    rw [afterBracket?_cons (lone short long), if_neg noOpening, if_neg noCaret, if_neg noClosing]
    exact ih unclosed

theorem scan_opening :
    afterBracket? depth atStart ('[' :: rest) = afterBracket? (depth + 1) true rest := by
  rw [afterBracket?_cons (by decide), if_pos rfl]

theorem scan_literal : afterBracket? depth true (']' :: rest) = afterBracket? depth false rest := by
  rw [afterBracket?_cons (by decide)]
  rfl

theorem scan_closing (deep : 1 < depth) :
    afterBracket? depth false (']' :: rest) = afterBracket? (depth - 1) false rest := by
  rw [afterBracket?_cons (by decide)]
  exact if_neg (Nat.not_le.mpr deep)

theorem scan_last : afterBracket? 1 false (']' :: rest) = some rest := by
  rw [afterBracket?_cons (by decide)]
  rfl

theorem scan_plain (plain : Plain c) :
    afterBracket? depth atStart (c :: rest) = afterBracket? depth (atStart && c = '^') rest := by
  obtain ⟨noOpening, noClosing, noEscape⟩ := plain
  rw [afterBracket?_cons noEscape, if_neg noOpening]
  by_cases caret : c = '^'
  · cases atStart with
    | true => simp [caret]
    | false => simp [caret]
  · simp [caret, noClosing]

theorem scan_allPlain {used : Text} (plain : ∀ c ∈ used, Plain c) :
    afterBracket? depth false (used ++ rest) = afterBracket? depth false rest := by
  induction used with
  | nil => rfl
  | cons c used ih =>
    obtain ⟨first, others⟩ := List.forall_mem_cons.mp plain
    rw [List.cons_append, scan_plain first]
    exact ih others

theorem scan_escape {atom : Atom} (read : readEscape text = .ok (atom, rest)) :
    afterBracket? depth atStart ('\\' :: text) = afterBracket? depth false rest := by
  obtain ⟨_, c, tail, rfl, plain, _⟩ := Pattern.readEscape_escaped read
  exact scan_allPlain plain

theorem firstByteOf?_some {stop : Nat} (found : firstByteOf? c text = some stop) :
    ∃ before after, text = before ++ c :: after ∧ c ∉ before ∧ stop = Text.bytes before := by
  induction text generalizing stop with
  | nil => cases found
  | cons d text ih =>
    rw [firstByteOf?] at found
    split at found
    · rename_i here
      exact ⟨[], text, by rw [here]; rfl, by simp, (Option.some.inj found).symm⟩
    · rename_i other
      obtain ⟨stop', inner, rfl⟩ := Option.map_eq_some_iff.mp found
      obtain ⟨before, after, rfl, without, rfl⟩ := ih inner
      refine ⟨d :: before, after, rfl, ?_, Nat.add_comm _ _⟩
      intro member
      cases List.mem_cons.mp member with
      | inl equal => exact other equal.symm
      | inr member => exact without member

-- The characters that are measured as an escape on their own.
def isLone (c : Char) : Bool := "sSdDwW".toList.contains c || isPunctuation c

theorem isLone_ascii (lone : isLone c = true) : c.toNat < 128 := by
  simp only [isLone, Bool.or_eq_true] at lone
  cases lone with
  | inl letter =>
    have ascii : "sSdDwW".toList.all (·.toNat < 128) := by decide
    exact of_decide_eq_true (List.all_eq_true.mp ascii c (List.contains_iff_mem.mp letter))
  | inr sign =>
    simp only [isPunctuation, Bool.and_eq_true, decide_eq_true_eq] at sign
    omega

-- The atom that a text begins with, and what stands behind it.
inductive Measured : Text → Text → Prop
  | dot {rest : Text} : Measured ['.'] rest
  | bracket {body rest : Text} (scan : afterBracket? 1 true (body ++ rest) = some rest) :
      Measured ('[' :: body) rest
  | lone {c : Char} {rest : Text} (alone : isLone c) : Measured ['\\', c] rest
  | braced {c : Char} {name rest : Text} (property : c ∈ ['p', 'P']) (without : '}' ∉ name) :
      Measured ('\\' :: c :: '{' :: (name ++ ['}'])) rest
  | letter {c d : Char} {rest : Text} (property : c ∈ ['p', 'P']) (noBrace : d ≠ '{') :
      Measured ['\\', c, d] rest

theorem bytes_lone (alone : isLone c) : Text.bytes ['\\', c] = 2 := by
  have size : c.utf8Size = 1 := by
    rw [Char.utf8Size_eq_one_iff, UInt32.le_iff_toNat_le]
    exact Nat.le_of_lt_succ (isLone_ascii alone)
  simp only [Text.bytes, size]
  rfl

theorem bytes_letter (property : c ∈ ['p', 'P']) (d : Char) :
    Text.bytes ['\\', c, d] = 2 + d.utf8Size := by
  have size : c.utf8Size = 1 := by
    simp only [List.mem_cons, List.not_mem_nil, or_false] at property
    rcases property with rfl | rfl <;> rfl
  simp only [Text.bytes, size]
  rw [← Nat.add_assoc]
  rfl

theorem firstByteOf?_braced {stop : Nat} (property : c ∈ ['p', 'P'])
    (found : firstByteOf? '}' ('\\' :: c :: '{' :: text) = some stop) :
    ∃ name rest, text = name ++ '}' :: rest ∧ '}' ∉ name ∧
      stop + 1 = Text.bytes ('\\' :: c :: '{' :: (name ++ ['}'])) := by
  obtain ⟨before, rest, split, without, rfl⟩ := firstByteOf?_some found
  match before, split, without with
  | [], split, _ => cases split
  | [_], split, _ =>
    simp only [List.cons_append, List.nil_append, List.cons.injEq] at split
    rw [split.2.1] at property
    exact absurd property (by decide)
  | [_, _], split, _ =>
    simp only [List.cons_append, List.nil_append, List.cons.injEq] at split
    exact absurd split.2.2.1 (by decide)
  | _ :: _ :: _ :: name, split, without =>
    simp only [List.cons_append, List.cons.injEq] at split
    obtain ⟨rfl, rfl, rfl, rfl⟩ := split
    refine ⟨name, rest, rfl, fun member => without (by simp [member]), ?_⟩
    exact (Text.bytes_append ('\\' :: c :: '{' :: name) ['}']).symm

theorem measured_of_bracket {stop : Nat}
    (found : closingBracket? 0 false 0 ('[' :: text) = some stop) :
    ∃ body rest, text = body ++ rest ∧ stop + 1 = Text.bytes ('[' :: body) ∧
      Measured ('[' :: body) rest := by
  obtain ⟨before, rest, split, rfl, scan⟩ := closingBracket?_stops found
  rw [scan_opening] at scan
  cases before with
  | nil => cases split
  | cons _ before =>
    obtain ⟨rfl, rfl⟩ := List.cons.inj split
    refine ⟨before ++ [']'], rest, by simp, ?_, .bracket (by simpa using scan)⟩
    rw [Nat.zero_add]
    exact (Text.bytes_append ('[' :: before) [']']).symm

-- The measure is that of a whole number of characters, and they are an atom.
theorem measured_of_atomBytes {bytes : Nat} (found : atomBytes text = .ok bytes) :
    ∃ used rest, text = used ++ rest ∧ bytes = Text.bytes used ∧ Measured used rest := by
  unfold atomBytes at found
  split at found
  · cases found
  · cases found
    exact ⟨['.'], _, rfl, rfl, .dot⟩
  · split at found
    · rename_i stop closed
      cases found
      obtain ⟨body, rest, rfl, bytes, measured⟩ := measured_of_bracket closed
      exact ⟨'[' :: body, rest, rfl, bytes, measured⟩
    · cases found
  · rename_i c text
    split at found
    · rename_i letter
      cases found
      have alone : isLone c := by rw [isLone, letter, Bool.true_or]
      exact ⟨['\\', c], text, rfl, (bytes_lone alone).symm, .lone alone⟩
    · split at found
      · rename_i either
        have property : c ∈ ['p', 'P'] := by simpa using either
        split at found
        · split at found
          · rename_i stop closed
            cases found
            obtain ⟨name, rest, rfl, without, bytes⟩ := firstByteOf?_braced property closed
            exact ⟨'\\' :: c :: '{' :: (name ++ ['}']), rest, by simp, bytes,
              .braced property without⟩
          · cases found
        · rename_i d rest noBrace
          split at found
          · cases found
            exact ⟨['\\', c, d], rest, rfl, (bytes_letter property d).symm,
              .letter property noBrace⟩
          · cases found
        · cases found
      · split at found
        · rename_i sign
          cases found
          have alone : isLone c := by rw [isLone, sign, Bool.or_true]
          exact ⟨['\\', c], text, rfl, (bytes_lone alone).symm, .lone alone⟩
        · cases found
  · cases found

structure Accepted (text : Text) (made : CharClass) : Prop where
  covers : ∃ bytes kept, atomBytes text = .ok bytes ∧ Text.splitAtByte? bytes text = some (kept, [])
  reads : ∃ parsed, Pattern.read text = .ok parsed
  made : made = ⟨text⟩

theorem accepted_of_ofText {made : CharClass} (accepted : ofText text = .ok made) :
    Accepted text made := by
  unfold ofText at accepted
  obtain ⟨bytes, measured, accepted⟩ := Pattern.bind_eq_ok accepted
  split at accepted
  · split at accepted
    · cases accepted
    · cases accepted
  · cases accepted
  · rename_i kept cut
    split at accepted
    · rename_i parsed within
      refine ⟨⟨bytes, kept, measured, cut⟩, ?_, (Except.ok.inj accepted).symm⟩
      obtain ⟨parsed, read, _⟩ := Pattern.bind_eq_ok within
      exact ⟨parsed, read⟩
    · cases accepted

theorem Accepted.measured {made : CharClass} (accepted : Accepted text made) : Measured text [] := by
  obtain ⟨bytes, kept, found, cut⟩ := accepted.covers
  obtain ⟨used, rest, rfl, rfl, measured⟩ := measured_of_atomBytes found
  rw [Text.splitAtByte?_bytes] at cut
  obtain rfl : rest = [] := (Prod.mk.inj (Option.some.inj cut)).2
  rwa [List.append_nil]

theorem Accepted.scan {body : Text} {made : CharClass} (accepted : Accepted ('[' :: body) made) :
    afterBracket? 1 true body = some [] := by
  cases accepted.measured with
  | bracket scan => rwa [List.append_nil] at scan

end

end Typeahead.CharClass
