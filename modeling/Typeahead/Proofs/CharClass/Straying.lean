import Typeahead.Proofs.CharClass.Scan

namespace Typeahead.CharClass
open Pattern (Plain Steady Atom SetOp Round ClassState ClassTree ReadsClass JoinsRange Ranges opened
  dashesFirst readEscape readMember operator? posixClass?)

-- What stands before the next character, as far as that character can be taken in two ways.
inductive Spot where
  | opening
  -- after `[^`, and after more `^`
  | negated
  | carets
  -- after a member that a range can begin with
  | member
  -- after such a member that makes an operator if it comes twice
  | half (c : Char)
  -- after such a member and a dash
  | dashed
  | apart
  deriving DecidableEq

namespace Spot

def atStart : Spot → Bool
  | .opening | .negated | .carets => true
  | _ => false

def beginsRange : Spot → Bool
  | .carets | .member | .half _ => true
  | _ => false

def afterCaret : Spot → Spot
  | .opening => .negated
  | .negated | .carets => .carets
  | _ => .member

def next (spot : Spot) (c : Char) : Spot :=
  if c = '[' then .opening
  else if c = ']' ∨ spot = .dashed ∨ spot = .half c then .apart
  else if c = '^' then spot.afterCaret
  else if c = '-' then if spot.beginsRange then .dashed else .apart
  else if c = '&' ∨ c = '~' then .half c
  else .member

def afterEscape (spot : Spot) : Spot := if spot = .dashed then .apart else .member

-- Here the reader ends a range, or closes a bracket, and the scan does not.
def parts (spot : Spot) (c : Char) : Bool := spot = .dashed && c = '[' || spot = .carets && c = ']'

end Spot

-- The characters of an escape are skipped together.
def strays : Spot → Nat → Text → Bool
  | _, _, [] => false
  | spot, skip + 1, _ :: rest => strays spot skip rest
  | spot, 0, c :: rest =>
    if c = '\\' then
      match readEscape rest with
      | .ok (_, after) => strays spot.afterEscape (rest.length - after.length) rest
      | .error _ => false
    else spot.parts c || strays (spot.next c) 0 rest

-- What may follow at a place where the reader begins to read.
def Spot.Fits (spot : Spot) (text : Text) : Prop :=
  match spot with
  | .opening => text.head? ≠ some '^' ∧ text.head? ≠ some ']' ∧ text.head? ≠ some '-'
  | .negated => text.head? ≠ some ']' ∧ text.head? ≠ some '-'
  | .carets | .member => ¬ JoinsRange text
  | .half c => ¬ JoinsRange text ∧ text.head? ≠ some c
  | .dashed => False
  | .apart => True

section
variable {spot : Spot} {text rest after : Text} {c : Char} {atom : Atom}

theorem strays_char (noEscape : c ≠ '\\') :
    strays spot 0 (c :: rest) = (spot.parts c || strays (spot.next c) 0 rest) := by
  rw [strays, if_neg noEscape]

theorem strays_skip (used : Text) :
    strays spot used.length (used ++ rest) = strays spot 0 rest := by
  induction used with
  | nil => rfl
  | cons c used ih => exact ih

theorem strays_escape (read : readEscape text = .ok (atom, rest)) :
    strays spot 0 ('\\' :: text) = strays spot.afterEscape 0 rest := by
  obtain ⟨_, c, tail, rfl, _, _⟩ := Pattern.readEscape_escaped read
  have length : (c :: tail ++ rest).length - rest.length = (c :: tail).length := by
    rw [List.length_append, Nat.add_sub_cancel]
  rw [strays, if_pos rfl, read]
  simp only [length]
  exact strays_skip (c :: tail)

-- From one place to another the scan keeps its count, and strays neither here nor there.
structure Onward (spot : Spot) (text : Text) (spot' : Spot) (rest : Text) : Prop where
  strays : strays spot 0 text = strays spot' 0 rest
  scan : ∀ depth, afterBracket? depth spot.atStart text = afterBracket? depth spot'.atStart rest

theorem Onward.refl (spot : Spot) (text : Text) : Onward spot text spot text := ⟨rfl, fun _ => rfl⟩

theorem Onward.trans {spot' spot'' : Spot} (first : Onward spot text spot' rest)
    (second : Onward spot' rest spot'' after) : Onward spot text spot'' after :=
  ⟨first.strays.trans second.strays, fun depth => (first.scan depth).trans (second.scan depth)⟩

theorem onward_escape (read : readEscape text = .ok (atom, rest)) :
    Onward spot ('\\' :: text) spot.afterEscape rest := by
  refine ⟨strays_escape read, fun depth => ?_⟩
  have started : spot.afterEscape.atStart = false := by
    unfold Spot.afterEscape
    split <;> rfl
  rw [scan_escape read, started]

theorem next_atStart (plain : Plain c) : (spot.next c).atStart = (spot.atStart && c = '^') := by
  obtain ⟨noOpening, noClosing, _⟩ := plain
  by_cases caret : c = '^'
  · subst caret
    cases spot with
    | half d => by_cases twice : d = '^' <;> simp [Spot.next, Spot.afterCaret, Spot.atStart, twice]
    | _ => rfl
  · have none : (spot.next c).atStart = false := by
      unfold Spot.next
      rw [if_neg noOpening]
      split
      · rfl
      · split
        · split <;> rfl
        · split <;> rfl
    simp [none, caret]

theorem onward_plain (plain : Plain c) : Onward spot (c :: rest) (spot.next c) rest := by
  refine ⟨?_, fun depth => ?_⟩
  · rw [strays_char plain.2.2]
    simp [Spot.parts, plain.1, plain.2.1]
  · rw [scan_plain plain, next_atStart plain]

theorem Spot.Fits.notDashed (fits : spot.Fits text) : spot ≠ .dashed := by
  intro equal
  subst equal
  exact fits

theorem Spot.Fits.next_member (fits : spot.Fits (c :: rest))
    (noOpening : c ≠ '[') (noClosing : c ≠ ']')
    (noDash : c ≠ '-') (noOperator : operator? (c :: rest) = none) :
    (spot.next c).beginsRange ∧ ∀ d, spot.next c = .half d → rest.head? ≠ some d := by
  have apart : ¬ (c = ']' ∨ spot = .dashed ∨ spot = .half c) := by
    intro either
    rcases either with closing | dashed | rfl
    · exact noClosing closing
    · exact fits.notDashed dashed
    · exact fits.2 rfl
  unfold Spot.next
  rw [if_neg noOpening, if_neg apart]
  by_cases caret : c = '^'
  · subst caret
    rw [if_pos rfl]
    cases spot with
    | opening => exact absurd rfl fits.1
    | _ => exact ⟨rfl, fun d equal => by cases equal⟩
  · rw [if_neg caret, if_neg noDash]
    split
    · rename_i twice
      refine ⟨rfl, fun d equal again => ?_⟩
      obtain rfl := Spot.half.inj equal
      obtain ⟨more, rfl⟩ := List.head?_eq_some_iff.mp again
      rcases twice with rfl | rfl
      · cases noOperator
      · cases noOperator
    · exact ⟨rfl, fun d equal => by cases equal⟩

theorem Spot.next_dash_cases (spot : Spot) : spot.next '-' = .dashed ∨ spot.next '-' = .apart := by
  unfold Spot.next
  simp only [Char.reduceEq, if_false, if_true, false_or]
  split
  · exact .inr rfl
  · split
    · exact .inl rfl
    · exact .inr rfl

theorem onward_dash (fits : spot.Fits ('-' :: rest)) (noOperator : operator? ('-' :: rest) = none) :
    Onward spot ('-' :: rest) .apart rest := by
  have step : Onward spot ('-' :: rest) (spot.next '-') rest := onward_plain (by decide)
  cases spot.next_dash_cases with
  | inl range =>
    rw [range] at step
    refine step.trans ⟨?_, fun _ => rfl⟩
    have noRange : ¬ JoinsRange ('-' :: rest) := by
      cases spot with
      | carets | member => exact fits
      | half d => exact fits.1
      | dashed => exact fits.elim
      | _ => cases range
    cases rest with
    | nil => rfl
    | cons c rest =>
      have closing : c = ']' := by
        by_contra other
        refine noRange ⟨c :: rest, rfl, by simpa using other, ?_⟩
        intro dash
        obtain rfl : c = '-' := by simpa using dash
        cases noOperator
      rw [closing, strays_char (by decide), strays_char (by decide)]
      rfl
  | inr apart => rwa [apart] at step

theorem onward_member (fits : spot.Fits text) (noOpening : text.head? ≠ some '[')
    (noClosing : text.head? ≠ some ']') (noOperator : operator? text = none)
    (read : readMember .usual text = .ok (atom, rest)) :
    ∃ spot', Onward spot text spot' rest ∧ (spot' = .apart ∧ text = '-' :: rest ∨ spot'.beginsRange ∧
      ∀ d, spot' = .half d → rest.head? ≠ some d) := by
  rcases Pattern.readMember_cases read with ⟨after, rfl, escape⟩ | ⟨c, noEscape, rfl, rfl⟩
  · have member : spot.afterEscape = .member := by
      unfold Spot.afterEscape
      rw [if_neg]
      intro equal
      subst equal
      exact fits
    exact ⟨_, onward_escape escape, .inr (by simp [member, Spot.beginsRange])⟩
  · by_cases dash : c = '-'
    · subst dash
      exact ⟨.apart, onward_dash fits noOperator, .inl ⟨rfl, rfl⟩⟩
    · have other : c ≠ '[' ∧ c ≠ ']' := by simpa using And.intro noOpening noClosing
      exact ⟨_, onward_plain ⟨other.1, other.2, noEscape⟩,
        .inr (fits.next_member other.1 other.2 dash noOperator)⟩

theorem onward_dashes (text : Text) : Onward .apart text .apart (text.dropWhile (· = '-')) := by
  induction text with
  | nil => exact .refl _ _
  | cons c text ih =>
    by_cases dash : c = '-'
    · subst dash
      exact (onward_plain (by decide)).trans ih
    · rw [List.dropWhile_cons_of_neg (by simpa using dash)]
      exact .refl _ _

theorem onward_dashesFirst (negated : Bool) (opens : spot = .opening ∨ spot = .negated)
    (noCaret : spot = .opening → text.head? ≠ some '^') :
    ∃ spot', spot'.Fits (dashesFirst negated text).2 ∧
      Onward spot text spot' (dashesFirst negated text).2 := by
  have start : spot.atStart = true := by rcases opens with rfl | rfl <;> rfl
  unfold dashesFirst
  split
  · rename_i rest
    refine ⟨.apart, trivial, ?_, fun depth => ?_⟩
    · rcases opens with rfl | rfl <;> exact strays_char (by decide)
    · rw [start, scan_literal]
      rfl
  · rename_i noClosing
    cases text with
    | nil =>
      refine ⟨spot, ?_, .refl _ _⟩
      rcases opens with rfl | rfl <;> simp [Spot.Fits]
    | cons c text =>
      by_cases dash : c = '-'
      · subst dash
        have first : Onward spot ('-' :: text) .apart text := by
          rcases opens with rfl | rfl <;> exact onward_plain (by decide)
        exact ⟨.apart, trivial, first.trans (onward_dashes text)⟩
      · have other : c ≠ ']' := by
          intro equal
          subst equal
          exact noClosing _ rfl
        rw [List.dropWhile_cons_of_neg (by simpa using dash)]
        refine ⟨spot, ?_, .refl _ _⟩
        rcases opens with rfl | rfl
        · exact ⟨noCaret rfl, by simpa using other, by simpa using dash⟩
        · exact ⟨by simpa using other, by simpa using dash⟩

theorem onward_opened (text : Text) :
    ∃ spot, spot.Fits (opened text).2 ∧ Onward .opening text spot (opened text).2 := by
  by_cases caret : text.head? = some '^'
  · obtain ⟨text, rfl⟩ := List.head?_eq_some_iff.mp caret
    have inside : ∃ spot, spot.Fits (dashesFirst true text).2 ∧
        Onward .negated text spot (dashesFirst true text).2 :=
      onward_dashesFirst true (.inr rfl) nofun
    obtain ⟨spot, fits, onward⟩ := inside
    exact ⟨spot, fits, (onward_plain (by decide)).trans onward⟩
  · have bare : opened text = dashesFirst false text := by
      cases text with
      | nil => rfl
      | cons c text => exact Pattern.opened_bare (by simpa using caret) text
    rw [bare]
    exact onward_dashesFirst false (.inl rfl) fun _ => caret

theorem onward_steady {used : Text} (steady : ∀ c ∈ used, Steady c) :
    Onward .member (used ++ rest) .member rest := by
  induction used with
  | nil => exact .refl _ _
  | cons c used ih =>
    obtain ⟨first, others⟩ := List.forall_mem_cons.mp steady
    obtain ⟨plain, noDash, noAnd, noTilde⟩ := first
    have next : Spot.member.next c = .member := by
      simp [Spot.next, Spot.afterCaret, plain.1, plain.2.1, noDash, noAnd, noTilde]
    have step : Onward .member (c :: (used ++ rest)) (Spot.member.next c) (used ++ rest) :=
      onward_plain plain
    rw [next] at step
    exact step.trans (ih others)

theorem onward_opening (notDashed : spot ≠ .dashed) (depth : Nat) :
    strays spot 0 ('[' :: text) = strays .opening 0 text ∧
      afterBracket? depth spot.atStart ('[' :: text) = afterBracket? (depth + 1) true text := by
  refine ⟨?_, scan_opening⟩
  rw [strays_char (by decide)]
  simp [Spot.parts, Spot.next, notDashed]

-- What the scan will leave, where it stands at the text of a state and counts more.
def Behind (a : ClassState) (scanned : Option Text) : Prop :=
  ∃ depth atStart, a.depth < depth ∧ scanned = afterBracket? depth atStart a.text

theorem scan_member (noOpening : text.head? ≠ some '[') (noClosing : text.head? ≠ some ']')
    (read : readMember .usual text = .ok (atom, rest)) (atStart : Bool) :
    ∃ atStart', ∀ depth, afterBracket? depth atStart text = afterBracket? depth atStart' rest := by
  rcases Pattern.readMember_cases read with ⟨after, rfl, escape⟩ | ⟨c, noEscape, rfl, rfl⟩
  · exact ⟨false, fun depth => scan_escape escape⟩
  · have plain : Plain c := ⟨by simpa using noOpening, by simpa using noClosing, noEscape⟩
    exact ⟨_, fun depth => scan_plain plain⟩

variable {a b : ClassState} {tree : ClassTree} {scanned : Option Text}

-- The end of a range is the one bracket that the scan counts and the reader does not.
theorem scan_rangeEnd (noClosing : text.head? ≠ some ']')
    (read : readMember .usual text = .ok (atom, rest))
    (depth : Nat) (atStart : Bool) :
    ∃ depth' atStart', depth ≤ depth' ∧
      afterBracket? depth atStart text = afterBracket? depth' atStart' rest := by
  by_cases opening : text.head? = some '['
  · obtain ⟨after, rfl⟩ := List.head?_eq_some_iff.mp opening
    obtain rfl : after = rest := by
      rcases Pattern.readMember_cases read with ⟨_, equal, _⟩ | ⟨_, _, equal, _⟩
      · cases equal
      · exact (List.cons.inj equal).2
    exact ⟨depth + 1, true, Nat.le_succ _, scan_opening⟩
  · obtain ⟨atStart', scan⟩ := scan_member opening noClosing read atStart
    exact ⟨depth, atStart', Nat.le_refl _, scan depth⟩

theorem scan_named {inside : Text} (steady : ∀ c ∈ inside, Steady c) (depth : Nat)
    (atStart : Bool) :
    afterBracket? (depth + 1) atStart ('[' :: (':' :: inside ++ ':' :: ']' :: rest)) =
      afterBracket? (depth + 1) false rest := by
  have plain : ∀ c ∈ inside ++ [':'], Plain c := by
    intro c member
    cases List.mem_append.mp member with
    | inl member => exact (steady c member).1
    | inr member =>
      obtain rfl := List.mem_singleton.mp member
      decide
  have split : ':' :: inside ++ ':' :: ']' :: rest = ':' :: (inside ++ [':'] ++ ']' :: rest) := by simp
  rw [split, scan_opening, scan_plain (by decide)]
  exact (scan_allPlain plain).trans (scan_closing (by omega))

theorem scan_operator {op : SetOp} (found : operator? text = some (op, rest)) (depth : Nat)
    (atStart : Bool) :
    afterBracket? depth atStart text = afterBracket? depth false rest := by
  obtain ⟨c, sign, rfl⟩ := Pattern.operator?_eq found
  simp only [List.mem_cons, List.not_mem_nil, or_false] at sign
  rcases sign with rfl | rfl | rfl
  all_goals
    rw [scan_plain (by decide), scan_plain (by decide)]
    simp

theorem Behind.round (round : Round a b) (behind : Behind a scanned) : Behind b scanned := by
  obtain ⟨depth, atStart, more, rfl⟩ := behind
  cases round with
  | named found =>
    obtain ⟨_, inside, rfl, steady, _⟩ := Pattern.posixClass?_named found
    obtain ⟨depth, rfl⟩ : ∃ n, depth = n + 1 := ⟨depth - 1, by omega⟩
    exact ⟨depth + 1, false, more, scan_named steady depth atStart⟩
  | enter unnamed =>
    obtain ⟨spot, _, onward⟩ := onward_opened _
    exact ⟨depth + 1, spot.atStart, Nat.succ_lt_succ more, scan_opening.trans (onward.scan _)⟩
  | leave =>
    simp only [ClassState.depth, List.length_cons] at more
    cases atStart with
    | true => exact ⟨depth, false, by simp only [ClassState.depth]; omega, scan_literal⟩
    | false => exact ⟨depth - 1, false, by simp only [ClassState.depth]; omega, scan_closing (by omega)⟩
  | operator op found => exact ⟨depth, false, more, scan_operator found depth atStart⟩
  | member noOpening noClosing noOperator ranges =>
    cases ranges with
    | lone first set lone =>
      obtain ⟨atStart', scan⟩ := scan_member noOpening noClosing first atStart
      exact ⟨depth, atStart', more, scan depth⟩
    | range first joins last rising =>
      obtain ⟨atStart', scan⟩ := scan_member noOpening noClosing first atStart
      obtain ⟨_, equal, closing, _⟩ := joins
      obtain rfl := (List.cons.inj equal).2
      obtain ⟨depth', atStart'', deeper, scan'⟩ :=
        scan_rangeEnd closing last depth (atStart' && '-' = '^')
      refine ⟨depth', atStart'', Nat.lt_of_lt_of_le more deeper, ?_⟩
      rw [scan depth, scan_plain (by decide)]
      exact scan'

theorem Behind.unclosed {rest : List Char} (reads : ReadsClass a tree rest)
    (behind : Behind a scanned) (ends : rest = []) : scanned = none := by
  induction reads with
  | done =>
    obtain ⟨depth, atStart, more, rfl⟩ := behind
    subst ends
    cases atStart with
    | true => rw [scan_literal]; rfl
    | false => rw [scan_closing more]; rfl
  | round first _ ih => exact ih (behind.round first) ends

structure Level (spot : Spot) (a : ClassState) (scanned : Option Text) : Prop where
  fits : spot.Fits a.text
  scan : scanned = afterBracket? a.depth spot.atStart a.text

theorem strays_named {inside : Text} (steady : ∀ c ∈ inside, Steady c) :
    strays .opening 0 (':' :: inside ++ ':' :: ']' :: rest) = strays .apart 0 rest := by
  have name : Onward .opening (':' :: (inside ++ ':' :: ']' :: rest)) .member (']' :: rest) := by
    have first : Onward .opening (':' :: (inside ++ ':' :: ']' :: rest)) .member
        (inside ++ ':' :: ']' :: rest) :=
      onward_plain (by decide)
    have last : Onward .member (':' :: ']' :: rest) .member (']' :: rest) := onward_plain (by decide)
    exact first.trans ((onward_steady steady).trans last)
  exact name.strays.trans (strays_char (by decide))

theorem strays_operator {op : SetOp} (fits : spot.Fits text)
    (found : operator? text = some (op, rest)) :
    strays spot 0 text = strays .apart 0 rest := by
  obtain ⟨c, sign, rfl⟩ := Pattern.operator?_eq found
  have other : spot ≠ .dashed ∧ spot ≠ .half c := by
    refine ⟨fits.notDashed, fun equal => ?_⟩
    subst equal
    exact fits.2 rfl
  simp only [List.mem_cons, List.not_mem_nil, or_false] at sign
  have apart : (spot.next c).next c = .apart := by
    rcases sign with rfl | rfl | rfl
    · simp [Spot.next, other]
    · cases spot.next_dash_cases with
      | inl equal =>
        rw [equal]
        rfl
      | inr equal =>
        rw [equal]
        rfl
    · simp [Spot.next, other]
  have plain : Plain c := by rcases sign with rfl | rfl | rfl <;> decide
  rw [(onward_plain plain).strays, (onward_plain plain).strays, apart]

theorem Spot.Fits.of_begins (begins : spot.beginsRange) (lone : ¬ JoinsRange text)
    (single : ∀ d, spot = .half d → text.head? ≠ some d) : spot.Fits text := by
  cases spot with
  | carets | member => exact lone
  | half d => exact ⟨lone, single d rfl⟩
  | _ => cases begins

theorem next_dash (begins : spot.beginsRange) (single : ∀ d, spot = .half d → d ≠ '-') :
    spot.next '-' = .dashed := by
  cases spot with
  | carets | member => rfl
  | half d =>
    have other := single d rfl
    simp [Spot.next, other, Spot.beginsRange]
  | _ => cases begins

theorem rangeEnd_cases (noClosing : text.head? ≠ some ']')
    (read : readMember .usual text = .ok (atom, rest)) :
    Onward .dashed text .apart rest ∨ text = '[' :: rest := by
  rcases Pattern.readMember_cases read with ⟨after, rfl, escape⟩ | ⟨c, noEscape, rfl, rfl⟩
  · exact .inl (onward_escape escape)
  · by_cases opening : c = '['
    · exact .inr (by rw [opening])
    · have step : Onward .dashed (c :: rest) (Spot.dashed.next c) rest :=
        onward_plain ⟨opening, by simpa using noClosing, noEscape⟩
      have apart : Spot.dashed.next c = .apart := by simp [Spot.next, opening]
      rw [apart] at step
      exact .inl step

theorem Spot.Fits.closing (fits : spot.Fits (']' :: rest)) (closes : spot ≠ .carets) :
    spot.atStart = false ∧ strays spot 0 (']' :: rest) = strays .apart 0 rest := by
  constructor
  · cases spot with
    | opening => exact absurd rfl fits.2.1
    | negated => exact absurd rfl fits.1
    | carets => exact absurd rfl closes
    | _ => rfl
  · rw [strays_char (by decide)]
    simp [Spot.parts, closes, Spot.next]

theorem onward_rangeDash (fits : spot.Fits text) (noOpening : text.head? ≠ some '[')
    (noClosing : text.head? ≠ some ']') (noOperator : operator? text = none)
    (first : readMember .usual text = .ok (atom, '-' :: after)) :
    Onward spot text .dashed after := by
  obtain ⟨spot', onward, either⟩ := onward_member fits noOpening noClosing noOperator first
  rcases either with ⟨_, rfl⟩ | ⟨begins, single⟩
  · cases noOperator
  · have step : Onward spot' ('-' :: after) (spot'.next '-') after := onward_plain (by decide)
    rw [next_dash begins fun d half equal => single d half (by rw [equal]; rfl)] at step
    exact onward.trans step

theorem Level.round (round : Round a b) (level : Level spot a scanned) :
    (∃ spot', Level spot' b scanned ∧ strays spot 0 a.text = strays spot' 0 b.text) ∨
      Behind b scanned ∧ strays spot 0 a.text = true := by
  obtain ⟨fits, rfl⟩ := level
  cases round with
  | named found =>
    obtain ⟨_, inside, rfl, steady, _⟩ := Pattern.posixClass?_named found
    exact .inl ⟨.apart, ⟨trivial, scan_named steady _ _⟩,
      (onward_opening fits.notDashed 0).1.trans (strays_named steady)⟩
  | enter unnamed =>
    rename_i text inner outer
    obtain ⟨spot', fits', onward⟩ := onward_opened text
    obtain ⟨same, scan⟩ := @onward_opening spot text fits.notDashed (outer.length + 1)
    exact .inl ⟨spot', ⟨fits', scan.trans (onward.scan _)⟩, same.trans onward.strays⟩
  | leave =>
    by_cases literal : spot = .carets
    · -- the bracket stands for itself to the scan
      subst literal
      exact .inr ⟨⟨_, false, Nat.lt_succ_self _, scan_literal⟩, strays_char (by decide)⟩
    · obtain ⟨closed, same⟩ := fits.closing literal
      refine .inl ⟨.apart, ⟨trivial, ?_⟩, same⟩
      rw [closed]
      exact scan_closing (by simp [ClassState.depth])
  | operator op found =>
    exact .inl ⟨.apart, ⟨trivial, scan_operator found _ _⟩, strays_operator fits found⟩
  | member noOpening noClosing noOperator ranges =>
    cases ranges with
    | lone first set lone =>
      obtain ⟨spot', onward, either⟩ := onward_member fits noOpening noClosing noOperator first
      refine .inl ⟨spot', ⟨?_, onward.scan _⟩, onward.strays⟩
      rcases either with ⟨rfl, _⟩ | ⟨begins, single⟩
      · trivial
      · exact .of_begins begins lone single
    | range first joins last rising =>
      obtain ⟨_, equal, closing, _⟩ := joins
      obtain rfl := (List.cons.inj equal).2
      have dash := onward_rangeDash fits noOpening noClosing noOperator first
      rcases rangeEnd_cases closing last with within | rfl
      · exact .inl ⟨.apart, ⟨trivial, (dash.trans within).scan _⟩, (dash.trans within).strays⟩
      · refine .inr ⟨⟨_, true, Nat.lt_succ_self _, (dash.scan _).trans scan_opening⟩, ?_⟩
        exact dash.strays.trans (strays_char (by decide))

-- The scan stops with the reader where it has not strayed. Where it has, it finds no end to a class
-- that ends the text.
theorem Level.stops {rest : List Char} (reads : ReadsClass a tree rest)
    (level : Level spot a scanned) :
    (strays spot 0 a.text = false → scanned = some rest) ∧
      (strays spot 0 a.text = true → rest = [] → scanned = none) := by
  induction reads generalizing spot with
  | done =>
    obtain ⟨fits, rfl⟩ := level
    rename_i rest inner
    by_cases literal : spot = .carets
    · -- the bracket stands for itself to the scan, which goes on
      subst literal
      have strayed : strays .carets 0 (']' :: rest) = true := strays_char (by decide)
      refine ⟨fun straight => ?_, fun _ ends => ?_⟩
      · rw [strayed] at straight
        cases straight
      · subst ends
        exact scan_literal
    · obtain ⟨closed, straight⟩ := fits.closing literal
      refine ⟨fun _ => by rw [closed]; exact scan_last, fun strayed ends => ?_⟩
      subst ends
      rw [straight] at strayed
      cases strayed
  | round first onward ih =>
    rcases level.round first with ⟨spot', level', same⟩ | ⟨behind, strayed⟩
    · rw [same]
      exact ih level'
    · rw [strayed]
      exact ⟨fun never => (nomatch never), fun _ ends => behind.unclosed onward ends⟩

theorem Level.reads {rest : List Char} (reads : ReadsClass a tree rest)
    (level : Level spot a (some [])) :
    rest = [] ↔ strays spot 0 a.text = false := by
  obtain ⟨stops, goesOn⟩ := level.stops reads
  constructor
  · intro ends
    by_contra strayed
    cases goesOn (by simpa using strayed) ends
  · intro straight
    exact (Option.some.inj (stops straight)).symm

end

end Typeahead.CharClass
