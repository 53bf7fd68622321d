import Typeahead.Proofs.CharClass.OneCharacter

namespace Typeahead

namespace Pattern

-- What can no longer end as one bracket.
inductive Reading.Busy : Reading → Prop
  | opened (some' : r.outer ≠ []) : Busy r
  | branched (some' : r.branches ≠ []) : Busy r
  | several (two : 2 ≤ r.items.length) : Busy r
  | other (only : r.items = [item]) (noBracket : ∀ negated inner, item ≠ .bracket negated inner) :
      Busy r

section
variable {r r' : Reading} {token : Token} {tree : Tree} {text rest body : List Char}
  {fuel : Nat} {negated : Bool} {inner : ClassTree} {parsed : Parsed}

namespace Reading

theorem busy_opening {name : Option (List Char)} (fed : r.feed (.opening name) = .ok r') :
    r'.Busy := by
  simp only [feed] at fed
  split at fed
  · cases fed
  · cases fed
    exact .opened (by simp)

theorem busy_items {before : List Tree} (items : r.items = tree :: before)
    (noBracket : before = [] → ∀ negated inner, tree ≠ .bracket negated inner) : r.Busy := by
  cases before with
  | nil => exact .other items (noBracket rfl)
  | cons item before => exact .several (by rw [items]; simp)

theorem Busy.feed (busy : r.Busy) (fed : r.feed token = .ok r') : r'.Busy := by
  cases token with
  | item tree =>
    cases fed
    cases busy with
    | opened some' => exact .opened some'
    | branched some' => exact .branched some'
    | several two => exact .several (Nat.le_succ_of_le two)
    | other only _ => exact .several (by simp [push, only])
  | plainOpening =>
    cases fed
    exact .opened (by simp)
  | opening name => exact busy_opening fed
  | closing =>
    -- what a group holds ends as a group
    simp only [Reading.feed] at fed
    split at fed
    · cases fed
    · cases fed
      refine busy_items rfl fun _ negated inner => ?_
      split <;> simp
  | bar =>
    cases fed
    exact .branched (by simp)
  | times least most greedy =>
    simp only [Reading.feed] at fed
    split at fed
    · cases fed
    · cases fed
      exact busy_items rfl (by simp)

theorem busy_behind (fed : (start.push (.bracket negated inner)).feed token = .ok r') : r'.Busy := by
  cases token with
  | item tree =>
    cases fed
    exact .several (by simp [start, push])
  | plainOpening =>
    cases fed
    exact .opened (by simp)
  | opening name => exact busy_opening fed
  | closing => cases fed
  | bar =>
    cases fed
    exact .branched (by simp)
  | times least most greedy =>
    cases fed
    exact busy_items rfl (by simp)

theorem feed_start (fed : start.feed token = .ok r') :
    r'.Busy ∨ ∃ negated inner, token = .item (.bracket negated inner) ∧
      r' = start.push (.bracket negated inner) := by
  cases token with
  | item tree =>
    cases fed
    cases tree with
    | bracket negated inner => exact .inr ⟨negated, inner, rfl, rfl⟩
    | _ => exact .inl (busy_items rfl (by simp))
  | plainOpening =>
    cases fed
    exact .inl (.opened (by simp))
  | opening name => exact .inl (busy_opening fed)
  | closing => cases fed
  | bar =>
    cases fed
    exact .inl (.branched (by simp))
  | times least most greedy => cases fed

theorem Busy.loop (busy : r.Busy) (read : readLoop fuel r text = .ok r') : r'.Busy := by
  induction fuel generalizing r text with
  | zero =>
    cases read
    exact busy
  | succ fuel ih =>
    obtain ⟨found, _, read⟩ := bind_eq_ok read
    cases found with
    | none =>
      cases read
      exact busy
    | some next =>
      obtain ⟨fed, feeds, read⟩ := bind_eq_ok read
      exact ih (busy.feed feeds) read

theorem Busy.inside_ne (busy : r.Busy) (closed : r.outer = []) :
    r.inside ≠ .bracket negated inner := by
  by_cases branched : r.branches = []
  · have one : r.inside = Tree.ofItems r.items.reverse := by
      rw [inside, branched]
      rfl
    rw [one]
    cases busy with
    | opened some' => exact absurd closed some'
    | branched some' => exact absurd branched some'
    | several two =>
      intro equal
      unfold Tree.ofItems at equal
      split at equal
      · cases equal
      · rename_i one
        have short := congrArg List.length one
        simp at short
        omega
      · cases equal
    | other only noBracket =>
      rw [only]
      exact noBracket negated inner
  · intro equal
    unfold inside Tree.ofBranches at equal
    split at equal
    · rename_i one
      exact branched (by simpa using congrArg List.length one)
    · cases equal

end Reading

theorem readToken_none (ended : readToken .usual fuel text = .ok none) : text = [] := by
  have never : ∀ {α : Type} {read : Except ReadError α} {f : α → Option (Token × List Char)},
      (∀ x, f x ≠ none) → read.map f ≠ .ok none := by
    intro α read f some' equal
    obtain ⟨x, _, none⟩ := map_eq_ok equal
    exact some' x none
  unfold readToken at ended
  split at ended
  · rfl
  · exact absurd ended (never (by simp))
  · cases ended
  · cases ended
  · refine absurd ended (never fun ⟨tree, rest⟩ => ?_)
    cases tree <;> simp
  · cases ended
  · cases ended
  · cases ended
  · exact absurd ended (never (by simp))
  · cases ended
  · cases ended
  · cases ended
  · exact absurd ended (never (by simp))
  · cases ended

theorem readToken_bracket
    (read : readToken .usual fuel text = .ok (some (.item (.bracket negated inner), rest))) :
    ∃ body, text = '[' :: body ∧
      (body.length < fuel → readClass .usual fuel body = .ok (.bracket negated inner, rest)) := by
  unfold readToken at read
  split at read
  · cases read
  · obtain ⟨_, opening, equal⟩ := map_eq_ok read
    obtain rfl := Option.some.inj equal
    exact (readOpening_no_item opening).elim
  · cases read
  · cases read
  · rename_i body
    obtain ⟨⟨tree, rest'⟩, found, equal⟩ := map_eq_ok read
    refine ⟨body, rfl, fun enough => ?_⟩
    obtain ⟨negated', inner', rfl⟩ := ((readClass_iff enough).mp found).bracket
    cases equal
    exact found
  · exact (timesToken_no_item (Option.some.inj (Except.ok.inj read))).elim
  · exact (timesToken_no_item (Option.some.inj (Except.ok.inj read))).elim
  · exact (timesToken_no_item (Option.some.inj (Except.ok.inj read))).elim
  · obtain ⟨_, counted, equal⟩ := map_eq_ok read
    obtain rfl := Option.some.inj equal
    exact (readCounted_no_item counted).elim
  · cases read
  · cases read
  · cases read
  · obtain ⟨⟨atom, _⟩, _, equal⟩ := map_eq_ok read
    cases atom <;> cases equal
  · cases read

-- A pattern that is one bracket from its first character to its last.
theorem readsClass_of_read (read : Pattern.read text = .ok parsed)
    (bracket : parsed.tree = .bracket negated inner) :
    ∃ body, text = '[' :: body ∧
      ReadsClass ⟨(opened body).1, [], (opened body).2⟩ (.bracket negated inner) [] := by
  obtain ⟨last, loop, ended⟩ := bind_eq_ok read
  have closed : last.outer = [] ∧ last.inside = .bracket negated inner := by
    split at ended
    · rename_i closed
      cases ended
      exact ⟨closed, bracket⟩
    · cases ended
  have idle : ¬ last.Busy := fun busy => busy.inside_ne closed.1 closed.2
  obtain ⟨found, token, loop⟩ := bind_eq_ok loop
  cases found with
  | none =>
    obtain rfl : Reading.start = last := Except.ok.inj loop
    cases closed.2
  | some next =>
    obtain ⟨first, rest⟩ := next
    obtain ⟨fed, feeds, loop⟩ := bind_eq_ok loop
    rcases Reading.feed_start feeds with busy | ⟨negated', inner', rfl, rfl⟩
    · exact absurd (busy.loop loop) idle
    · obtain ⟨body, rfl, class'⟩ := readToken_bracket token
      obtain ⟨found, token', loop⟩ := bind_eq_ok loop
      cases found with
      | none =>
        obtain rfl := Except.ok.inj loop
        obtain rfl := readToken_none token'
        obtain ⟨rfl, rfl⟩ := Tree.bracket.inj closed.2
        have enough : body.length < ('[' :: body).length + 1 := by
          rw [List.length_cons]
          omega
        exact ⟨body, rfl, (readClass_iff enough).mp (class' enough)⟩
      | some next =>
        obtain ⟨fed, feeds, loop⟩ := bind_eq_ok loop
        exact absurd ((Reading.busy_behind feeds).loop loop) idle

end

theorem ReadsClass.last {a : ClassState} {tree : ClassTree} {rest : List Char}
    (reads : ReadsClass a tree rest) : ']' :: rest <:+ a.text := by
  induction reads with
  | done => exact List.suffix_rfl
  | round first _ ih => exact ih.trans first.suffix.1

end Pattern

namespace CharClass
open Pattern (ReadsClass opened)

variable {text rest before : Text} {spot : Spot} {depth offset skip : Nat} {atStart : Bool} {c : Char}

-- What the text before a spot ends in, or has in it.
def Spot.Follows (spot : Spot) (before : Text) : Prop :=
  match spot with
  | .opening => ['['] <:+ before
  | .negated => ['[', '^'] <:+ before
  | .carets => ['[', '^', '^'] <:+: before
  | .dashed => ['-'] <:+ before
  | _ => True

theorem suffix_append_char {ending : Text} (suffix : ending <:+ before) (c : Char) :
    ending ++ [c] <:+ before ++ [c] := by
  obtain ⟨front, rfl⟩ := suffix
  exact ⟨front, by simp⟩

namespace Spot

theorem Follows.afterCaret (follows : spot.Follows before) :
    spot.afterCaret.Follows (before ++ ['^']) := by
  cases spot with
  | opening => exact suffix_append_char follows '^'
  | negated => exact (suffix_append_char follows '^').isInfix
  | carets => exact follows.trans (List.prefix_append ..).isInfix
  | _ => trivial

theorem Follows.next (follows : spot.Follows before) (c : Char) :
    (spot.next c).Follows (before ++ [c]) := by
  unfold Spot.next
  split
  · rename_i opening
    rw [opening]
    exact List.suffix_append ..
  · split
    · trivial
    · split
      · rename_i caret
        rw [caret]
        exact follows.afterCaret
      · split
        · rename_i dash
          rw [dash]
          split
          · exact List.suffix_append ..
          · trivial
        · split <;> trivial

theorem follows_afterEscape (spot : Spot) (before : Text) : spot.afterEscape.Follows before := by
  unfold afterEscape
  split <;> trivial

theorem Follows.parts (follows : spot.Follows before) (parts : spot.parts c = true) :
    "[^^".toList <:+: before ++ [c] ∨ "-[".toList <:+: before ++ [c] := by
  simp only [Spot.parts, Bool.or_eq_true, Bool.and_eq_true, decide_eq_true_eq] at parts
  rcases parts with ⟨rfl, rfl⟩ | ⟨rfl, rfl⟩
  · exact .inr (suffix_append_char follows '[').isInfix
  · exact .inl (follows.trans (List.prefix_append ..).isInfix)

end Spot

-- The scan strays only behind two carets, or at a range that ends in an opening bracket.
theorem infix_of_strays (strayed : strays spot skip text = true) (follows : spot.Follows before)
    (skipping : skip ≠ 0 → ∀ before, spot.Follows before) :
    "[^^".toList <:+: before ++ text ∨ "-[".toList <:+: before ++ text := by
  fun_induction strays spot skip text generalizing before with
  | case1 => cases strayed
  | case2 spot skip c rest ih =>
    rw [List.append_cons]
    exact ih strayed (skipping (by simp) _) fun _ => skipping (by simp)
  | case3 spot rest atom after read ih =>
    rw [List.append_cons]
    exact ih strayed (spot.follows_afterEscape _) fun _ => spot.follows_afterEscape
  | case4 => cases strayed
  | case5 spot c rest noEscape ih =>
    rw [List.append_cons]
    cases Bool.or_eq_true_iff.mp strayed with
    | inl parts =>
      have within : before ++ [c] <:+: before ++ [c] ++ rest := (List.prefix_append ..).isInfix
      exact (follows.parts parts).imp (·.trans within) (·.trans within)
    | inr later => exact ih later (follows.next c) fun never => absurd rfl never

theorem scan_bracket {body : Text} {tree : Pattern.ClassTree}
    (reads : ReadsClass ⟨(opened body).1, [], (opened body).2⟩ tree []) :
    afterBracket? 0 false ('[' :: body) =
      if strays .apart 0 ('[' :: body) then none else some [] := by
  obtain ⟨spot, fits, onward⟩ := onward_opened body
  have level : Level spot ⟨(opened body).1, [], (opened body).2⟩ (afterBracket? 1 true body) :=
    ⟨fits, onward.scan 1⟩
  obtain ⟨stops, goesOn⟩ := level.stops reads
  rw [scan_opening, (onward_opening (by decide) 0).1, onward.strays]
  split
  · rename_i strayed
    exact goesOn strayed rfl
  · rename_i straight
    exact stops (by simpa using straight)

theorem closingBracket?_of_scan (split : text = before ++ [']'])
    (scanned : afterBracket? depth atStart text = some []) :
    closingBracket? depth atStart 0 text = some (Text.bytes before) := by
  cases found : closingBracket? depth atStart 0 text with
  | none =>
    rw [closingBracket?_none found] at scanned
    cases scanned
  | some stop =>
    obtain ⟨before', rest, split', place, scanned'⟩ := closingBracket?_stops found
    obtain rfl := Option.some.inj (scanned.symm.trans scanned')
    rw [split] at split'
    rw [place, Nat.zero_add, (List.append_inj_left' split' rfl)]

theorem closingBracket?_unclosed (scanned : afterBracket? depth atStart text = none) :
    closingBracket? depth atStart offset text = none := by
  cases found : closingBracket? depth atStart offset text with
  | none => rfl
  | some stop =>
    obtain ⟨_, _, _, _, scanned'⟩ := closingBracket?_stops found
    rw [scanned] at scanned'
    cases scanned'

theorem ofText_unclosed (unclosed : closingBracket? 0 false 0 ('[' :: text) = none) :
    ofText ('[' :: text) = .error (.notAClass ('[' :: text)) := by
  simp only [ofText, atomBytes, unclosed]
  rfl

theorem ofText_closed {parsed : Pattern.Parsed} (split : '[' :: text = before ++ [']'])
    (closed : closingBracket? 0 false 0 ('[' :: text) = some (Text.bytes before))
    (read : Pattern.readWithin defaultNestLimit ('[' :: text) = .ok parsed) :
    ofText ('[' :: text) = .ok ⟨'[' :: text⟩ := by
  have cut : Text.splitAtByte? (Text.bytes before + 1) ('[' :: text) = some ('[' :: text, []) := by
    have all := Text.splitAtByte?_bytes ('[' :: text) []
    rwa [List.append_nil, split, Text.bytes_append, ← split] at all
  simp only [ofText, atomBytes, closed, bind, Except.bind, cut, read]

-- A text that is read as one bracket is accepted unless the scan strays, and then it is refused as
-- no class. Without two carets behind a bracket and without a range that ends in one it never strays.
theorem ofText_bracket {parsed : Pattern.Parsed} {negated : Bool} {inner : Pattern.ClassTree}
    (read : Pattern.readWithin defaultNestLimit text = .ok parsed)
    (bracket : parsed.tree = .bracket negated inner) :
    ∃ before, text = before ++ [']'] ∧
      closingBracket? 0 false 0 text =
        (if strays .apart 0 text then none else some (Text.bytes before)) ∧
      ofText text = (if strays .apart 0 text then .error (.notAClass text) else .ok ⟨text⟩) ∧
      (¬ "[^^".toList <:+: text → ¬ "-[".toList <:+: text → ofText text = .ok ⟨text⟩) := by
  obtain ⟨body, rfl, reads⟩ :=
    Pattern.readsClass_of_read (Pattern.read_of_readWithin read) bracket
  obtain ⟨before, split⟩ : [']'] <:+ '[' :: body :=
    reads.last.trans ((Pattern.opened_opens body).suffix.trans (List.suffix_cons ..))
  have scan := scan_bracket reads
  refine ⟨before, split.symm, ?_⟩
  cases strayed : strays .apart 0 ('[' :: body) with
  | true =>
    rw [strayed] at scan
    have unclosed : closingBracket? 0 false 0 ('[' :: body) = none := closingBracket?_unclosed scan
    refine ⟨unclosed, ofText_unclosed unclosed, fun noCarets noRange => ?_⟩
    have either : "[^^".toList <:+: [] ++ '[' :: body ∨ "-[".toList <:+: [] ++ '[' :: body :=
      infix_of_strays strayed trivial fun never => absurd rfl never
    exact absurd either (not_or.mpr ⟨noCarets, noRange⟩)
  | false =>
    rw [strayed] at scan
    have closed := closingBracket?_of_scan split.symm scan
    have accepted := ofText_closed split.symm closed read
    exact ⟨closed, accepted, fun _ _ => accepted⟩

-- A negated class whose one member is a caret.
theorem caret_refused :
    Pattern.readWithin defaultNestLimit "[^^]".toList = .ok ⟨.bracket true (.leaf (.single '^')), []⟩ ∧
      ofText "[^^]".toList = .error (.notAClass "[^^]".toList) := by
  have read : Pattern.readWithin defaultNestLimit "[^^]".toList =
      .ok ⟨.bracket true (.leaf (.single '^')), []⟩ := by rfl
  obtain ⟨_, _, _, refused, _⟩ := ofText_bracket read rfl
  have strayed : strays .apart 0 "[^^]".toList = true := by decide +kernel
  rw [strayed] at refused
  exact ⟨read, refused⟩

end CharClass
end Typeahead
