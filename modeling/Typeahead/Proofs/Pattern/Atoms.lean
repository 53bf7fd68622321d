import Typeahead.CharClass
import Typeahead.Proofs.Pattern.ClassRounds
import Typeahead.Proofs.Pattern.NormalForm

namespace Typeahead
namespace Pattern
variable {text rest more : List Char} {s : CharSet} {tree : Tree} {fuel : Nat}

-- The characters of an item that takes exactly one character.
def Tree.oneChar? : Tree → Option CharSet
  | .char c => some (.single c)
  | .set s => some s
  | .bracket negated inner => some (inner.set.negateIf negated)
  | _ => none

def atom? (text : List Char) : Option CharSet :=
  match readToken .usual (text.length + 1) text with
  | .ok (some (.item tree, [])) => tree.oneChar?
  | _ => none

theorem readClass_iff {tree : ClassTree} (enough : text.length < fuel) :
    readClass .usual fuel text = .ok (tree, rest) ↔
      ReadsClass ⟨(opened text).1, [], (opened text).2⟩ tree rest := by
  have short := (opened_opens text).suffix.length_le
  unfold readClass
  rw [openClass_eq _ _ (Nat.le_of_lt enough)]
  constructor
  · exact fun found => readsClass_of_loop (by omega) found
  · exact fun reads => loop_of_readsClass reads (by simp only; omega)

theorem ReadsClass.bracket {a : ClassState} {tree : ClassTree} (reads : ReadsClass a tree rest) :
    ∃ negated inner, tree = .bracket negated inner := by
  induction reads with
  | done => exact ⟨_, _, rfl⟩
  | round _ _ ih => exact ih

theorem readClass_append {tree : ClassTree} (enough : text.length < fuel)
    (found : readClass .usual fuel text = .ok (tree, rest)) {fuel' : Nat}
    (enough' : (text ++ more).length < fuel') :
    readClass .usual fuel' (text ++ more) = .ok (tree, rest ++ more) := by
  have reads := (readClass_iff enough).mp found
  have further := reads.append more
  have start := (opened_opens text).further (List.ne_nil_of_mem reads.closes) more
  rw [readClass_iff enough', start]
  exact further

-- What an item is, and that more text behind it changes nothing.
structure Item (text : List Char) (tree : Tree) (rest : List Char) : Prop where
  kind : tree.oneChar?.isSome ∨ ∃ l, tree = .look l
  ordered : ∀ s, tree.oneChar? = some s → s.Ordered
  further : ∀ more fuel, (text ++ more).length < fuel →
    readToken .usual fuel (text ++ more) = .ok (some (.item tree, rest ++ more))

theorem readOpening_no_item : readOpening text ≠ .ok (.item tree, rest) := by
  have name : ∀ text, readGroupName text ≠ .ok (.item tree, rest) := by
    intro text found
    unfold readGroupName at found
    split at found
    · cases found
    · split at found <;> cases found
  unfold readOpening
  split
  · intro never
    cases never
  · exact name _
  · exact name _
  · intro never
    cases never
  · intro never
    cases never

theorem timesToken_no_item {least : Nat} {most : Option Nat} :
    timesToken least most text ≠ (.item tree, rest) := by
  unfold timesToken
  split <;> rintro ⟨⟩

theorem readCounted_no_item : readCounted text ≠ .ok (.item tree, rest) := by
  intro found
  unfold readCounted at found
  obtain ⟨⟨least, after⟩, _, found⟩ := bind_eq_ok found
  simp only at found
  split at found
  · exact timesToken_no_item (Except.ok.inj found)
  · exact timesToken_no_item (Except.ok.inj found)
  · obtain ⟨⟨most, after'⟩, _, bounded⟩ := bind_eq_ok found
    simp only at bounded
    split at bounded
    · split at bounded
      · exact timesToken_no_item (Except.ok.inj bounded)
      · cases bounded
    · cases bounded
  · cases found

theorem Item.ofBracket {negated : Bool} {inner : ClassTree} (enough : text.length < fuel)
    (read : readClass .usual fuel text = .ok (.bracket negated inner, rest)) :
    Item ('[' :: text) (.bracket negated inner) rest := by
  have reads := (readClass_iff enough).mp read
  refine ⟨.inl rfl, ?_, ?_⟩
  · intro s one
    obtain rfl : inner.set.negateIf negated = s := by simpa [Tree.oneChar?] using one
    have leaves : (ClassTree.bracket negated inner).LeavesOrdered :=
      reads.ordered ⟨.of_opened text, by simp⟩
    exact CharSet.negateIf_ordered negated (ClassTree.set_ordered inner leaves)
  · intro more fuel' long
    have long' : (text ++ more).length < fuel' := by
      rw [List.cons_append, List.length_cons] at long
      omega
    simp [readToken, readClass_append enough read long', Except.map]

theorem Item.ofEscape {atom : Atom} (read : readEscape text = .ok (atom, rest)) :
    Item ('\\' :: text) (atomTree atom) rest := by
  obtain ⟨ordered, c, tail, rfl, _, reads⟩ := readEscape_escaped read
  refine ⟨?_, ?_, ?_⟩
  · cases atom with
    | char c => exact .inl rfl
    | set t => exact .inl rfl
    | look l => exact .inr ⟨l, rfl⟩
  · intro s one
    cases atom with
    | char c =>
      obtain rfl : CharSet.single c = s := by simpa [Tree.oneChar?, atomTree] using one
      exact (CharSet.single_separate c).ordered
    | set t =>
      obtain rfl : t = s := by simpa [Tree.oneChar?, atomTree] using one
      exact ordered
    | look l => simp [Tree.oneChar?, atomTree] at one
  · intro more fuel' _
    have further := reads (rest ++ more)
    rw [List.cons_append] at further
    simp [readToken, Lexis.usual, further, Except.map]

theorem readToken_item (enough : text.length < fuel)
    (found : readToken .usual fuel text = .ok (some (.item tree, rest))) : Item text tree rest := by
  unfold readToken at found
  split at found
  · cases found
  · obtain ⟨x, opening, equal⟩ := map_eq_ok found
    obtain rfl := Option.some.inj equal
    exact (readOpening_no_item opening).elim
  · cases found
  · cases found
  · rename_i text
    obtain ⟨⟨tree', rest'⟩, read, equal⟩ := map_eq_ok found
    have enough' : text.length < fuel := by
      rw [List.length_cons] at enough
      omega
    obtain ⟨negated, inner, rfl⟩ := ((readClass_iff enough').mp read).bracket
    obtain ⟨rfl, rfl⟩ : Tree.bracket negated inner = tree ∧ rest' = rest := by simpa using equal
    exact .ofBracket enough' read
  · exact (timesToken_no_item (Option.some.inj (Except.ok.inj found))).elim
  · exact (timesToken_no_item (Option.some.inj (Except.ok.inj found))).elim
  · exact (timesToken_no_item (Option.some.inj (Except.ok.inj found))).elim
  · obtain ⟨x, counted, equal⟩ := map_eq_ok found
    obtain rfl := Option.some.inj equal
    exact (readCounted_no_item counted).elim
  · obtain ⟨rfl, rfl⟩ : Tree.set dot = tree ∧ _ = rest := by simpa using found
    refine ⟨.inl rfl, ?_, fun _ _ _ => rfl⟩
    intro s one
    obtain rfl : dot = s := by simpa [Tree.oneChar?] using one
    exact CharSet.complement_ordered (CharSet.single_separate '\n').ordered
  · obtain ⟨rfl, rfl⟩ : Tree.look .textStart = tree ∧ _ = rest := by simpa using found
    exact ⟨.inr ⟨_, rfl⟩, by simp [Tree.oneChar?], fun _ _ _ => rfl⟩
  · obtain ⟨rfl, rfl⟩ : Tree.look .textEnd = tree ∧ _ = rest := by simpa using found
    exact ⟨.inr ⟨_, rfl⟩, by simp [Tree.oneChar?], fun _ _ _ => rfl⟩
  · rename_i text
    obtain ⟨⟨atom, rest'⟩, read, equal⟩ := map_eq_ok found
    obtain ⟨rfl, rfl⟩ : atomTree atom = tree ∧ rest' = rest := by simpa using equal
    exact .ofEscape read
  · rename_i c text _ _ _ _ _ _ _ _ _ _ _ _
    obtain ⟨rfl, rfl⟩ : Tree.char c = tree ∧ text = rest := by simpa using found
    refine ⟨.inl rfl, ?_, ?_⟩
    · intro s one
      obtain rfl : CharSet.single c = s := by simpa [Tree.oneChar?] using one
      exact (CharSet.single_separate c).ordered
    · intro more fuel' _
      simp [readToken]

theorem read_of_readWithin {limit : Nat} {text : Text} {parsed : Parsed}
    (within : readWithin limit text = .ok parsed) : read text = .ok parsed := by
  unfold readWithin at within
  cases read : read text with
  | error cause => rw [read] at within; cases within
  | ok found =>
    rw [read] at within
    simp only [bind, Except.bind] at within
    split at within
    · cases within
      rfl
    · cases within

structure IsItem (text : List Char) (tree : Tree) : Prop where
  kind : tree.oneChar?.isSome ∨ ∃ l, tree = .look l
  further : ∀ more fuel, (text ++ more).length < fuel →
    readToken .usual fuel (text ++ more) = .ok (some (.item tree, more))

def item? (text : List Char) : Option Tree :=
  match readToken .usual (text.length + 1) text with
  | .ok (some (.item tree, [])) => some tree
  | _ => none

theorem item?_iff :
    item? text = some tree ↔ readToken .usual (text.length + 1) text = .ok (some (.item tree, [])) := by
  unfold item?
  constructor
  · intro found
    split at found
    · rename_i read
      obtain rfl := Option.some.inj found
      exact read
    · cases found
  · intro read
    rw [read]

theorem isItem_of_item? (found : item? text = some tree) : IsItem text tree := by
  obtain ⟨kind, _, further⟩ := readToken_item (Nat.lt_succ_self _) (item?_iff.mp found)
  exact ⟨kind, further⟩

namespace IsItem

theorem ne_nil (item : IsItem text tree) : text ≠ [] := by
  intro equal
  subst equal
  have read := item.further [] 1 (by simp)
  cases read

theorem head_ne (item : IsItem text tree) : text.head? ≠ some '?' := by
  intro mark
  obtain ⟨rest, rfl⟩ := List.head?_eq_some_iff.mp mark
  have read := item.further [] _ (Nat.lt_succ_self _)
  exact timesToken_no_item (Option.some.inj (Except.ok.inj read))

end IsItem

structure IsAtom (text : List Char) (s : CharSet) (tree : Tree) : Prop where
  oneChar : tree.oneChar? = some s
  ordered : s.Ordered
  further : ∀ more fuel, (text ++ more).length < fuel →
    readToken .usual fuel (text ++ more) = .ok (some (.item tree, more))

namespace IsAtom

theorem pattern_eq (atom : IsAtom text s tree) :
    (Pattern.ofTree tree).move = .step s ∧ (Pattern.ofTree tree).Tidy := by
  obtain ⟨one, ordered, _⟩ := atom
  cases tree with
  | char c =>
    obtain rfl : CharSet.single c = s := by simpa [Tree.oneChar?] using one
    exact ⟨by simp [ofTree, move, literalMove], trivial⟩
  | set t =>
    obtain rfl : t = s := by simpa [Tree.oneChar?] using one
    exact ⟨ofSet_move ordered, ofSet_tidy ordered⟩
  | bracket negated inner =>
    obtain rfl : inner.set.negateIf negated = s := by simpa [Tree.oneChar?] using one
    exact ⟨ofSet_move ordered, ofSet_tidy ordered⟩
  | _ => cases one

end IsAtom

end Pattern

def CharClass.item? (c : CharClass) : Option Pattern.Tree := Pattern.item? c.text

-- The characters of a class, where its text is read as one atom.
def CharClass.set? (c : CharClass) : Option CharSet := Pattern.atom? c.text

-- What a leaf must be for its text to be read as intended, and to be known by its characters.

def CharClass.OneItem (c : CharClass) : Prop := c.item?.isSome

def CharClass.OneAtom (c : CharClass) : Prop := c.set?.isSome

theorem CharClass.OneAtom.item {c : CharClass} (atom : c.OneAtom) : c.OneItem := by
  obtain ⟨s, known⟩ := Option.isSome_iff_exists.mp atom
  unfold CharClass.set? Pattern.atom? at known
  split at known
  · rename_i tree read
    exact Option.isSome_of_eq_some (Pattern.item?_iff.mpr read)
  · cases known

end Typeahead
