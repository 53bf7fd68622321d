import Typeahead.Proofs.Pattern.ClassParts

namespace Typeahead.Pattern

structure ClassState where
  inner : OpenClass
  outer : List OpenClass
  text : List Char

-- How many brackets are open.
def ClassState.depth (a : ClassState) : Nat := a.outer.length + 1

def operator? : List Char → Option (SetOp × List Char)
  | '&' :: '&' :: rest => some (.inter, rest)
  | '-' :: '-' :: rest => some (.diff, rest)
  | '~' :: '~' :: rest => some (.symmDiff, rest)
  | _ => none

inductive Round : ClassState → ClassState → Prop
  | named {inner : OpenClass} {outer : List OpenClass} (found : posixClass? text = some (s, rest)) :
      Round ⟨inner, outer, '[' :: text⟩ ⟨inner.push (.leaf s), outer, rest⟩
  | enter {text : List Char} {inner : OpenClass} {outer : List OpenClass}
      (unnamed : posixClass? text = none) :
      Round ⟨inner, outer, '[' :: text⟩ ⟨(opened text).1, inner :: outer, (opened text).2⟩
  | leave {inner parent : OpenClass} {outer : List OpenClass} {rest : List Char} :
      Round ⟨inner, parent :: outer, ']' :: rest⟩ ⟨parent.push inner.close, outer, rest⟩
  | operator {inner : OpenClass} {outer : List OpenClass} (op : SetOp)
      (found : operator? text = some (op, rest)) :
      Round ⟨inner, outer, text⟩ ⟨inner.startOperator op, outer, rest⟩
  | member {inner : OpenClass} {outer : List OpenClass} (noOpening : text.head? ≠ some '[')
      (noClosing : text.head? ≠ some ']') (noOperator : operator? text = none)
      (ranges : Ranges text item rest) :
      Round ⟨inner, outer, text⟩ ⟨inner.push item, outer, rest⟩

inductive ReadsClass : ClassState → ClassTree → List Char → Prop
  | done {inner : OpenClass} : ReadsClass ⟨inner, [], ']' :: rest⟩ inner.close rest
  | round (first : Round a b) (onward : ReadsClass b tree rest) : ReadsClass a tree rest

section Rounds
variable {a b : ClassState} {text rest more : List Char} {tree : ClassTree} {inner : OpenClass}
  {outer : List OpenClass} {fuel : Nat}

theorem operator?_eq {op : SetOp} (found : operator? text = some (op, rest)) :
    ∃ c ∈ ['&', '-', '~'], text = c :: c :: rest := by
  unfold operator? at found
  split at found
  · obtain ⟨-, rfl⟩ : SetOp.inter = op ∧ _ = rest := by simpa using found
    exact ⟨'&', by decide, rfl⟩
  · obtain ⟨-, rfl⟩ : SetOp.diff = op ∧ _ = rest := by simpa using found
    exact ⟨'-', by decide, rfl⟩
  · obtain ⟨-, rfl⟩ : SetOp.symmDiff = op ∧ _ = rest := by simpa using found
    exact ⟨'~', by decide, rfl⟩
  · cases found

namespace Round

theorem suffix (round : Round a b) : b.text <:+ a.text ∧ b.text.length < a.text.length := by
  cases round with
  | named found =>
    obtain ⟨_, inside, rfl, _⟩ := posixClass?_named found
    exact ⟨⟨'[' :: ':' :: inside ++ [':', ']'], by simp⟩, by simp; omega⟩
  | enter unnamed =>
    rename_i text _ _
    have suffix := (opened_opens text).suffix
    have length := suffix.length_le
    exact ⟨suffix.trans (List.suffix_cons ..), by simp; omega⟩
  | leave => exact ⟨List.suffix_cons .., by simp⟩
  | operator _ found =>
    obtain ⟨c, _, rfl⟩ := operator?_eq found
    exact ⟨⟨[c, c], rfl⟩, by simp only [List.length_cons]; omega⟩
  | member _ _ _ ranges => exact ⟨ranges.found.suffix, ranges.found.shorter⟩

end Round

def ClassState.append (a : ClassState) (more : List Char) : ClassState :=
  { a with text := a.text ++ more }

theorem operator?_append {op : SetOp} (found : operator? text = some (op, rest))
    (more : List Char) :
    operator? (text ++ more) = some (op, rest ++ more) := by
  obtain ⟨c, member, rfl⟩ := operator?_eq found
  simp only [List.mem_cons, List.not_mem_nil, or_false] at member
  rcases member with rfl | rfl | rfl
  all_goals
    obtain rfl : _ = op := by simpa [operator?] using found
    rfl

theorem operator?_append_none (none : operator? text = none) (long : 2 ≤ text.length)
    (more : List Char) : operator? (text ++ more) = Option.none := by
  match text, long with
  | c :: d :: text, _ =>
    rw [Option.eq_none_iff_forall_ne_some]
    intro given found
    obtain ⟨op, rest⟩ := given
    obtain ⟨e, member, equal⟩ := operator?_eq found
    obtain ⟨rfl, rfl, _⟩ : c = e ∧ d = e ∧ text ++ more = rest := by simpa using equal
    simp only [List.mem_cons, List.not_mem_nil, or_false] at member
    rcases member with rfl | rfl | rfl <;> cases none

theorem head?_append (some' : text ≠ []) (more : List Char) :
    (text ++ more).head? = text.head? := by
  cases text with
  | nil => exact absurd rfl some'
  | cons c text => rfl

theorem Round.append (round : Round a b) (closes : ']' ∈ b.text) (more : List Char) :
    Round (a.append more) (b.append more) := by
  have before := round.suffix.1.subset closes
  have shorter := round.suffix.2
  cases round with
  | named found =>
    obtain ⟨_, inside, rfl, _, reads⟩ := posixClass?_named found
    exact .named (by simpa using reads (_ ++ more))
  | enter unnamed =>
    rename_i text inner outer
    have next := (opened_opens text).further (List.ne_nil_of_mem closes) more
    have closes' : ']' ∈ text := by simpa using before
    have entered : Round ⟨inner, outer, '[' :: (text ++ more)⟩ _ :=
      .enter (posixClass?_append_none unnamed closes' more)
    rw [next] at entered
    exact entered
  | leave => exact .leave
  | operator _ found => exact .operator _ (operator?_append found more)
  | member noOpening noClosing noOperator ranges =>
    have long := List.length_pos_of_mem closes
    have some' := List.ne_nil_of_mem before
    refine .member ?_ ?_ (operator?_append_none noOperator (by simp only at *; omega) more)
      (ranges.found.further more)
    · rwa [head?_append some']
    · rwa [head?_append some']

namespace ReadsClass

theorem closes (reads : ReadsClass a tree rest) : ']' ∈ a.text := by
  induction reads with
  | done => exact List.mem_cons_self ..
  | round first _ ih => exact first.suffix.1.subset ih

theorem append (reads : ReadsClass a tree rest) (more : List Char) :
    ReadsClass (a.append more) tree (rest ++ more) := by
  induction reads with
  | done => exact .done
  | round first onward ih => exact .round (first.append onward.closes more) ih

end ReadsClass

-- The loop goes round by round, and its fuel does not run out.
theorem readsClass_of_loop (enough : text.length < fuel)
    (found : readClassLoop .usual fuel inner outer text = .ok (tree, rest)) :
    ReadsClass ⟨inner, outer, text⟩ tree rest := by
  induction fuel generalizing inner outer text with
  | zero => omega
  | succ fuel ih =>
    -- each round leaves less text than there is fuel
    have onward : ∀ b : ClassState, Round ⟨inner, outer, text⟩ b →
        readClassLoop .usual fuel b.inner b.outer b.text = .ok (tree, rest) →
        ReadsClass ⟨inner, outer, text⟩ tree rest := by
      intro b round found
      have shorter := round.suffix.2
      exact .round round (ih (by simp only at shorter; omega) found)
    unfold readClassLoop at found
    simp only [Lexis.usual, id] at found
    split at found
    · cases found
    · rename_i text
      split at found
      · rename_i known
        exact onward _ (.named known) found
      · rename_i unnamed
        have opening := openClass_eq fuel text (by rw [List.length_cons] at enough; omega)
        rw [Lexis.usual] at opening
        rw [opening] at found
        exact onward _ (.enter unnamed) found
    · rename_i text
      cases outer with
      | nil =>
        obtain ⟨rfl, rfl⟩ : inner.close = tree ∧ text = rest := by simpa using found
        exact .done
      | cons parent outer => exact onward _ .leave found
    · exact onward _ (.operator .inter rfl) found
    · exact onward _ (.operator .diff rfl) found
    · exact onward _ (.operator .symmDiff rfl) found
    · rename_i notNil noOpening noClosing noInter noDiff noSymmDiff
      split at found
      · cases found
      · rename_i item rest' member
        refine onward _ (.member ?_ ?_ ?_ (readRange_iff.mp member)) found
        · intro opening
          obtain ⟨_, rfl⟩ := List.head?_eq_some_iff.mp opening
          exact noOpening _ rfl
        · intro closing
          obtain ⟨_, rfl⟩ := List.head?_eq_some_iff.mp closing
          exact noClosing _ rfl
        · unfold operator?
          split
          · exact (noInter _ rfl).elim
          · exact (noDiff _ rfl).elim
          · exact (noSymmDiff _ rfl).elim
          · rfl

theorem loop_of_readsClass (reads : ReadsClass a tree rest) (enough : a.text.length < fuel) :
    readClassLoop .usual fuel a.inner a.outer a.text = .ok (tree, rest) := by
  induction reads generalizing fuel with
  | done =>
    obtain ⟨fuel, rfl⟩ : ∃ n, fuel = n + 1 := ⟨fuel - 1, by omega⟩
    rfl
  | round first onward ih =>
    obtain ⟨fuel, rfl⟩ : ∃ n, fuel = n + 1 := ⟨fuel - 1, by omega⟩
    have shorter := first.suffix.2
    have next := @ih fuel (by omega)
    cases first with
    | named found => simpa [readClassLoop, Lexis.usual, found] using next
    | enter unnamed =>
      rename_i text _ _
      have opening := openClass_eq fuel text (by simp only [List.length_cons] at enough; omega)
      rw [Lexis.usual] at opening
      simpa [readClassLoop, Lexis.usual, unnamed, opening] using next
    | leave => exact next
    | operator _ found =>
      obtain ⟨c, member, equal⟩ := operator?_eq found
      subst equal
      simp only [List.mem_cons, List.not_mem_nil, or_false] at member
      rcases member with rfl | rfl | rfl
      all_goals
        obtain rfl : _ = _ := (Prod.mk.inj (Option.some.inj found)).1
        exact next
    | member noOpening noClosing noOperator ranges =>
      have read := readRange_iff.mpr ranges
      unfold readClassLoop
      simp only [Lexis.usual, id] at read ⊢
      split
      · exact absurd shorter (Nat.not_lt_zero _)
      · exact absurd rfl noOpening
      · exact absurd rfl noClosing
      · cases noOperator
      · cases noOperator
      · cases noOperator
      · simp only [read]
        exact next

end Rounds

theorem ClassTree.allLeavesOrdered_iff {items : List ClassTree} :
    AllLeavesOrdered items ↔ ∀ item ∈ items, item.LeavesOrdered := by
  induction items with
  | nil => simp [AllLeavesOrdered]
  | cons item items ih => simp [AllLeavesOrdered, ih]

structure OpenClass.Ordered (c : OpenClass) : Prop where
  items : ∀ item ∈ c.items, item.LeavesOrdered
  waiting : ∀ op left, c.waiting = some (op, left) → left.LeavesOrdered

namespace OpenClass.Ordered
variable {c : OpenClass}

theorem push (ordered : c.Ordered) {item : ClassTree} (leaves : item.LeavesOrdered) :
    (c.push item).Ordered := by
  refine ⟨fun other member => ?_, ordered.waiting⟩
  cases List.mem_append.mp member with
  | inl member => exact ordered.items other member
  | inr member => rwa [List.mem_singleton.mp member]

theorem settled (ordered : c.Ordered) : c.settled.LeavesOrdered := by
  have items : (ClassTree.ofItems c.items).LeavesOrdered := by
    unfold ClassTree.ofItems
    split
    · trivial
    · rename_i item equal
      exact ordered.items item (by simp [equal])
    · exact ClassTree.allLeavesOrdered_iff.mpr ordered.items
  unfold OpenClass.settled
  split
  · exact items
  · rename_i op left waiting
    exact ⟨ordered.waiting op left waiting, items⟩

theorem startOperator (ordered : c.Ordered) (op : SetOp) : (c.startOperator op).Ordered := by
  refine ⟨by simp [OpenClass.startOperator], ?_⟩
  intro op' left equal
  obtain ⟨rfl, rfl⟩ := Prod.mk.inj (Option.some.inj equal)
  exact ordered.settled

theorem of_opened (text : List Char) : (opened text).1.Ordered := by
  obtain ⟨items, waiting, _, _⟩ := opened_opens text
  exact ⟨items, fun op left equal => by simp [waiting] at equal⟩

end OpenClass.Ordered

structure ClassState.Ordered (a : ClassState) : Prop where
  inner : a.inner.Ordered
  outer : ∀ c ∈ a.outer, c.Ordered

theorem Round.ordered {a b : ClassState} (round : Round a b) (ordered : a.Ordered) : b.Ordered := by
  obtain ⟨inner, outer⟩ := ordered
  cases round with
  | named found => exact ⟨inner.push (posixClass?_named found).ordered, outer⟩
  | enter unnamed => exact ⟨.of_opened _, by simpa using ⟨inner, outer⟩⟩
  | leave =>
    obtain ⟨parent, outer⟩ := List.forall_mem_cons.mp outer
    exact ⟨parent.push inner.settled, outer⟩
  | operator _ found => exact ⟨inner.startOperator _, outer⟩
  | member _ _ _ ranges => exact ⟨inner.push ranges.found.ordered, outer⟩

theorem ReadsClass.ordered {a : ClassState} {tree : ClassTree} {rest : List Char}
    (reads : ReadsClass a tree rest) (ordered : a.Ordered) : tree.LeavesOrdered := by
  induction reads with
  | done => exact ordered.inner.settled
  | round first _ ih => exact ih (first.ordered ordered)

end Typeahead.Pattern
