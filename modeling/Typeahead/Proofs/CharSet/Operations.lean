import Typeahead.Pattern.Tree
import Typeahead.Proofs.CharSet.Order

namespace Typeahead.CharSet
variable {s t : CharSet} {n m lo hi : Nat} {runs others : List (Nat × Nat)}

theorem nextCode_valid (valid : n.isValidChar) (inside : n < lastCode) :
    (nextCode n).isValidChar := by
  simp only [nextCode, Nat.isValidChar, lastCode] at *
  split <;> omega

theorem previousCode_valid (valid : n.isValidChar) : (previousCode n).isValidChar := by
  simp only [previousCode, Nat.isValidChar] at *
  split <;> omega

theorem nextCode_le (right : m.isValidChar) (lt : n < m) :
    nextCode n ≤ m := by
  simp only [nextCode, Nat.isValidChar] at *
  split <;> omega

theorem lt_nextCode (n : Nat) : n < nextCode n := by
  simp only [nextCode]
  split <;> omega

theorem previousCode_le (n : Nat) : previousCode n ≤ n := by
  simp only [previousCode]
  split <;> omega

theorem le_previousCode (left : n.isValidChar) (right : m.isValidChar) (lt : n < m) :
    n ≤ previousCode m := by
  simp only [previousCode, Nat.isValidChar] at *
  split <;> omega

theorem previousCode_mono (left : n.isValidChar) (right : m.isValidChar) (le : n ≤ m) :
    previousCode n ≤ previousCode m := by
  simp only [previousCode, Nat.isValidChar] at *
  split <;> split <;> omega

theorem zero_valid : Nat.isValidChar 0 := by decide

theorem lastCode_valid : lastCode.isValidChar := by decide

theorem valid_le_lastCode (valid : n.isValidChar) : n ≤ lastCode := by
  simp only [Nat.isValidChar, lastCode] at *
  omega

theorem min_isValidChar (left : n.isValidChar) (right : m.isValidChar) :
    (min n m).isValidChar := by
  cases Nat.le_total n m with
  | inl le => rwa [Nat.min_eq_left le]
  | inr le => rwa [Nat.min_eq_right le]

theorem gap_isRun (left : n.isValidChar) (inside : n < lastCode) (right : m.isValidChar) :
    IsRun (min (nextCode n) (previousCode m), max (nextCode n) (previousCode m)) := by
  have next := nextCode_valid left inside
  have back := previousCode_valid right
  exact ⟨by omega, min_isValidChar next back, max_isValidChar next back⟩

theorem lastGap_isRun (valid : n.isValidChar) (inside : n < lastCode) : IsRun (nextCode n, lastCode) :=
  ⟨nextCode_le lastCode_valid inside, nextCode_valid valid inside, lastCode_valid⟩

-- The gaps after a run: none begins before that run's end, or before the step back from the next.
theorem gapsAfter_ordered (valid : hi.isValidChar) (ordered : InOrder Follows runs)
    (ends : ∀ run ∈ runs, hi < run.2) :
    InOrder Follows (gapsAfter hi runs) ∧
      (∀ gap ∈ gapsAfter hi runs, hi < gap.2) ∧
      ∀ lower ≤ hi, (∀ run ∈ runs, lower ≤ previousCode run.1) →
        ∀ gap ∈ gapsAfter hi runs, lower ≤ gap.1 := by
  have onward := lt_nextCode hi
  induction runs generalizing hi with
  | nil =>
    rw [gapsAfter]
    split
    · rename_i inside
      refine ⟨InOrder.cons_iff.mpr ⟨lastGap_isRun valid inside, by simp, .nil⟩, by simpa using inside, ?_⟩
      intro lower below _ gap member
      rw [List.mem_singleton.mp member]
      exact Nat.le_trans below (Nat.le_of_lt onward)
    · exact ⟨.nil, by simp, by simp⟩
  | cons run runs ih =>
    obtain ⟨a, b⟩ := run
    obtain ⟨isRun, before, tail⟩ := InOrder.cons_iff.mp ordered
    have inside : hi < b := ends (a, b) (by simp)
    have stepBack : previousCode a ≤ b := Nat.le_trans (previousCode_le a) isRun.1
    have next : nextCode hi ≤ b := nextCode_le isRun.2.2 inside
    have gap := gap_isRun valid (Nat.lt_of_lt_of_le inside (valid_le_lastCode isRun.2.2)) isRun.2.1
    have starts : ∀ r ∈ runs, previousCode a ≤ previousCode r.1 := fun r member =>
      previousCode_mono isRun.2.1 (tail.isRun r member).2.1 (before r member).1
    obtain ⟨rest, later, bound⟩ := ih isRun.2.2 tail (fun r m => (before r m).2) (lt_nextCode b)
    refine ⟨InOrder.cons_iff.mpr ⟨gap, ?_, rest⟩, ?_, ?_⟩
    · intro g member
      have first := bound (previousCode a) stepBack starts g member
      have second := later g member
      exact ⟨by omega, by omega⟩
    · refine List.forall_mem_cons.mpr ⟨?_, fun g old => Nat.lt_trans inside (later g old)⟩
      exact Nat.lt_of_lt_of_le onward (Nat.le_max_left ..)
    · intro lower below steps
      obtain ⟨first, others⟩ := List.forall_mem_cons.mp steps
      refine List.forall_mem_cons.mpr ⟨Nat.le_min.mpr ⟨by omega, first⟩, ?_⟩
      exact bound lower (by omega) others

theorem complement_ordered (ordered : Ordered s) : Ordered s.complement := by
  obtain ⟨runs⟩ := s
  simp only [Ordered, complement] at *
  cases runs with
  | nil => exact InOrder.cons_iff.mpr ⟨⟨Nat.zero_le _, zero_valid, lastCode_valid⟩, by simp, .nil⟩
  | cons run runs =>
    obtain ⟨a, b⟩ := run
    obtain ⟨isRun, before, tail⟩ := InOrder.cons_iff.mp ordered
    obtain ⟨rest, later, _⟩ := gapsAfter_ordered isRun.2.2 tail fun r m => (before r m).2
    simp only [gaps]
    split
    · rename_i positive
      have first : IsRun (0, previousCode a) :=
        ⟨Nat.zero_le _, zero_valid, previousCode_valid isRun.2.1⟩
      refine InOrder.cons_iff.mpr ⟨first, ?_, rest⟩
      intro g member
      have := later g member
      have := previousCode_le a
      have := isRun.1
      exact ⟨Nat.zero_le _, by simp only at *; omega⟩
    · exact rest

theorem negateIf_ordered (negated : Bool) (ordered : Ordered s) : Ordered (s.negateIf negated) := by
  cases negated with
  | false => exact ordered
  | true => exact complement_ordered ordered

theorem dropWhile_reaches (sorted : InOrder Follows runs) :
    ∀ run ∈ runs.dropWhile (·.2 < n), n ≤ run.2 :=
  dropWhile_not_lt Prod.snd (sorted.sorted.imp fun both => Nat.le_of_lt both.2)

theorem takeWhile_starts (n : Nat) (runs : List (Nat × Nat)) :
    ∀ run ∈ runs.takeWhile (·.1 ≤ n), run.1 ≤ n := by
  intro run member
  simpa using List.all_eq_true.mp List.all_takeWhile run member

-- The runs that overlap a run.
theorem overlapping_ordered {order : Nat × Nat → Nat × Nat → Prop} (sorted : InOrder order others)
    (follows : InOrder Follows others) :
    InOrder order ((others.dropWhile (·.2 < lo)).takeWhile (·.1 ≤ hi)) ∧
      (∀ run ∈ (others.dropWhile (·.2 < lo)).takeWhile (·.1 ≤ hi), run.1 ≤ hi) ∧
      ∀ run ∈ (others.dropWhile (·.2 < lo)).takeWhile (·.1 ≤ hi), lo ≤ run.2 := by
  refine ⟨?_, takeWhile_starts _ _, fun run member => ?_⟩
  · exact (sorted.sublist (List.dropWhile_sublist _)).sublist (List.takeWhile_sublist _)
  · exact dropWhile_reaches follows run ((List.takeWhile_sublist _).mem member)

theorem append_behind {pieces rest : List (Nat × Nat)} (own : InOrder Follows pieces)
    (others : InOrder Follows rest) (stays : ∀ piece ∈ pieces, piece.2 ≤ hi)
    (behind : ∀ piece ∈ rest, hi < piece.1) : InOrder Follows (pieces ++ rest) := by
  refine own.append others fun r first t second => ?_
  have := stays r first
  have := behind t second
  have := (own.isRun r first).1
  have := (others.isRun t second).1
  exact ⟨by omega, by omega⟩

theorem pieces_ordered (first : IsRun (lo, hi)) (cuts : InOrder Apart runs)
    (starts : ∀ run ∈ runs, run.1 ≤ hi) (reaches : ∀ run ∈ runs, lo ≤ run.2) :
    InOrder Follows (runs.map fun run => (max lo run.1, min hi run.2)) ∧
      ∀ piece ∈ runs.map fun run => (max lo run.1, min hi run.2), lo ≤ piece.1 ∧ piece.2 ≤ hi := by
  refine ⟨⟨?_, List.pairwise_map.mpr (cuts.sorted.imp_of_mem ?_)⟩, ?_⟩
  · intro piece member
    obtain ⟨r, old, rfl⟩ := List.mem_map.mp member
    have second := cuts.isRun r old
    refine ⟨?_, max_isValidChar first.2.1 second.2.1, min_isValidChar first.2.2 second.2.2⟩
    exact Nat.le_min.mpr ⟨Nat.max_le.mpr ⟨first.1, starts r old⟩,
      Nat.max_le.mpr ⟨reaches r old, second.1⟩⟩
  · intro r t former later apart
    have start := starts t later
    have rising := (cuts.isRun r former).1
    have rising' := (cuts.isRun t later).1
    simp only [Apart] at apart
    exact ⟨by simp only; omega, by simp only; omega⟩
  · intro piece member
    obtain ⟨r, _, rfl⟩ := List.mem_map.mp member
    exact ⟨Nat.le_max_left .., Nat.min_le_left ..⟩

theorem interRuns_ordered (left : InOrder Apart runs) (right : InOrder Apart others) :
    InOrder Follows (interRuns runs others) ∧
      ∀ lower, (∀ run ∈ runs, lower ≤ run.1) → ∀ piece ∈ interRuns runs others, lower ≤ piece.1 := by
  induction runs generalizing others with
  | nil => exact ⟨.nil, by simp [interRuns]⟩
  | cons run runs ih =>
    obtain ⟨lo, hi⟩ := run
    obtain ⟨isRun, before, tail⟩ := InOrder.cons_iff.mp left
    obtain ⟨taken, starts, reaches⟩ := overlapping_ordered right right.follows
    obtain ⟨own, within⟩ := pieces_ordered isRun taken starts reaches
    obtain ⟨rest, bound⟩ := ih tail (right.sublist (List.dropWhile_sublist (fun run => run.2 < lo)))
    refine ⟨append_behind own rest (fun r m => (within r m).2) (bound (hi + 1) before), ?_⟩
    intro lower below piece member
    cases List.mem_append.mp member with
    | inl first => exact Nat.le_trans (below (lo, hi) (by simp)) (within piece first).1
    | inr second => exact bound lower (fun r m => below r (by simp [m])) piece second

theorem inter_ordered (left : Separate s) (right : Separate t) : Ordered (s.inter t) :=
  (interRuns_ordered left right).1

theorem front_ordered (first : IsRun (lo, hi)) (cut : IsRun run) (start : run.1 ≤ hi) :
    InOrder Follows (if lo < run.1 then [(lo, previousCode run.1)] else []) ∧
      ∀ piece ∈ (if lo < run.1 then [(lo, previousCode run.1)] else []),
        piece.1 = lo ∧ piece.2 ≤ hi ∧ piece.2 ≤ run.2 := by
  split
  · rename_i lt
    have piece : IsRun (lo, previousCode run.1) :=
      ⟨le_previousCode first.2.1 cut.2.1 lt, first.2.1, previousCode_valid cut.2.1⟩
    have below := previousCode_le run.1
    refine ⟨InOrder.cons_iff.mpr ⟨piece, by simp, .nil⟩, List.forall_mem_singleton.mpr ⟨rfl, ?_, ?_⟩⟩
    · exact Nat.le_trans below start
    · exact Nat.le_trans below cut.1
  · exact ⟨.nil, by simp⟩

theorem cutRun_ordered (first : IsRun (lo, hi)) (cuts : InOrder Follows runs)
    (starts : ∀ run ∈ runs, run.1 ≤ hi) (reaches : ∀ run ∈ runs, lo ≤ run.2) :
    InOrder Follows (cutRun lo hi runs) ∧
      ∀ piece ∈ cutRun lo hi runs, lo ≤ piece.1 ∧ piece.2 ≤ hi := by
  induction runs generalizing lo with
  | nil => exact ⟨InOrder.cons_iff.mpr ⟨first, by simp, .nil⟩, by simp [cutRun]⟩
  | cons run runs ih =>
    obtain ⟨a, b⟩ := run
    obtain ⟨isRun, before, tail⟩ := InOrder.cons_iff.mp cuts
    obtain ⟨start, starts⟩ := List.forall_mem_cons.mp starts
    obtain ⟨reach, _⟩ := List.forall_mem_cons.mp reaches
    obtain ⟨front, own⟩ := front_ordered first isRun start
    by_cases inside : b < hi
    · have after := lt_nextCode b
      have inRange : b < lastCode := Nat.lt_of_lt_of_le inside (valid_le_lastCode first.2.2)
      have remaining : IsRun (nextCode b, hi) :=
        ⟨nextCode_le first.2.2 inside, nextCode_valid isRun.2.2 inRange, first.2.2⟩
      obtain ⟨rest, bound⟩ := ih remaining tail starts fun r m =>
        nextCode_le (tail.isRun r m).2.2 (before r m).2
      simp only [cutRun, inside, if_true]
      refine ⟨append_behind front rest (fun r m => (own r m).2.2) fun r m =>
        Nat.lt_of_lt_of_le after (bound r m).1, ?_⟩
      · intro piece member
        cases List.mem_append.mp member with
        | inl left =>
          have := own piece left
          omega
        | inr right =>
          have := bound piece right
          omega
    · simp only [cutRun, inside, if_false, List.append_nil]
      refine ⟨front, fun piece member => ?_⟩
      have := own piece member
      omega

theorem diffRuns_ordered (left : InOrder Apart runs) (right : InOrder Follows others) :
    InOrder Follows (diffRuns runs others) ∧
      ∀ lower, (∀ run ∈ runs, lower ≤ run.1) → ∀ piece ∈ diffRuns runs others, lower ≤ piece.1 := by
  induction runs generalizing others with
  | nil => exact ⟨.nil, by simp [diffRuns]⟩
  | cons run runs ih =>
    obtain ⟨lo, hi⟩ := run
    obtain ⟨isRun, before, tail⟩ := InOrder.cons_iff.mp left
    obtain ⟨taken, starts, reaches⟩ := overlapping_ordered right right
    obtain ⟨own, within⟩ := cutRun_ordered isRun taken starts reaches
    obtain ⟨rest, bound⟩ := ih tail (right.sublist (List.dropWhile_sublist (fun run => run.2 < lo)))
    refine ⟨append_behind own rest (fun r m => (within r m).2) (bound (hi + 1) before), ?_⟩
    intro lower below piece member
    cases List.mem_append.mp member with
    | inl first => exact Nat.le_trans (below (lo, hi) (by simp)) (within piece first).1
    | inr second => exact bound lower (fun r m => below r (by simp [m])) piece second

theorem sdiff_ordered (left : Separate s) (right : Ordered t) : Ordered (s.sdiff t) :=
  (diffRuns_ordered left right).1

theorem symmDiff_ordered (left : Separate s) (right : Separate t) : Ordered (s.symmDiff t) :=
  sdiff_ordered (union_separate left right) (inter_ordered left right)

theorem only?_mem {c d : Char} (ordered : Ordered s) (found : s.only? = some c) :
    d ∈ s ↔ d = c := by
  obtain ⟨runs⟩ := s
  match runs, ordered, found with
  | [(a, b)], ordered, found =>
    simp only [only?, Option.ite_none_right_eq_some, Option.some.injEq] at found
    obtain ⟨rfl, rfl⟩ := found
    have valid := (ordered.isRun (a, a) (by simp)).2.1
    have code : (Char.ofNat a).toNat = a := by
      rw [Char.ofNat, dif_pos valid]
      rfl
    simp only [mem_iff_covers, Covers, List.mem_singleton, exists_eq_left]
    rw [← Char.toNat_inj, code]
    omega

end Typeahead.CharSet

namespace Typeahead.Pattern

theorem SetOp.apply_ordered {s t : CharSet} (op : SetOp) (left : s.Separate) (right : t.Separate) :
    (op.apply s t).Ordered := by
  cases op with
  | inter => exact CharSet.inter_ordered left right
  | diff => exact CharSet.sdiff_ordered left right.ordered
  | symmDiff => exact CharSet.symmDiff_ordered left right

namespace ClassTree

mutual
def LeavesOrdered : ClassTree → Prop
  | .empty => True
  | .leaf s => s.Ordered
  | .bracket _ inner => LeavesOrdered inner
  | .union items => AllLeavesOrdered items
  | .binary _ left right => LeavesOrdered left ∧ LeavesOrdered right

def AllLeavesOrdered : List ClassTree → Prop
  | [] => True
  | item :: rest => LeavesOrdered item ∧ AllLeavesOrdered rest
end

mutual
theorem set_ordered : ∀ tree : ClassTree, tree.LeavesOrdered → tree.set.Ordered
  | .empty, _ => .nil
  | .leaf _, leaves => leaves
  | .bracket negated inner, leaves =>
    CharSet.negateIf_ordered negated (CharSet.joined_separate (set_ordered inner leaves)).ordered
  | .union items, leaves => setOfAll_ordered items leaves .nil
  | .binary op left right, leaves =>
    (CharSet.joined_separate (op.apply_ordered
      (CharSet.joined_separate (set_ordered left leaves.1))
      (CharSet.joined_separate (set_ordered right leaves.2)))).ordered

theorem setOfAll_ordered {found : CharSet} : ∀ items : List ClassTree, AllLeavesOrdered items →
    found.Ordered → (setOfAll found items).Ordered
  | [], _, ordered => ordered
  | item :: rest, leaves, ordered =>
    setOfAll_ordered rest leaves.2 (CharSet.union_ordered ordered (set_ordered item leaves.1))
end

end ClassTree
end Typeahead.Pattern
