import Typeahead.CharSet

namespace Typeahead.CharSet
variable {s t : CharSet} {c d : Char} {n lo hi : Nat} {run : Nat × Nat} {a b runs : List (Nat × Nat)}

-- A run goes from one character to the same or a later one.
def IsRun (run : Nat × Nat) : Prop :=
  run.1 ≤ run.2 ∧ run.1.isValidChar ∧ run.2.isValidChar

def Rising (r t : Nat × Nat) : Prop := r.1 ≤ t.1

def Follows (r t : Nat × Nat) : Prop := r.1 ≤ t.1 ∧ r.2 < t.2

def Apart (r t : Nat × Nat) : Prop := r.2 < t.1

-- With a code between them.
def Distant (r t : Nat × Nat) : Prop := r.2 + 1 < t.1

structure InOrder (order : Nat × Nat → Nat × Nat → Prop) (runs : List (Nat × Nat)) : Prop where
  isRun : ∀ run ∈ runs, IsRun run
  sorted : runs.Pairwise order

-- Runs may overlap here, since what lies between two neighbours across the surrogates is a run.
def Ordered (s : CharSet) : Prop := InOrder Follows s.runs

def Separate (s : CharSet) : Prop := InOrder Apart s.runs

namespace InOrder

theorem nil : InOrder order [] := ⟨by simp, .nil⟩

theorem cons_iff : InOrder order (run :: runs) ↔
    IsRun run ∧ (∀ later ∈ runs, order run later) ∧ InOrder order runs := by
  constructor
  · intro whole
    have parts := List.pairwise_cons.mp whole.sorted
    exact ⟨whole.isRun _ (by simp), parts.1, fun r m => whole.isRun r (by simp [m]), parts.2⟩
  · intro given
    obtain ⟨first, before, rest⟩ := given
    refine ⟨?_, List.pairwise_cons.mpr ⟨before, rest.sorted⟩⟩
    intro r member
    rcases List.mem_cons.mp member with rfl | old
    · exact first
    · exact rest.isRun r old

theorem append (left : InOrder order a) (right : InOrder order b)
    (across : ∀ r ∈ a, ∀ t ∈ b, order r t) : InOrder order (a ++ b) := by
  refine ⟨?_, List.pairwise_append.mpr ⟨left.sorted, right.sorted, across⟩⟩
  intro r member
  cases List.mem_append.mp member with
  | inl old => exact left.isRun r old
  | inr new => exact right.isRun r new

theorem sublist (whole : InOrder order b) (part : a.Sublist b) : InOrder order a :=
  ⟨fun r member => whole.isRun r (part.mem member), whole.sorted.sublist part⟩

theorem follows (apart : InOrder Apart runs) : InOrder Follows runs := by
  refine ⟨apart.isRun, apart.sorted.imp_of_mem ?_⟩
  intro r t left right before
  have first := (apart.isRun r left).1
  have second := (apart.isRun t right).1
  simp only [Apart] at before
  exact ⟨by omega, by omega⟩

theorem apart (distant : InOrder Distant runs) : InOrder Apart runs :=
  ⟨distant.isRun, distant.sorted.imp fun between => Nat.lt_of_succ_lt between⟩

theorem rising (ordered : InOrder Follows runs) : InOrder Rising runs :=
  ⟨ordered.isRun, ordered.sorted.imp fun both => both.1⟩

end InOrder

theorem Separate.ordered (separate : Separate s) : Ordered s := InOrder.follows separate

theorem range_separate (lo hi : Char) (rising : lo ≤ hi) : Separate (range lo hi) :=
  InOrder.cons_iff.mpr ⟨⟨rising, lo.valid, hi.valid⟩, by simp, .nil⟩

theorem single_separate (c : Char) : Separate (single c) := range_separate c c (Nat.le_refl _)

def Covers (runs : List (Nat × Nat)) (n : Nat) : Prop := ∃ run ∈ runs, run.1 ≤ n ∧ n ≤ run.2

theorem mem_iff_covers : c ∈ s ↔ Covers s.runs c.toNat := by
  simp [mem_iff, contains, Covers]

theorem mem_single : c ∈ single d ↔ c = d := by
  simp only [mem_iff_covers, Covers, single, range, List.mem_singleton, exists_eq_left]
  constructor
  · intro both
    exact Char.toNat_inj.mp (by omega)
  · intro equal
    subst equal
    exact ⟨Nat.le_refl _, Nat.le_refl _⟩

theorem covers_cons : Covers (run :: runs) n ↔ (run.1 ≤ n ∧ n ≤ run.2) ∨ Covers runs n := by
  simp [Covers]

theorem max_isValidChar {m : Nat} (left : n.isValidChar) (right : m.isValidChar) :
    (max n m).isValidChar := by
  cases Nat.le_total n m with
  | inl le => rwa [Nat.max_eq_right le]
  | inr le => rwa [Nat.max_eq_left le]

theorem IsRun.join (first : IsRun (lo, hi)) (second : IsRun run) : IsRun (lo, max hi run.2) :=
  ⟨Nat.le_trans first.1 (Nat.le_max_left _ _), first.2.1, max_isValidChar first.2.2 second.2.2⟩

theorem joinFrom_distant (first : IsRun (lo, hi)) (rest : InOrder Rising runs)
    (later : ∀ run ∈ runs, lo ≤ run.1) :
    InOrder Distant (joinFrom lo hi runs) ∧ ∀ run ∈ joinFrom lo hi runs, lo ≤ run.1 := by
  induction runs generalizing lo hi with
  | nil => exact ⟨InOrder.cons_iff.mpr ⟨first, by simp, .nil⟩, by simp [joinFrom]⟩
  | cons run runs ih =>
    obtain ⟨a, b⟩ := run
    obtain ⟨second, before, tail⟩ := InOrder.cons_iff.mp rest
    have le : lo ≤ a := later (a, b) (by simp)
    by_cases touch : a ≤ hi + 1
    · simpa [joinFrom, touch] using ih (first.join second) tail fun r m => later r (by simp [m])
    · obtain ⟨distant, bound⟩ := ih second tail before
      simp only [joinFrom, touch, if_false]
      refine ⟨InOrder.cons_iff.mpr ⟨first, ?_, distant⟩, ?_⟩
      · intro r member
        have := bound r member
        simp only [Distant]
        omega
      · intro r member
        rcases List.mem_cons.mp member with rfl | old
        · exact Nat.le_refl _
        · exact Nat.le_trans le (bound r old)

theorem covers_joinFrom (first : lo ≤ hi) (rest : InOrder Rising runs)
    (later : ∀ run ∈ runs, lo ≤ run.1) :
    Covers (joinFrom lo hi runs) n ↔ (lo ≤ n ∧ n ≤ hi) ∨ Covers runs n := by
  induction runs generalizing lo hi with
  | nil => simp [joinFrom, Covers]
  | cons run runs ih =>
    obtain ⟨a, b⟩ := run
    obtain ⟨second, before, tail⟩ := InOrder.cons_iff.mp rest
    have le : lo ≤ a := later (a, b) (by simp)
    have run := second.1
    by_cases touch : a ≤ hi + 1
    · rw [joinFrom, if_pos touch, covers_cons,
        ih (Nat.le_trans first (Nat.le_max_left _ _)) tail fun r m => later r (by simp [m]),
        ← or_assoc]
      exact or_congr_left (by simp only at run ⊢; omega)
    · rw [joinFrom, if_neg touch, covers_cons, covers_cons, ih second.1 tail before]

theorem joinRuns_distant (rising : InOrder Rising runs) : InOrder Distant (joinRuns runs) := by
  cases runs with
  | nil => exact .nil
  | cons run runs =>
    obtain ⟨first, before, tail⟩ := InOrder.cons_iff.mp rising
    exact (joinFrom_distant first tail before).1

theorem joinRuns_apart (rising : InOrder Rising runs) : InOrder Apart (joinRuns runs) :=
  (joinRuns_distant rising).apart

theorem covers_joinRuns (rising : InOrder Rising runs) :
    Covers (joinRuns runs) n ↔ Covers runs n := by
  cases runs with
  | nil => rfl
  | cons run runs =>
    obtain ⟨first, before, tail⟩ := InOrder.cons_iff.mp rising
    rw [joinRuns, covers_joinFrom first.1 tail before, covers_cons]

theorem joined_separate (ordered : Ordered s) : Separate s.joined :=
  joinRuns_apart ordered.rising

theorem dropWhile_not_lt (key : Nat × Nat → Nat) (rising : runs.Pairwise fun r t => key r ≤ key t) :
    ∀ run ∈ runs.dropWhile (key · < n), n ≤ key run := by
  induction runs with
  | nil => simp
  | cons first runs ih =>
    obtain ⟨before, tail⟩ := List.pairwise_cons.mp rising
    by_cases below : key first < n
    · simpa [List.dropWhile_cons, below] using ih tail
    · intro r member
      simp only [List.dropWhile_cons, below, decide_false, Bool.false_eq_true, if_false] at member
      rcases List.mem_cons.mp member with rfl | old
      · exact Nat.le_of_not_lt below
      · exact Nat.le_trans (Nat.le_of_not_lt below) (before r old)

theorem mergeRuns_mem : run ∈ mergeRuns a b ↔ run ∈ a ∨ run ∈ b := by
  induction a generalizing b with
  | nil => simp [mergeRuns]
  | cons first a ih =>
    have split : run ∈ b ↔ run ∈ b.takeWhile (·.1 < first.1) ∨ run ∈ b.dropWhile (·.1 < first.1) := by
      rw [← List.mem_append, List.takeWhile_append_dropWhile]
    rw [mergeRuns, List.mem_append, List.mem_cons, List.mem_cons, ih, split]
    constructor
    · rintro (left | rfl | old | right) <;> simp_all
    · rintro ((rfl | old) | left | right) <;> simp_all

theorem mergeRuns_rising (left : InOrder Rising a) (right : InOrder Rising b) :
    InOrder Rising (mergeRuns a b) := by
  induction a generalizing b with
  | nil => exact right
  | cons first a ih =>
    obtain ⟨isRun, before, tail⟩ := InOrder.cons_iff.mp left
    have above := dropWhile_not_lt (n := first.1) Prod.fst right.sorted
    have dropped := right.sublist (List.dropWhile_sublist (fun run => run.1 < first.1))
    have taken := right.sublist (List.takeWhile_sublist (fun run => run.1 < first.1))
    have rest : ∀ later ∈ mergeRuns a (b.dropWhile (·.1 < first.1)), Rising first later := by
      intro later member
      cases mergeRuns_mem.mp member with
      | inl old => exact before later old
      | inr new => exact above later new
    rw [mergeRuns]
    refine taken.append (InOrder.cons_iff.mpr ⟨isRun, rest, ih tail dropped⟩) ?_
    intro r small t large
    have below : r.1 < first.1 := by
      simpa using List.all_eq_true.mp List.all_takeWhile r small
    rcases List.mem_cons.mp large with rfl | later
    · exact Nat.le_of_lt below
    · exact Nat.le_trans (Nat.le_of_lt below) (rest t later)

theorem union_ordered (left : Ordered s) (right : Ordered t) : Ordered (s.union t) := by
  rw [union]
  split
  · exact left
  · exact (joinRuns_apart (mergeRuns_rising left.rising right.rising)).follows

theorem union_separate (left : Separate s) (right : Separate t) : Separate (s.union t) := by
  rw [union]
  split
  · exact left
  · exact joinRuns_apart (mergeRuns_rising left.ordered.rising right.ordered.rising)

theorem mem_union (left : Ordered s) (right : Ordered t) : c ∈ s.union t ↔ c ∈ s ∨ c ∈ t := by
  rw [union]
  split
  · rename_i trivial
    simp only [Bool.or_eq_true, List.isEmpty_iff, beq_iff_eq] at trivial
    rcases trivial with nothing | rfl
    · simp [mem_iff_covers, nothing, Covers]
    · simp
  · rw [mem_iff_covers, mem_iff_covers, mem_iff_covers,
      covers_joinRuns (mergeRuns_rising left.rising right.rising)]
    simp only [Covers, mergeRuns_mem, or_and_right, exists_or]

end Typeahead.CharSet
