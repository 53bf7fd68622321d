import Typeahead.Proofs.CharSet.Operations

namespace Typeahead.CharSet
variable {s t : CharSet} {c : Char} {n lo hi : Nat} {run : Nat × Nat} {runs : List (Nat × Nat)}

-- The last character before the surrogates and the first behind them.

def beforeSurrogates : Char := '\uD7FF'

def behindSurrogates : Char := '\uE000'

-- No character of one run stands before the surrogates and another behind them.
def Unbroken (run : Nat × Nat) : Prop := run.2 ≤ 0xd7ff ∨ 0xe000 ≤ run.1

structure Spaced (s : CharSet) : Prop where
  distant : InOrder Distant s.runs
  unbroken : ∀ run ∈ s.runs, Unbroken run

theorem Spaced.ordered (spaced : Spaced s) : Ordered s := spaced.distant.apart.follows

theorem joinFrom_unbroken (first : IsRun (lo, hi)) (rest : InOrder Rising runs)
    (own : Unbroken (lo, hi)) (others : ∀ run ∈ runs, Unbroken run) :
    ∀ run ∈ joinFrom lo hi runs, Unbroken run := by
  induction runs generalizing lo hi with
  | nil => simpa [joinFrom] using own
  | cons run runs ih =>
    obtain ⟨a, b⟩ := run
    obtain ⟨second, _, tail⟩ := InOrder.cons_iff.mp rest
    obtain ⟨one, others⟩ := List.forall_mem_cons.mp others
    by_cases touch : a ≤ hi + 1
    · have whole : Unbroken (lo, max hi b) := by
        have valid := second.2.1
        simp only [Unbroken, Nat.isValidChar] at *
        omega
      simpa [joinFrom, touch] using ih (first.join second) tail whole others
    · simp only [joinFrom, touch, if_false]
      exact List.forall_mem_cons.mpr ⟨own, ih second tail one others⟩

theorem joinRuns_unbroken (rising : InOrder Rising runs) (each : ∀ run ∈ runs, Unbroken run) :
    ∀ run ∈ joinRuns runs, Unbroken run := by
  cases runs with
  | nil => simp [joinRuns]
  | cons run runs =>
    obtain ⟨first, _, tail⟩ := InOrder.cons_iff.mp rising
    obtain ⟨own, others⟩ := List.forall_mem_cons.mp each
    exact joinFrom_unbroken first tail own others

theorem spaced_empty : Spaced empty := ⟨.nil, by simp [empty]⟩

theorem spaced_single (c : Char) : Spaced (single c) := by
  refine ⟨InOrder.cons_iff.mpr ⟨⟨Nat.le_refl _, c.valid, c.valid⟩, by simp, .nil⟩, ?_⟩
  intro run member
  rw [List.mem_singleton.mp member]
  have valid : c.toNat.isValidChar := c.valid
  simp only [Unbroken, Nat.isValidChar] at *
  omega

theorem Spaced.union (left : Spaced s) (right : Spaced t) : Spaced (s.union t) := by
  rw [CharSet.union]
  split
  · exact left
  · have rising := mergeRuns_rising left.ordered.rising right.ordered.rising
    refine ⟨joinRuns_distant rising, joinRuns_unbroken rising fun run member => ?_⟩
    cases mergeRuns_mem.mp member with
    | inl old => exact left.unbroken run old
    | inr new => exact right.unbroken run new

theorem previousCode_lt (positive : 0 < n) : previousCode n < n := by
  simp only [previousCode]
  split <;> omega

theorem covers_append {others : List (Nat × Nat)} :
    Covers (runs ++ others) n ↔ Covers runs n ∨ Covers others n := by
  simp [Covers, or_and_right, exists_or]

theorem behind_of_covers (spaced : InOrder Distant (run :: runs)) (covered : Covers runs n) :
    run.2 + 1 < n := by
  obtain ⟨_, before, _⟩ := InOrder.cons_iff.mp spaced
  obtain ⟨later, member, start, _⟩ := covered
  exact Nat.lt_of_lt_of_le (before later member) start

theorem first_le_of_covers (spaced : InOrder Distant (run :: runs)) (covered : Covers (run :: runs) n) :
    run.1 ≤ n := by
  rcases covers_cons.mp covered with own | later
  · exact own.1
  · have behind := behind_of_covers spaced later
    have rising := (spaced.isRun run (by simp)).1
    omega

-- Two neighbours meet across the surrogates.
def Meet : List (Nat × Nat) → Prop
  | first :: second :: rest => first.2 = 0xd7ff ∧ second.1 = 0xe000 ∨ Meet (second :: rest)
  | _ => False

theorem gap_covers (left : hi.isValidChar) (right : lo.isValidChar) (valid : n.isValidChar)
    (between : hi + 1 < lo) :
    (min (nextCode hi) (previousCode lo) ≤ n ∧ n ≤ max (nextCode hi) (previousCode lo)) ↔
      (hi < n ∧ n < lo) ∨ (hi = 0xd7ff ∧ lo = 0xe000) ∧ (n = 0xd7ff ∨ n = 0xe000) := by
  simp only [nextCode, previousCode, Nat.isValidChar] at *
  split <;> split <;> omega

theorem covers_gapsAfter (valid : n.isValidChar) (spaced : InOrder Distant ((lo, hi) :: runs)) :
    Covers (gapsAfter hi runs) n ↔
      (hi < n ∧ ¬ Covers runs n) ∨ Meet ((lo, hi) :: runs) ∧ (n = 0xd7ff ∨ n = 0xe000) := by
  induction runs generalizing lo hi with
  | nil =>
    have inside := valid_le_lastCode valid
    have first := (spaced.isRun (lo, hi) (by simp)).2.2
    have reaches : nextCode hi ≤ n ↔ hi < n :=
      ⟨Nat.lt_of_lt_of_le (lt_nextCode hi), nextCode_le valid⟩
    rw [gapsAfter]
    split
    · simp [Covers, Meet, reaches, inside]
    · have outside : ¬ hi < n := by omega
      simp [Covers, Meet, outside]
  | cons run runs ih =>
    obtain ⟨a, b⟩ := run
    obtain ⟨first, before, tail⟩ := InOrder.cons_iff.mp spaced
    obtain ⟨second, _⟩ := InOrder.cons_iff.mp tail
    have between : hi + 1 < a := before (a, b) (by simp)
    have rising : a ≤ b := second.1
    rw [gapsAfter, covers_cons, ih tail, covers_cons,
      gap_covers first.2.2 second.2.1 valid between, Meet]
    by_cases covered : Covers runs n
    · have behind : b + 1 < n := behind_of_covers tail covered
      have reached : ¬ n < a := by omega
      simp only [covered, reached, not_true, and_false, or_true, false_or]
      rw [or_and_right]
    · have split : hi < n ∧ ¬ (a ≤ n ∧ n ≤ b) ↔ hi < n ∧ n < a ∨ b < n := by omega
      simp only [covered, not_false_eq_true, and_true, or_false]
      rw [split, or_and_right, or_or_or_comm]

theorem covers_gaps (valid : n.isValidChar) (spaced : InOrder Distant runs) :
    Covers (gaps runs) n ↔ ¬ Covers runs n ∨ Meet runs ∧ (n = 0xd7ff ∨ n = 0xe000) := by
  cases runs with
  | nil =>
    have inside := valid_le_lastCode valid
    simp [gaps, Covers, Meet, inside]
  | cons run runs =>
    obtain ⟨lo, hi⟩ := run
    obtain ⟨first, _⟩ := InOrder.cons_iff.mp spaced
    have rising : lo ≤ hi := first.1
    have front : Covers (if 0 < lo then [(0, previousCode lo)] else []) n ↔ n < lo := by
      split
      · rename_i positive
        have reaches : n ≤ previousCode lo ↔ n < lo :=
          ⟨fun le => Nat.lt_of_le_of_lt le (previousCode_lt positive), le_previousCode valid first.2.1⟩
        simp [Covers, reaches]
      · have none : ¬ n < lo := by omega
        simp [Covers, none]
    rw [gaps, covers_append, front, covers_gapsAfter valid spaced, covers_cons]
    by_cases covered : Covers runs n
    · have behind : hi + 1 < n := behind_of_covers spaced covered
      have reached : ¬ n < lo := by omega
      simp only [covered, reached, not_true, and_false, or_true, false_or]
    · simp only [covered, not_false_eq_true, and_true, or_false]
      have split : ¬ (lo ≤ n ∧ n ≤ hi) ↔ n < lo ∨ hi < n := by omega
      rw [split, or_assoc]

-- A run meets the next one if it holds the character before the surrogates and a later one holds that
-- behind them.
theorem meets_next {next : Nat × Nat} (spaced : InOrder Distant (run :: next :: runs))
    (unbroken : Unbroken run) : run.2 = 0xd7ff ∧ next.1 = 0xe000 ↔
      (run.1 ≤ 0xd7ff ∧ 0xd7ff ≤ run.2) ∧ Covers (next :: runs) 0xe000 := by
  obtain ⟨first, before, tail⟩ := InOrder.cons_iff.mp spaced
  obtain ⟨second, _⟩ := InOrder.cons_iff.mp tail
  constructor
  · rintro ⟨last, start⟩
    have rising := first.1
    refine ⟨by omega, next, by simp, Nat.le_of_eq start, ?_⟩
    rw [← start]
    exact second.1
  · rintro ⟨own, later⟩
    have apart : run.2 + 1 < next.1 := before next (by simp)
    have reaches := first_le_of_covers tail later
    have valid := second.2.1
    simp only [Unbroken, Nat.isValidChar] at unbroken valid
    omega

-- A set that was joined meets itself across the surrogates where it holds the characters on both
-- sides of them.
theorem meet_iff (spaced : InOrder Distant runs) (unbroken : ∀ run ∈ runs, Unbroken run) :
    Meet runs ↔ Covers runs 0xd7ff ∧ Covers runs 0xe000 := by
  induction runs with
  | nil => simp [Meet, Covers]
  | cons run runs ih =>
    obtain ⟨own, others⟩ := List.forall_mem_cons.mp unbroken
    obtain ⟨_, _, tail⟩ := InOrder.cons_iff.mp spaced
    simp only [Unbroken] at own
    cases runs with
    | nil =>
      simp only [Meet, Covers, List.mem_singleton, exists_eq_left, false_iff]
      omega
    | cons next runs =>
      have parts : ∀ n, Covers (run :: next :: runs) n ↔
          (run.1 ≤ n ∧ n ≤ run.2) ∨ Covers (next :: runs) n := fun n => covers_cons
      rw [Meet, meets_next spaced own, ih tail others, parts, parts]
      constructor
      · rintro (⟨here, behind⟩ | ⟨before, behind⟩)
        · exact ⟨.inl here, .inr behind⟩
        · exact ⟨.inr before, .inr behind⟩
      · rintro ⟨before, behind⟩
        -- a run that holds the one character does not hold the other
        have outside : ¬ (run.1 ≤ 0xe000 ∧ 0xe000 ≤ run.2) := by
          rcases before with here | later
          · omega
          · have apart := behind_of_covers spaced later
            omega
        have later := behind.resolve_left outside
        exact before.imp (⟨·, later⟩) (⟨·, later⟩)

theorem mem_complement (spaced : Spaced s) : c ∈ s.complement ↔ c ∉ s ∨
    (beforeSurrogates ∈ s ∧ behindSurrogates ∈ s) ∧ (c = beforeSurrogates ∨ c = behindSurrogates) := by
  have codes : (c = beforeSurrogates ↔ c.toNat = 0xd7ff) ∧ (c = behindSurrogates ↔ c.toNat = 0xe000) :=
    ⟨Char.toNat_inj.symm, Char.toNat_inj.symm⟩
  have before : beforeSurrogates ∈ s ↔ Covers s.runs 0xd7ff := mem_iff_covers
  have behind : behindSurrogates ∈ s ↔ Covers s.runs 0xe000 := mem_iff_covers
  have valid : c.toNat.isValidChar := c.valid
  have gaps : c ∈ s.complement ↔ Covers (gaps s.runs) c.toNat := mem_iff_covers
  rw [gaps, covers_gaps valid spaced.distant,
    meet_iff spaced.distant spaced.unbroken, mem_iff_covers, before, behind, codes.1, codes.2]

end Typeahead.CharSet
