import Mathlib.Algebra.BigOperators.Ring.List
import Typeahead.Pattern.Machine

namespace Typeahead.Pattern

-- Between two characters of a text.
structure Place where
  before : Option Char
  rest : List Char
  offset : Nat

def Place.start (text : List Char) : Place := ⟨none, text, 0⟩

def Place.after (a : Place) (c : Char) (rest : List Char) : Place :=
  ⟨some c, rest, a.offset + c.utf8Size⟩

-- From where, to where, and the marks set in between, the earliest in front.
def Move := Place → Place → List Mark → Prop

namespace Move
variable {m m' n n' : Move} {a b c : Place} {ms : List Mark}

@[ext] theorem ext (same : ∀ a b ms, m a b ms ↔ n a b ms) : m = n := by
  funext a b ms
  exact propext (same a b ms)

instance : Zero Move := ⟨fun _ _ _ => False⟩

instance : One Move := ⟨fun a b ms => a = b ∧ ms = []⟩

instance : Add Move := ⟨fun m n a b ms => m a b ms ∨ n a b ms⟩

instance : Mul Move :=
  ⟨fun m n a c ms => ∃ b first second, m a b first ∧ n b c second ∧ ms = first ++ second⟩

theorem zero_iff : (0 : Move) a b ms ↔ False := Iff.rfl

theorem add_iff : (m + n) a b ms ↔ m a b ms ∨ n a b ms := Iff.rfl

theorem mul_iff : (m * n) a c ms ↔
    ∃ b first second, m a b first ∧ n b c second ∧ ms = first ++ second := Iff.rfl

theorem one_intro : (1 : Move) a a [] := ⟨rfl, rfl⟩

theorem mul_intro (left : m a b first) (right : n b c second) : (m * n) a c (first ++ second) :=
  ⟨b, first, second, left, right, rfl⟩

instance : Semiring Move where
  add_assoc m n k := by ext; simp only [add_iff, or_assoc]
  zero_add m := by ext; simp only [add_iff, zero_iff, false_or]
  add_zero m := by ext; simp only [add_iff, zero_iff, or_false]
  add_comm m n := by ext; simp only [add_iff, or_comm]
  nsmul := nsmulRec
  zero_mul m := by ext; simp [mul_iff, zero_iff]
  mul_zero m := by ext; simp [mul_iff, zero_iff]
  one_mul m := by
    ext a b ms
    constructor
    · intro given
      obtain ⟨_, _, _, ⟨rfl, rfl⟩, right, rfl⟩ := given
      exact right
    · intro whole
      exact ⟨a, [], ms, one_intro, whole, rfl⟩
  mul_one m := by
    ext a b ms
    constructor
    · intro given
      obtain ⟨_, _, _, left, ⟨rfl, rfl⟩, rfl⟩ := given
      rwa [List.append_nil]
    · intro whole
      exact ⟨b, ms, [], whole, one_intro, by simp⟩
  mul_assoc m n k := by
    ext a d ms
    constructor
    · intro given
      obtain ⟨_, _, third, ⟨_, first, second, one, two, rfl⟩, three, rfl⟩ := given
      exact ⟨_, first, _, one, mul_intro two three, by simp⟩
    · intro given
      obtain ⟨_, first, _, one, ⟨_, second, third, two, three, rfl⟩, rfl⟩ := given
      exact ⟨_, _, third, mul_intro one two, three, by simp⟩
  left_distrib m n k := by
    ext a b ms
    constructor
    · intro given
      obtain ⟨_, _, _, left, right | right, rfl⟩ := given
      · exact .inl (mul_intro left right)
      · exact .inr (mul_intro left right)
    · intro either
      rcases either with ⟨_, _, _, left, right, rfl⟩ | ⟨_, _, _, left, right, rfl⟩
      · exact mul_intro left (.inl right)
      · exact mul_intro left (.inr right)
  right_distrib m n k := by
    ext a b ms
    constructor
    · intro given
      obtain ⟨_, _, _, left | left, right, rfl⟩ := given
      · exact .inl (mul_intro left right)
      · exact .inr (mul_intro left right)
    · intro either
      rcases either with ⟨_, _, _, left, right, rfl⟩ | ⟨_, _, _, left, right, rfl⟩
      · exact mul_intro (.inl left) right
      · exact mul_intro (.inr left) right
  npow := npowRec

def step (s : CharSet) : Move := fun a b ms =>
  ms = [] ∧ ∃ c rest, a.rest = c :: rest ∧ c ∈ s ∧ b = a.after c rest

def look (l : Look) : Move := fun a b ms => a = b ∧ ms = [] ∧ l.holds a.before a.rest = true

def mark (e : Edge) : Move := fun a b ms => a = b ∧ ms = [⟨e, a.offset⟩]

def star (m : Move) : Move := fun a b ms => ∃ n : Nat, (m ^ n) a b ms

-- Some rounds, but no more than a number.
def upTo (m : Move) : Nat → Move
  | 0 => 1
  | n + 1 => m * upTo m n + 1

-- The rounds of a repetition: so many, and then any number more or up to the most.
def rounds (m : Move) (least : Nat) (most : Option Nat) : Move :=
  m ^ least * (match most with
    | none => star m
    | some most => upTo m (most - least))

theorem step_congr (same : ∀ c, c ∈ s ↔ c ∈ t) : step s = step t := by
  ext a b ms
  simp only [step, same]

theorem step_empty : step .empty = 0 := by
  ext a b ms
  simp [step, zero_iff, CharSet.mem_iff, CharSet.contains, CharSet.empty]

theorem step_add (both : ∀ c, c ∈ u ↔ c ∈ s ∨ c ∈ t) : step u = step s + step t := by
  ext a b ms
  simp only [step, add_iff, both]
  constructor
  · intro given
    obtain ⟨rfl, c, rest, here, left | right, rfl⟩ := given
    · exact .inl ⟨rfl, c, rest, here, left, rfl⟩
    · exact .inr ⟨rfl, c, rest, here, right, rfl⟩
  · intro either
    rcases either with ⟨rfl, c, rest, here, left, rfl⟩ | ⟨rfl, c, rest, here, right, rfl⟩
    · exact ⟨rfl, c, rest, here, .inl left, rfl⟩
    · exact ⟨rfl, c, rest, here, .inr right, rfl⟩

theorem star_unfold (m : Move) : star m = m * star m + 1 := by
  ext a b ms
  constructor
  · intro given
    obtain ⟨n, way⟩ := given
    cases n with
    | zero => exact .inr (by rwa [pow_zero] at way)
    | succ n =>
      rw [pow_succ'] at way
      obtain ⟨_, first, second, left, right, rfl⟩ := way
      exact .inl (mul_intro left ⟨n, right⟩)
  · intro either
    rcases either with ⟨_, _, _, left, ⟨n, right⟩, rfl⟩ | nothing
    · exact ⟨n + 1, by rw [pow_succ']; exact mul_intro left right⟩
    · exact ⟨0, by rwa [pow_zero]⟩

-- Refinement: every way is a way of the other move, and what that one joins is still joined.
structure Refines (m n : Move) : Prop where
  sound : ∀ a b ms, m a b ms → n a b ms
  complete : ∀ a b ms, n a b ms → ∃ ms', m a b ms'

namespace Refines

theorem refl (m : Move) : Refines m m := ⟨fun _ _ _ way => way, fun _ _ ms way => ⟨ms, way⟩⟩

theorem of_eq (equal : m = n) : Refines m n := equal ▸ refl m

theorem trans (first : Refines m n) (second : Refines n k) : Refines m k := by
  refine ⟨fun a b ms way => second.sound a b ms (first.sound a b ms way), ?_⟩
  intro a b ms way
  obtain ⟨ms', way'⟩ := second.complete a b ms way
  exact first.complete a b ms' way'

theorem mul (left : Refines m m') (right : Refines n n') : Refines (m * n) (m' * n') := by
  constructor
  · intro a b _ given
    obtain ⟨c, first, second, one, two, rfl⟩ := given
    exact mul_intro (left.sound _ _ _ one) (right.sound _ _ _ two)
  · intro a b _ given
    obtain ⟨c, first, second, one, two, rfl⟩ := given
    obtain ⟨_, one'⟩ := left.complete _ _ _ one
    obtain ⟨_, two'⟩ := right.complete _ _ _ two
    exact ⟨_, mul_intro one' two'⟩

theorem add (left : Refines m m') (right : Refines n n') : Refines (m + n) (m' + n') := by
  constructor
  · intro a b ms either
    cases either with
    | inl one => exact .inl (left.sound _ _ _ one)
    | inr two => exact .inr (right.sound _ _ _ two)
  · intro a b ms either
    cases either with
    | inl one =>
      obtain ⟨ms', one'⟩ := left.complete _ _ _ one
      exact ⟨ms', .inl one'⟩
    | inr two =>
      obtain ⟨ms', two'⟩ := right.complete _ _ _ two
      exact ⟨ms', .inr two'⟩

theorem pow (each : Refines m n) (k : Nat) : Refines (m ^ k) (n ^ k) := by
  induction k with
  | zero => exact .of_eq (by rw [pow_zero, pow_zero])
  | succ k ih =>
    rw [pow_succ, pow_succ]
    exact ih.mul each

theorem star (each : Refines m n) : Refines (star m) (star n) := by
  constructor
  · intro a b ms given
    obtain ⟨k, way⟩ := given
    exact ⟨k, (each.pow k).sound _ _ _ way⟩
  · intro a b ms given
    obtain ⟨k, way⟩ := given
    obtain ⟨ms', way'⟩ := (each.pow k).complete _ _ _ way
    exact ⟨ms', k, way'⟩

end Refines
end Move
end Typeahead.Pattern
