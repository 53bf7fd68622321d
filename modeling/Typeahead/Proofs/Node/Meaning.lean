import Typeahead.Match
import Typeahead.Proofs.Node.Reading
import Typeahead.Proofs.Pattern.Search

namespace Typeahead
open Pattern (Tree Place Move Mark)

def CharClass.step (c : CharClass) : Move :=
  match c.set? with
  | some s => .step s
  | none => 0

def Times.move : Times → Move → Move
  | .once, m => m
  | .optional, m => m + 1
  | .any, m => m.star

namespace Fragment

mutual
def move (index : Text → Nat) : Fragment → Move
  | .atom times c => times.move c.step
  | .group times name _ body =>
    times.move (.mark (.opens (index name)) * move index body * .mark (.closes (index name)))
  | .sequence parts => moveAll index parts
  | .choice times branches => times.move (moveAny index branches)

def moveAll (index : Text → Nat) : List Fragment → Move
  | [] => 1
  | f :: rest => move index f * moveAll index rest

def moveAny (index : Text → Nat) : List Fragment → Move
  | [] => 0
  | f :: rest => move index f + moveAny index rest
end

end Fragment

-- A pattern for a move, in the form that normal forms are built from.
structure Means (p : Pattern) (m : Move) : Prop where
  tidy : p.Tidy
  refines : Move.Refines p.move m

structure AllMean (ps : List Pattern) (m : Move) : Prop where
  tidy : Pattern.AllTidy ps
  refines : Move.Refines (ps.map Pattern.move).prod m

theorem means_times {item : Tree} {m : Move} (times : Times)
    (means : Means (Pattern.ofTree item) m) :
    Means (Pattern.ofTree (times.apply item)) (times.move m) := by
  cases times with
  | once => exact means
  | optional =>
    refine ⟨Pattern.ofRepetition_tidy means.tidy _ _,
      (Pattern.ofRepetition_refines means.tidy (some 1) true).trans ?_⟩
    have one : ∀ m : Move, m.rounds 0 (some 1) = m + 1 := by simp [Move.rounds, Move.upTo]
    rw [one]
    exact means.refines.add (.refl 1)
  | any =>
    refine ⟨Pattern.ofRepetition_tidy means.tidy _ _,
      (Pattern.ofRepetition_refines means.tidy none true).trans ?_⟩
    have star : ∀ m : Move, m.rounds 0 none = m.star := by simp [Move.rounds]
    rw [star]
    exact means.refines.star

theorem ofTrees_eq (trees : List Tree) : Pattern.ofTrees trees = trees.map Pattern.ofTree := by
  induction trees with
  | nil => rfl
  | cons t trees ih => rw [Pattern.ofTrees, ih, List.map_cons]

theorem allMean_one {p : Pattern} {m : Move} (means : Means p m) : AllMean [p] m :=
  ⟨⟨means.tidy, trivial⟩, by simpa using means.refines⟩

theorem AllMean.append {ps qs : List Pattern} {m n : Move} (left : AllMean ps m)
    (right : AllMean qs n) : AllMean (ps ++ qs) (m * n) := by
  constructor
  · rw [Pattern.allTidy_iff]
    intro p member
    cases List.mem_append.mp member with
    | inl member => exact Pattern.allTidy_iff.mp left.tidy p member
    | inr member => exact Pattern.allTidy_iff.mp right.tidy p member
  · rw [List.map_append, List.prod_append]
    exact left.refines.mul right.refines

theorem means_ofItems {items : List Tree} {m : Move} (all : AllMean (Pattern.ofTrees items) m) :
    Means (Pattern.ofTree (Tree.ofItems items)) m := by
  unfold Tree.ofItems
  split
  · exact ⟨trivial, by simpa [Pattern.ofTrees, Pattern.ofTree, Pattern.move] using all.refines⟩
  · rename_i item
    exact ⟨all.tidy.1, by simpa [Pattern.ofTrees] using all.refines⟩
  · exact ⟨Pattern.ofParts_tidy all.tidy, by
      rw [Pattern.ofTree, Pattern.ofParts_move]
      exact all.refines⟩

theorem means_ofBranches {trees : List Tree} {m : Move} (some' : trees ≠ [])
    (tidy : Pattern.AllTidy (Pattern.ofTrees trees))
    (refines : Move.Refines ((Pattern.ofTrees trees).map Pattern.move).sum m) :
    Means (Pattern.ofTree (Tree.ofBranches trees)) m := by
  unfold Tree.ofBranches
  split
  · exact ⟨tidy.1, by simpa [Pattern.ofTrees] using refines⟩
  · exact ⟨Pattern.ofBranches_tidy tidy, by
      rw [Pattern.ofTree, Pattern.ofBranches_move tidy]
      exact refines⟩

namespace Fragment

mutual
theorem means (index : Text → Nat) : ∀ f : Fragment, f.Readable CharClass.OneAtom →
    AllMean (Pattern.ofTrees (f.items index)) (f.move index)
  | .atom times c, readable => by
    obtain ⟨s, known⟩ := Option.isSome_iff_exists.mp readable
    obtain ⟨equal, tidy⟩ := (CharClass.isAtom known).pattern_eq
    have item : Means (Pattern.ofTree c.tree) c.step :=
      ⟨tidy, .of_eq (by rw [equal, CharClass.step, known])⟩
    exact allMean_one (means_times times item)
  | .group times name node body, readable => by
    have inner := means_ofItems (means index body readable.2)
    refine allMean_one (means_times times ⟨inner.tidy, ?_⟩)
    exact ((Move.Refines.refl _).mul inner.refines).mul (.refl _)
  | .sequence parts, readable => means_sequence index parts readable
  | .choice times branches, readable => by
    obtain ⟨tidy, refines⟩ := means_branches index branches readable.2
    refine allMean_one (means_times times (means_ofBranches ?_ tidy refines))
    cases branches with
    | nil => exact absurd rfl readable.1
    | cons f branches => simp [trees]

theorem means_sequence (index : Text → Nat) : ∀ parts : List Fragment, AllReadable CharClass.OneAtom parts →
    AllMean (Pattern.ofTrees (itemsOfAll index parts)) (moveAll index parts)
  | [], _ => ⟨trivial, .refl 1⟩
  | f :: parts, readable => by
    rw [itemsOfAll, ofTrees_eq, List.map_append, ← ofTrees_eq, ← ofTrees_eq]
    exact (means index f readable.1).append (means_sequence index parts readable.2)

theorem means_branches (index : Text → Nat) : ∀ branches : List Fragment,
    AllReadable CharClass.OneAtom branches →
    Pattern.AllTidy (Pattern.ofTrees (trees index branches)) ∧
      Move.Refines ((Pattern.ofTrees (trees index branches)).map Pattern.move).sum
        (moveAny index branches)
  | [], _ => ⟨trivial, .refl 0⟩
  | f :: branches, readable => by
    have first := means_ofItems (means index f readable.1)
    obtain ⟨tidy, refines⟩ := means_branches index branches readable.2
    refine ⟨⟨first.tidy, tidy⟩, ?_⟩
    rw [trees, Pattern.ofTrees, List.map_cons, List.sum_cons]
    exact first.refines.add refines
end

theorem means_anchored {f : Fragment} (readable : f.Readable CharClass.OneAtom) :
    Means (Pattern.ofTree f.anchoredTree) (.look .textStart * (f.move f.number * .look .textEnd)) := by
  have inner := means_ofItems (means f.number f readable)
  have parts : AllMean [.look .textStart, Pattern.ofTree (Tree.ofItems (f.items f.number)), .look .textEnd]
      (.look .textStart * (f.move f.number * .look .textEnd)) :=
    ⟨⟨trivial, inner.tidy, trivial, trivial⟩, by
      simpa [Pattern.move] using (Move.Refines.refl _).mul (inner.refines.mul (.refl _))⟩
  exact ⟨Pattern.ofParts_tidy parts.tidy, by
    rw [anchoredTree, Pattern.ofTree, Pattern.ofParts_move]
    exact parts.refines⟩

end Fragment

structure Capture where
  name : Text
  node : Node
  span : Text.Span

-- From an offset on, a text and what is captured in it, the earliest opening in front.
abbrev Taking := Nat → Text → List Capture → Prop

namespace Taking

def nothing : Taking := fun _ text captures => text = [] ∧ captures = []

def or (p q : Taking) : Taking := fun offset text captures =>
  p offset text captures ∨ q offset text captures

def followedBy (p q : Taking) : Taking := fun offset text captures =>
  ∃ a b front back, p offset a front ∧ q (offset + Text.bytes a) b back ∧
    text = a ++ b ∧ captures = front ++ back

inductive Rounds (p : Taking) : Taking
  | none : Rounds p offset [] []
  | more (first : p offset a front) (others : Rounds p (offset + Text.bytes a) b back) :
      Rounds p offset (a ++ b) (front ++ back)

def captured (name : Text) (node : Node) (p : Taking) : Taking := fun offset text captures =>
  ∃ inner, p offset text inner ∧
    captures = ⟨name, node, ⟨offset, offset + Text.bytes text⟩⟩ :: inner

end Taking

def CharClass.taking (c : CharClass) : Taking := fun _ text captures =>
  (∃ s, c.set? = some s ∧ ∃ x ∈ s, text = [x]) ∧ captures = []

def Times.taking : Times → Taking → Taking
  | .once, p => p
  | .optional, p => p.or .nothing
  | .any, p => p.Rounds

namespace Fragment

mutual
def taking : Fragment → Taking
  | .atom times c => times.taking c.taking
  | .group times name node body => times.taking (.captured name node (taking body))
  | .sequence parts => takingAll parts
  | .choice times branches => times.taking (takingAny branches)

def takingAll : List Fragment → Taking
  | [] => .nothing
  | f :: rest => .followedBy (taking f) (takingAll rest)

def takingAny : List Fragment → Taking
  | [] => fun _ _ _ => False
  | f :: rest => .or (taking f) (takingAny rest)
end

end Fragment

def Taking.Among (p : Taking) (rows : List (Text × Node)) : Prop :=
  ∀ offset text captures, p offset text captures → ∀ c ∈ captures, (c.name, c.node) ∈ rows

section
variable {p q : Taking} {rows rows' : List (Text × Node)}

theorem Taking.Among.mono (among : p.Among rows) (more : rows ⊆ rows') : p.Among rows' :=
  fun offset text captures taken c member => more (among offset text captures taken c member)

theorem Taking.Among.times (among : p.Among rows) (times : Times) :
    (times.taking p).Among rows := by
  cases times with
  | once => exact among
  | optional =>
    intro offset text captures either
    rcases either with taken | ⟨_, rfl⟩
    · exact among offset text captures taken
    · simp
  | any =>
    intro offset text captures taken
    induction taken with
    | none => simp
    | more first _ ih =>
      intro c member
      cases List.mem_append.mp member with
      | inl member => exact among _ _ _ first c member
      | inr member => exact ih c member

end

namespace Fragment

mutual
theorem among : ∀ f : Fragment, f.taking.Among f.rows
  | .atom times c => by
    refine Taking.Among.times ?_ times
    intro _ _ _ given
    obtain ⟨_, rfl⟩ := given
    simp
  | .group times name node body => by
    refine Taking.Among.times ?_ times
    intro offset text _ given c member
    obtain ⟨inner, taken, rfl⟩ := given
    rcases List.mem_cons.mp member with rfl | member
    · exact List.mem_cons_self ..
    · exact List.mem_cons_of_mem _ (among body _ _ _ taken c member)
  | .sequence parts => among_sequence parts
  | .choice times branches => (among_branches branches).times times

theorem among_sequence : ∀ parts : List Fragment, (takingAll parts).Among (rowsOfAll parts)
  | [] => by
    intro _ _ _ given
    obtain ⟨_, rfl⟩ := given
    simp
  | f :: parts => by
    intro _ _ _ given c member
    obtain ⟨_, _, _, _, first, others, rfl, rfl⟩ := given
    cases List.mem_append.mp member with
    | inl member => exact List.mem_append_left _ (among f _ _ _ first c member)
    | inr member => exact List.mem_append_right _ (among_sequence parts _ _ _ others c member)

theorem among_branches : ∀ branches : List Fragment, (takingAny branches).Among (rowsOfAll branches)
  | [] => fun _ _ _ taken => taken.elim
  | f :: branches => by
    intro offset text captures either c member
    cases either with
    | inl taken => exact List.mem_append_left _ (among f _ _ _ taken c member)
    | inr taken => exact List.mem_append_right _ (among_branches branches _ _ _ taken c member)
end

end Fragment

open Pattern (placeOf? spanOf?)

-- The last capture of a group, by its number.
def lastOf? (index : Text → Nat) (group : Nat) (captures : List Capture) : Option Capture :=
  captures.reverse.find? fun c => index c.name = group

def Recorded (index : Text → Nat) (captures : List Capture) (ms : List Mark) : Prop :=
  ∀ group,
    placeOf? (.opens group) ms.reverse = (lastOf? index group captures).map (·.span.start) ∧
    placeOf? (.closes group) ms.reverse = (lastOf? index group captures).map (·.span.stop)

section
variable {index : Text → Nat} {front back captures : List Capture} {first second ms : List Mark}

theorem placeOf?_append (edge : Pattern.Edge) (a b : List Mark) :
    placeOf? edge (a ++ b) = (placeOf? edge a).or (placeOf? edge b) := by
  rw [placeOf?, List.find?_append, Option.map_or]
  rfl

theorem placeOf?_one (edge edge' : Pattern.Edge) (offset : Nat) :
    placeOf? edge [⟨edge', offset⟩] = if edge' = edge then some offset else none := by
  by_cases here : edge' = edge <;> simp [placeOf?, here]

theorem spanOf?_isSome_iff {group : Nat} : (spanOf? group ms).isSome ↔
    (placeOf? (.closes group) ms).isSome ∧ (placeOf? (.opens group) ms).isSome := by
  unfold spanOf?
  cases placeOf? (.closes group) ms <;> cases placeOf? (.opens group) ms <;> simp

theorem lastOf?_append (group : Nat) : lastOf? index group (front ++ back) =
    (lastOf? index group back).or (lastOf? index group front) := by
  rw [lastOf?, List.reverse_append, List.find?_append]
  rfl

theorem recorded_nil : Recorded index [] [] := fun _ => ⟨rfl, rfl⟩

theorem Recorded.append (left : Recorded index front first) (right : Recorded index back second) :
    Recorded index (front ++ back) (first ++ second) := by
  intro group
  rw [List.reverse_append, placeOf?_append, placeOf?_append, lastOf?_append, Option.map_or,
    Option.map_or, (left group).1, (left group).2, (right group).1, (right group).2]
  exact ⟨rfl, rfl⟩

-- A group closes after all that is captured inside it, which is why no capture inside may have
-- its number.
theorem Recorded.group (inner : Recorded index captures ms) {name : Text} {node : Node}
    (span : Text.Span)
    (other : ∀ c ∈ captures, index c.name ≠ index name) :
    Recorded index (⟨name, node, span⟩ :: captures)
      ([⟨.opens (index name), span.start⟩] ++ ms ++ [⟨.closes (index name), span.stop⟩]) := by
  intro group
  have outer : lastOf? index group (⟨name, node, span⟩ :: captures) =
      (lastOf? index group captures).or (if index name = group then some ⟨name, node, span⟩ else none) := by
    rw [← List.singleton_append, lastOf?_append]
    by_cases here : index name = group <;> simp [lastOf?, here]
  have backwards : ([⟨.opens (index name), span.start⟩] ++ ms ++ [⟨.closes (index name), span.stop⟩] :
      List Mark).reverse =
      [⟨.closes (index name), span.stop⟩] ++ (ms.reverse ++ [⟨.opens (index name), span.start⟩]) := by
    simp
  obtain ⟨opens, closes⟩ := inner group
  rw [outer, backwards]
  simp only [placeOf?_append, placeOf?_one, opens, closes]
  by_cases here : index name = group
  · have nothing : lastOf? index group captures = none := by
      refine List.find?_eq_none.mpr fun c member => ?_
      have different := other c (List.mem_reverse.mp member)
      rw [here] at different
      simpa using different
    simp [here, nothing]
  · simp [here]

end

-- Every way of a move covers a text that is taken, and its marks record what is captured in it.
def Sound (index : Text → Nat) (m : Move) (p : Taking) : Prop :=
  ∀ a b ms, m a b ms → ∃ text captures, p a.offset text captures ∧ a.rest = text ++ b.rest ∧
    b.offset = a.offset + Text.bytes text ∧ Recorded index captures ms

-- There is a way over every text that is taken.
def Complete (m : Move) (p : Taking) : Prop :=
  ∀ a text rest captures, a.rest = text ++ rest → p a.offset text captures →
    ∃ b ms, m a b ms ∧ b.rest = rest ∧ b.offset = a.offset + Text.bytes text

section
variable {index : Text → Nat} {m n : Move} {p q : Taking}

theorem sound_nothing : Sound index 1 .nothing := by
  intro a b ms given
  obtain ⟨rfl, rfl⟩ := given
  exact ⟨[], [], ⟨rfl, rfl⟩, rfl, rfl, recorded_nil⟩

theorem complete_nothing : Complete 1 .nothing := by
  intro a text rest captures split given
  obtain ⟨rfl, rfl⟩ := given
  exact ⟨a, [], Move.one_intro, split, rfl⟩

theorem Sound.or (left : Sound index m p) (right : Sound index n q) :
    Sound index (m + n) (p.or q) := by
  intro a b ms either
  cases either with
  | inl way =>
    obtain ⟨text, captures, taken, rest⟩ := left a b ms way
    exact ⟨text, captures, .inl taken, rest⟩
  | inr way =>
    obtain ⟨text, captures, taken, rest⟩ := right a b ms way
    exact ⟨text, captures, .inr taken, rest⟩

theorem Complete.or (left : Complete m p) (right : Complete n q) : Complete (m + n) (p.or q) := by
  intro a text rest captures split either
  cases either with
  | inl taken =>
    obtain ⟨b, ms, way, place⟩ := left a text rest captures split taken
    exact ⟨b, ms, .inl way, place⟩
  | inr taken =>
    obtain ⟨b, ms, way, place⟩ := right a text rest captures split taken
    exact ⟨b, ms, .inr way, place⟩

theorem Sound.followedBy (left : Sound index m p) (right : Sound index n q) :
    Sound index (m * n) (p.followedBy q) := by
  intro a c ms given
  obtain ⟨b, first, second, one, two, rfl⟩ := given
  obtain ⟨front, captures, taken, rest, offset, recorded⟩ := left a b first one
  obtain ⟨back, captures', taken', rest', offset', recorded'⟩ := right b c second two
  refine ⟨front ++ back, captures ++ captures', ⟨front, back, captures, captures', taken, ?_, rfl, rfl⟩,
    by rw [rest, rest', List.append_assoc], by rw [offset', offset, Text.bytes_append, Nat.add_assoc],
    recorded.append recorded'⟩
  rwa [← offset]

theorem Complete.followedBy (left : Complete m p) (right : Complete n q) :
    Complete (m * n) (p.followedBy q) := by
  intro a _ rest _ split given
  obtain ⟨front, back, captures, captures', taken, taken', rfl, rfl⟩ := given
  obtain ⟨b, first, one, rest', offset⟩ := left a front (back ++ rest) captures
    (by rw [split, List.append_assoc]) taken
  rw [← offset] at taken'
  obtain ⟨c, second, two, rest'', offset'⟩ := right b back rest captures' rest' taken'
  exact ⟨c, first ++ second, Move.mul_intro one two, rest'', by
    rw [offset', offset, Text.bytes_append, Nat.add_assoc]⟩

theorem Sound.rounds (each : Sound index m p) : Sound index m.star p.Rounds := by
  suffices general : ∀ k : Nat, Sound index (m ^ k) p.Rounds by
    intro a b ms given
    obtain ⟨k, way⟩ := given
    exact general k a b ms way
  intro k
  induction k with
  | zero =>
    intro a b ms given
    obtain ⟨rfl, rfl⟩ := given
    exact ⟨[], [], .none, rfl, rfl, recorded_nil⟩
  | succ k ih =>
    rw [pow_succ']
    intro a b ms way
    obtain ⟨_, _, ⟨front, back, v, w, first, others, rfl, rfl⟩, rest⟩ := each.followedBy ih a b ms way
    exact ⟨_, _, .more first others, rest⟩

theorem Complete.rounds (each : Complete m p) : Complete m.star p.Rounds := by
  intro a text rest captures split taken
  generalize offset : a.offset = start at taken
  induction taken generalizing a with
  | none => exact ⟨a, [], ⟨0, Move.one_intro⟩, by simpa using split, by simp [Text.bytes, offset]⟩
  | more first others ih =>
    rename_i start front captures back captures'
    subst offset
    obtain ⟨b, ms, one, rest', place⟩ := each a front (back ++ rest) captures
      (by rw [split, List.append_assoc]) first
    obtain ⟨c, ms', ⟨k, two⟩, rest'', place'⟩ := ih b rest' place
    refine ⟨c, ms ++ ms', ⟨k + 1, by rw [pow_succ']; exact Move.mul_intro one two⟩, rest'', ?_⟩
    rw [place', Text.bytes_append]
    omega

theorem Sound.captured (inner : Sound index m p) {name : Text} (node : Node)
    (other : ∀ offset text captures, p offset text captures → ∀ c ∈ captures, index c.name ≠ index name) :
    Sound index (.mark (.opens (index name)) * m * .mark (.closes (index name)))
      (.captured name node p) := by
  intro a b ms given
  obtain ⟨c, first, third, ⟨d, first, second, ⟨rfl, rfl⟩, way, rfl⟩, ⟨rfl, rfl⟩, rfl⟩ := given
  obtain ⟨text, captures, taken, rest, offset, recorded⟩ := inner a c second way
  refine ⟨text, _, ⟨captures, taken, rfl⟩, rest, offset, ?_⟩
  rw [offset]
  exact recorded.group ⟨a.offset, a.offset + Text.bytes text⟩ (other _ _ _ taken)

theorem Complete.captured (inner : Complete m p) (name : Text) (node : Node) (group : Nat) :
    Complete (.mark (.opens group) * m * .mark (.closes group)) (.captured name node p) := by
  intro a text rest _ split given
  obtain ⟨captures, taken, rfl⟩ := given
  obtain ⟨b, ms, way, rest', offset⟩ := inner a text rest captures split taken
  exact ⟨b, _, Move.mul_intro (Move.mul_intro ⟨rfl, rfl⟩ way) ⟨rfl, rfl⟩, rest', offset⟩

theorem Sound.times (times : Times) (once : Sound index m p) :
    Sound index (times.move m) (times.taking p) := by
  cases times with
  | once => exact once
  | optional => exact once.or sound_nothing
  | any => exact once.rounds

theorem Complete.times (times : Times) (once : Complete m p) :
    Complete (times.move m) (times.taking p) := by
  cases times with
  | once => exact once
  | optional => exact once.or complete_nothing
  | any => exact once.rounds

theorem sound_class (c : CharClass) : Sound index c.step c.taking := by
  intro a b ms way
  rw [CharClass.step] at way
  cases known : c.set? with
  | none =>
    rw [known] at way
    exact way.elim
  | some s =>
    rw [known] at way
    obtain ⟨rfl, x, rest, here, member, rfl⟩ := way
    exact ⟨[x], [], ⟨⟨s, known, x, member, rfl⟩, rfl⟩, here, by simp [Place.after, Text.bytes],
      recorded_nil⟩

theorem complete_class (c : CharClass) : Complete c.step c.taking := by
  intro a text rest _ split given
  obtain ⟨⟨s, known, x, member, rfl⟩, rfl⟩ := given
  rw [CharClass.step, known]
  exact ⟨a.after x rest, [], ⟨rfl, x, rest, split, member, rfl⟩, rfl, by simp [Place.after, Text.bytes]⟩

end

namespace Fragment

mutual
theorem sound (index : Text → Nat) : ∀ f : Fragment, (f.names.map index).Nodup →
    Sound index (f.move index) f.taking
  | .atom times c, _ => (sound_class c).times times
  | .group times name node body, distinct => by
    obtain ⟨own, inner⟩ := List.nodup_cons.mp distinct
    refine Sound.times times ((sound index body inner).captured node ?_)
    intro offset text captures taken c member same
    refine own (same ▸ List.mem_map_of_mem ?_)
    exact List.mem_map_of_mem (f := Prod.fst) (among body _ _ _ taken c member)
  | .sequence parts, distinct => sound_sequence index parts distinct
  | .choice times branches, distinct => (sound_branches index branches distinct).times times

theorem sound_sequence (index : Text → Nat) : ∀ parts : List Fragment,
    ((namesOfAll parts).map index).Nodup → Sound index (moveAll index parts) (takingAll parts)
  | [], _ => sound_nothing
  | f :: parts, distinct => by
    rw [namesOfAll_cons, List.map_append] at distinct
    obtain ⟨left, right, _⟩ := List.nodup_append.mp distinct
    exact (sound index f left).followedBy (sound_sequence index parts right)

theorem sound_branches (index : Text → Nat) : ∀ branches : List Fragment,
    ((namesOfAll branches).map index).Nodup → Sound index (moveAny index branches) (takingAny branches)
  | [], _ => fun _ _ _ way => way.elim
  | f :: branches, distinct => by
    rw [namesOfAll_cons, List.map_append] at distinct
    obtain ⟨left, right, _⟩ := List.nodup_append.mp distinct
    exact (sound index f left).or (sound_branches index branches right)
end

mutual
theorem complete (index : Text → Nat) : ∀ f : Fragment, Complete (f.move index) f.taking
  | .atom times c => (complete_class c).times times
  | .group times name node body => ((complete index body).captured name node (index name)).times times
  | .sequence parts => complete_sequence index parts
  | .choice times branches => (complete_branches index branches).times times

theorem complete_sequence (index : Text → Nat) : ∀ parts : List Fragment,
    Complete (moveAll index parts) (takingAll parts)
  | [] => complete_nothing
  | f :: parts => (complete index f).followedBy (complete_sequence index parts)

theorem complete_branches (index : Text → Nat) : ∀ branches : List Fragment,
    Complete (moveAny index branches) (takingAny branches)
  | [] => fun _ _ _ _ _ taken => taken.elim
  | f :: branches => (complete index f).or (complete_branches index branches)
end

end Fragment
end Typeahead
