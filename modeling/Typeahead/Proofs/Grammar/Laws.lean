import Typeahead.Proofs.Grammar.Cuts
import Typeahead.Proofs.Grammar.Matching
import Typeahead.Proofs.Node.Beginnings

namespace Typeahead
namespace Node
variable {a b joined : Node}

-- A node that is put together of two, with the children of the first for its own or without.
structure Joins (a b joined : Node) : Prop where
  walk : joined.walk ⊆ joined :: (a.walk ++ b.walk)
  composed : joined.isSingle = false
  faultless : a.fault? = none → joined.fault? = none

theorem walk_joined {nodes : List Node} (opened : walkAll nodes ⊆ a.walk) :
    walkAll (nodes ++ [b]) ⊆ a.walk ++ b.walk := by
  rw [walkAll_append, walkAll, walkAll, List.append_nil]
  exact List.append_subset.mpr ⟨List.subset_append_of_subset_left _ opened, List.subset_append_right ..⟩

theorem openSequence_pos (faultless : a.fault? = none) : 0 < a.openSequence.length := by
  unfold openSequence
  split
  · simp only [fault?] at faultless
    split at faultless
    · cases faultless
    · omega
  · exact Nat.one_pos

theorem openChoice_pos (faultless : a.fault? = none) : 0 < a.openChoice.length := by
  unfold openChoice
  split
  · simp only [fault?] at faultless
    split at faultless
    · cases faultless
    · omega
  · exact Nat.one_pos

theorem joins_followedBy (a b : Node) (n : Nat) : Joins a b ((followedBy a b).run n).1 where
  walk := List.cons_subset_cons _ (walk_joined (walk_openSequence a))
  composed := rfl
  faultless := by
    intro faultless
    have some' := openSequence_pos faultless
    show (Node.sequence n none (openSequence a ++ [b])).fault? = none
    simp only [fault?, List.length_append, List.length_singleton]
    exact if_neg (by omega)

theorem joins_or (a b : Node) (n : Nat) : Joins a b ((or a b).run n).1 where
  walk := List.cons_subset_cons _ (walk_joined (walk_openChoice a))
  composed := rfl
  faultless := by
    intro faultless
    have some' := openChoice_pos faultless
    show (Node.any n (openChoice a ++ [b])).fault? = none
    simp only [fault?, List.length_append, List.length_singleton]
    exact if_neg (by omega)

theorem walk_pair : walkAll [a, b] ⊆ a.walk ++ b.walk := by
  rw [walkAll, walkAll, walkAll, List.append_nil]
  exact List.Subset.refl _

theorem joins_pair (a b : Node) (i : Nat) : Joins a b (.sequence i none [a, b]) where
  walk := List.cons_subset_cons _ walk_pair
  composed := rfl
  faultless := fun _ => rfl

theorem joins_either (a b : Node) (i : Nat) : Joins a b (.any i [a, b]) where
  walk := List.cons_subset_cons _ walk_pair
  composed := rfl
  faultless := fun _ => rfl

theorem Joins.atoms (joins : Joins a b joined) (left : a.HasAtoms) (right : b.HasAtoms) :
    joined.HasAtoms := by
  intro i c member
  rcases List.mem_cons.mp (joins.walk member) with equal | inside
  · have composed := joins.composed
    rw [← equal] at composed
    cases composed
  · cases List.mem_append.mp inside with
    | inl inside => exact left i c inside
    | inr inside => exact right i c inside

theorem Joins.valid (joins : Joins a b joined) (left : a.validate = .ok ())
    (right : b.validate = .ok ()) : joined.validate = .ok () := by
  refine validate_of_fault_none fun node member => ?_
  have leftFaultless := fault_none_of_validate left
  rcases List.mem_cons.mp (joins.walk member) with rfl | inside
  · exact joins.faultless (leftFaultless a (self_mem_walk a))
  · cases List.mem_append.mp inside with
    | inl inside => exact leftFaultless node inside
    | inr inside => exact fault_none_of_validate right node inside

end Node

namespace Grammar

-- Two trees of the same parts, which are valid where the parts are and accept the same texts under
-- whatever limits they are compiled.
structure Interchangeable (parts : List Node) (one other : Node) : Prop where
  valid : (∀ part ∈ parts, part.validate = .ok ()) → one.validate = .ok () ∧ other.validate = .ok ()
  whole : ∀ limits limits' g g', compile limits one = .ok g → compile limits' other = .ok g' →
    ∀ text, (g.matchWhole text).isSome = (g'.matchWhole text).isSome
  started : ∀ limits limits' g g', compile limits one = .ok g → compile limits' other = .ok g' →
    ∀ text, (g.matchStarted text).isSome = (g'.matchStarted text).isSome

variable {g : Grammar} {root one other : Node} {input : Text} {parts : List Node}

theorem Compiled.started_beginnings (compiled : g.Compiled root) :
    (g.matchStarted input).isSome ↔ input ∈ root.beginnings := by
  rw [compiled.started_iff, Node.mem_beginnings_iff 0]

theorem interchangeable (atoms : one.HasAtoms) (atoms' : other.HasAtoms)
    (valid : (∀ part ∈ parts, part.validate = .ok ()) →
      one.validate = .ok () ∧ other.validate = .ok ())
    (finished : one.language = other.language) (begun : one.beginnings = other.beginnings) :
    Interchangeable parts one other := by
  refine ⟨valid, ?_, ?_⟩
  · intro limits limits' g g' compiled compiled' text
    rw [Bool.eq_iff_iff, (Grammar.compiled atoms compiled).whole_iff,
      (Grammar.compiled atoms' compiled').whole_iff, finished]
  · intro limits limits' g g' compiled compiled' text
    rw [Bool.eq_iff_iff, (Grammar.compiled atoms compiled).started_beginnings,
      (Grammar.compiled atoms' compiled').started_beginnings, begun]

theorem interchangeable_joined {a b : Node} (joins : Node.Joins a b one) (joins' : Node.Joins a b other)
    (left : a.HasAtoms) (right : b.HasAtoms) (finished : one.language = other.language)
    (begun : one.beginnings = other.beginnings) : Interchangeable [a, b] one other := by
  refine interchangeable (joins.atoms left right) (joins'.atoms left right) (fun valid => ?_)
    finished begun
  have validA := valid a (by simp)
  have validB := valid b (by simp)
  exact ⟨joins.valid validA validB, joins'.valid validA validB⟩

theorem interchangeable_nested {a b c front back : Node} (first : Node.Joins a b front)
    (onward : Node.Joins front c one) (last : Node.Joins b c back) (around : Node.Joins a back other)
    (atomsA : a.HasAtoms) (atomsB : b.HasAtoms) (atomsC : c.HasAtoms)
    (finished : one.language = other.language) (begun : one.beginnings = other.beginnings) :
    Interchangeable [a, b, c] one other := by
  refine interchangeable (onward.atoms (first.atoms atomsA atomsB) atomsC)
    (around.atoms atomsA (last.atoms atomsB atomsC)) (fun valid => ?_) finished begun
  have validA := valid a (by simp)
  have validB := valid b (by simp)
  have validC := valid c (by simp)
  exact ⟨onward.valid (first.valid validA validB) validC,
    around.valid validA (last.valid validB validC)⟩

theorem combinators_lawful {a b c : Node} (atomsA : a.HasAtoms) (atomsB : b.HasAtoms)
    (atomsC : c.HasAtoms) (n n' : Nat) :
    Interchangeable [a, b] ((Node.or a b).run n).1 ((Node.or b a).run n').1 ∧
    Interchangeable [a, b, c] ((do Node.or (← Node.or a b) c : Node.Building Node).run n).1
      ((do Node.or a (← Node.or b c) : Node.Building Node).run n').1 ∧
    Interchangeable [a, b, c]
      ((do Node.followedBy (← Node.followedBy a b) c : Node.Building Node).run n).1
      ((do Node.followedBy a (← Node.followedBy b c) : Node.Building Node).run n').1 ∧
    (∃ pair last, (Node.sequenceOf [a, b]).run n' = .ok (pair, last) ∧
      Interchangeable [a, b] ((Node.followedBy a b).run n).1 pair) ∧
    ∃ either last, (Node.anyOf [a, b]).run n' = .ok (either, last) ∧
      Interchangeable [a, b] ((Node.or a b).run n).1 either := by
  refine ⟨?commutes, ?choices, ?sequences, ⟨.sequence n' none [a, b], n' + 1, rfl, ?pair⟩,
    ⟨.any n' [a, b], n' + 1, rfl, ?either⟩⟩
  case commutes =>
    have swapped := Node.joins_or b a n'
    refine interchangeable ((Node.joins_or a b n).atoms atomsA atomsB) (swapped.atoms atomsB atomsA)
      (fun valid => ?_) ?_ ?_
    · have validA := valid a (by simp)
      have validB := valid b (by simp)
      exact ⟨(Node.joins_or a b n).valid validA validB, swapped.valid validB validA⟩
    · rw [Node.language_or, Node.language_or, add_comm]
    · rw [Node.beginnings_or, Node.beginnings_or, add_comm]
  case choices =>
    refine interchangeable_nested (Node.joins_or a b n) (Node.joins_or _ c (n + 1))
      (Node.joins_or b c n') (Node.joins_or a _ (n' + 1)) atomsA atomsB atomsC ?_ ?_
    · show ((Node.or ((Node.or a b).run n).1 c).run (n + 1)).1.language =
        ((Node.or a ((Node.or b c).run n').1).run (n' + 1)).1.language
      rw [Node.language_or, Node.language_or, Node.language_or, Node.language_or, add_assoc]
    · show ((Node.or ((Node.or a b).run n).1 c).run (n + 1)).1.beginnings =
        ((Node.or a ((Node.or b c).run n').1).run (n' + 1)).1.beginnings
      rw [Node.beginnings_or, Node.beginnings_or, Node.beginnings_or, Node.beginnings_or, add_assoc]
  case sequences =>
    refine interchangeable_nested (Node.joins_followedBy a b n) (Node.joins_followedBy _ c (n + 1))
      (Node.joins_followedBy b c n') (Node.joins_followedBy a _ (n' + 1)) atomsA atomsB atomsC ?_ ?_
    · show ((Node.followedBy ((Node.followedBy a b).run n).1 c).run (n + 1)).1.language =
        ((Node.followedBy a ((Node.followedBy b c).run n').1).run (n' + 1)).1.language
      simp only [Node.language_followedBy, mul_assoc]
    · show ((Node.followedBy ((Node.followedBy a b).run n).1 c).run (n + 1)).1.beginnings =
        ((Node.followedBy a ((Node.followedBy b c).run n').1).run (n' + 1)).1.beginnings
      simp only [Node.beginnings_followedBy, Node.language_followedBy, mul_add, mul_assoc, add_assoc]
  case pair =>
    refine interchangeable_joined (Node.joins_followedBy a b n) (Node.joins_pair a b n') atomsA atomsB
      ?_ ?_
    · rw [Node.language_followedBy, Node.language_pair]
    · rw [Node.beginnings_followedBy, Node.beginnings_pair]
  case either =>
    refine interchangeable_joined (Node.joins_or a b n) (Node.joins_either a b n') atomsA atomsB ?_ ?_
    · rw [Node.language_or, Node.language_either]
    · rw [Node.beginnings_or, Node.beginnings_either]

-- A letter and its sign, a written text, and a digit or a class that no character is in.

def signed : Node := .sequence 2 none [.single 0 ⟨"[a-c]".toList⟩, .single 1 ⟨"[=]".toList⟩]

def written : Node :=
  .sequence 5 (some "ab".toList) [.single 3 ⟨"[a]".toList⟩, .single 4 ⟨"[b]".toList⟩]

def digitOrNone : Node := .any 8 [.single 6 ⟨"[0-9]".toList⟩, .single 7 ⟨"[a&&b]".toList⟩]

theorem hasAtoms_of_walk {root : Node} (each : root.walk.all Node.isAtom = true) : root.HasAtoms :=
  fun _ _ member => List.all_eq_true.mp each _ member

theorem signed_lawful : ∃ g g',
    compile {} ((do Node.followedBy (← Node.followedBy signed written) digitOrNone :
      Node.Building Node).run 9).1 = .ok g ∧
    compile {} ((do Node.followedBy signed (← Node.followedBy written digitOrNone) :
      Node.Building Node).run 9).1 = .ok g' ∧
    (g.matchWhole "c=ab7".toList).isSome ∧ (g'.matchWhole "c=ab7".toList).isSome ∧
    ∀ text, (g.matchStarted text).isSome = (g'.matchStarted text).isSome := by
  obtain ⟨_, _, nested, _, _⟩ := combinators_lawful (a := signed) (b := written) (c := digitOrNone)
    (hasAtoms_of_walk (by decide +kernel)) (hasAtoms_of_walk (by decide +kernel))
    (hasAtoms_of_walk (by decide +kernel)) 9 9
  have run : ((compile {} ((do Node.followedBy (← Node.followedBy signed written) digitOrNone :
      Node.Building Node).run 9).1).toOption.bind fun g =>
        some (g.matchWhole "c=ab7".toList).isSome) = some true := by decide +kernel
  have run' : ((compile {} ((do Node.followedBy signed (← Node.followedBy written digitOrNone) :
      Node.Building Node).run 9).1).toOption.bind fun _ => some ()) = some () := by decide +kernel
  obtain ⟨g, compiled, accepted⟩ := compile_of_run run
  obtain ⟨g', compiled', _⟩ := compile_of_run run'
  have taken : (g.matchWhole "c=ab7".toList).isSome := Option.some.inj accepted
  exact ⟨g, g', compiled, compiled', taken, nested.whole _ _ g g' compiled compiled' _ ▸ taken,
    nested.started _ _ g g' compiled compiled'⟩

end Grammar
end Typeahead
