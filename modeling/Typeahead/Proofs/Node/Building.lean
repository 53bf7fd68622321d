import Typeahead.Proofs.Node.Language

namespace Typeahead.Node

-- An identity belongs to one node, at however many places of the tree that node stands.
def Coherent (root : Node) : Prop :=
  ∀ node ∈ root.walk, ∀ other ∈ root.walk, node.id = other.id → node = other

theorem coherent_of_nodup {root : Node} (distinct : (root.walk.map Node.id).Nodup) : root.Coherent :=
  fun _ member _ other same => List.inj_on_of_nodup_map distinct member other same

-- What the building functions make of the nodes there are.
inductive Builds (nodes : List Node) : Building Node → Prop
  | literal (text : Text) : Builds nodes (literal text)
  | ofClass (c : CharClass) : Builds nodes (ofClass c)
  | repetitionOf (known : child ∈ nodes) : Builds nodes (repetitionOf child)
  | named (info : Variable) (known : child ∈ nodes) : Builds nodes (named info child)
  | followedBy (left : a ∈ nodes) (right : b ∈ nodes) : Builds nodes (followedBy a b)
  | or (left : a ∈ nodes) (right : b ∈ nodes) : Builds nodes (or a b)

-- The nodes there are after some of them were built, and the next identity.
inductive Built : Nat → List Node → Prop
  | start : Built n []
  | step (before : Built n nodes) (builds : Builds nodes b) :
      Built (b.run n).2 ((b.run n).1 :: nodes)
  | sequenceOf (before : Built n nodes) (known : parts ⊆ nodes)
      (made : (sequenceOf parts).run n = .ok (node, n')) : Built n' (node :: nodes)
  | anyOf (before : Built n nodes) (known : parts ⊆ nodes)
      (made : (anyOf parts).run n = .ok (node, n')) : Built n' (node :: nodes)

structure Distinct (n : Nat) (nodes : List Node) : Prop where
  used : ∀ node ∈ walkAll nodes, node.id < n
  same : ∀ node ∈ walkAll nodes, ∀ other ∈ walkAll nodes, node.id = other.id → node = other

variable {node root : Node} {nodes parts : List Node} {n n' : Nat}

theorem walk_eq (node : Node) : node.walk = node :: walkAll node.children := by
  cases node <;> simp [walk, walkAll, children]

theorem walkAll_append (a b : List Node) : walkAll (a ++ b) = walkAll a ++ walkAll b := by
  induction a with
  | nil => rfl
  | cons node a ih => rw [List.cons_append, walkAll, walkAll, ih, List.append_assoc]

theorem walkAll_subset (known : parts ⊆ nodes) : walkAll parts ⊆ walkAll nodes := by
  intro other member
  obtain ⟨child, part, below⟩ := mem_walkAll.mp member
  exact mem_walkAll.mpr ⟨child, known part, below⟩

theorem walk_subset (known : node ∈ nodes) : node.walk ⊆ walkAll nodes :=
  fun _ member => mem_walkAll.mpr ⟨node, known, member⟩

theorem walkAll_one (known : node ∈ nodes) : walkAll [node] ⊆ walkAll nodes :=
  walkAll_subset fun _ member => List.mem_singleton.mp member ▸ known

theorem walk_openSequence (node : Node) : walkAll (openSequence node) ⊆ node.walk := by
  unfold openSequence
  split
  · rw [walk_eq]
    exact List.subset_cons_self ..
  · rw [walkAll, walkAll, List.append_nil]
    exact List.Subset.refl _

theorem walk_openChoice (node : Node) : walkAll (openChoice node) ⊆ node.walk := by
  unfold openChoice
  split
  · rw [walk_eq]
    exact List.subset_cons_self ..
  · rw [walkAll, walkAll, List.append_nil]
    exact List.Subset.refl _

namespace Distinct

theorem mono (distinct : Distinct n nodes) (fewer : walkAll parts ⊆ walkAll nodes) :
    Distinct n parts :=
  ⟨fun node member => distinct.used node (fewer member),
    fun node member other member' => distinct.same node (fewer member) other (fewer member')⟩

theorem add (distinct : Distinct n nodes) (later : n ≤ n') (taken : node.id < n')
    (fresh : ∀ other ∈ walkAll nodes, other.id ≠ node.id)
    (below : walkAll node.children ⊆ walkAll nodes) : Distinct n' (node :: nodes) := by
  have cases_of : ∀ other ∈ walkAll (node :: nodes), other = node ∨ other ∈ walkAll nodes := by
    intro other member
    rw [walkAll, walk_eq, List.cons_append, List.mem_cons, List.mem_append] at member
    rcases member with equal | inside | old
    · exact .inl equal
    · exact .inr (below inside)
    · exact .inr old
  constructor
  · intro other member
    rcases cases_of other member with rfl | old
    · exact taken
    · exact Nat.lt_of_lt_of_le (distinct.used other old) later
  · intro one member other member' equal
    rcases cases_of one member with rfl | old
    · rcases cases_of other member' with rfl | old'
      · rfl
      · exact absurd equal.symm (fresh other old')
    · rcases cases_of other member' with rfl | old'
      · exact absurd equal (fresh one old)
      · exact distinct.same one old other old' equal

theorem next (distinct : Distinct n nodes) (identity : node.id = n)
    (below : walkAll node.children ⊆ walkAll nodes) : Distinct (n + 1) (node :: nodes) := by
  apply distinct.add (Nat.le_succ n) _ _ below
  · rw [identity]
    exact Nat.lt_succ_self n
  · intro other member equal
    have earlier := distinct.used other member
    omega

theorem classes (distinct : Distinct n nodes) (cs : List CharClass) :
    Distinct ((ofClasses cs).run n).2 (((ofClasses cs).run n).1 ++ nodes) ∧
      n ≤ ((ofClasses cs).run n).2 ∧ ∀ node ∈ walkAll ((ofClasses cs).run n).1, n ≤ node.id := by
  induction cs generalizing n nodes with
  | nil => exact ⟨distinct, Nat.le_refl n, fun _ member => by cases member⟩
  | cons c cs ih =>
    have first : Distinct (n + 1) (.single n c :: nodes) :=
      distinct.next rfl (List.nil_subset _)
    obtain ⟨others, later, bounds⟩ := ih first
    have run : (ofClasses (c :: cs)).run n =
        (.single n c :: ((ofClasses cs).run (n + 1)).1, ((ofClasses cs).run (n + 1)).2) := rfl
    rw [run]
    refine ⟨others.mono ?_, by simp only; omega, ?_⟩
    · apply walkAll_subset
      intro node member
      simp only [List.cons_append, List.mem_cons, List.mem_append] at member ⊢
      tauto
    · intro node member
      rw [walkAll, List.mem_append] at member
      cases member with
      | inl own =>
        obtain rfl := List.mem_singleton.mp own
        exact Nat.le_refl n
      | inr other => exact Nat.le_of_succ_le (bounds node other)

theorem literal (distinct : Distinct n nodes) (text : Text) :
    Distinct ((literal text).run n).2 (((literal text).run n).1 :: nodes) := by
  have start : Distinct (n + 1) nodes :=
    ⟨fun node member => Nat.lt_succ_of_lt (distinct.used node member), distinct.same⟩
  obtain ⟨classes, later, bounds⟩ := start.classes (text.map CharClass.literal)
  generalize made : (ofClasses (text.map CharClass.literal)).run (n + 1) = characters at *
  obtain ⟨characters, n'⟩ := characters
  have run : (Node.literal text).run n = (.sequence n (some text) characters, n') := by
    have step : (Node.literal text).run n =
        (.sequence n (some text) ((ofClasses (text.map CharClass.literal)).run (n + 1)).1,
          ((ofClasses (text.map CharClass.literal)).run (n + 1)).2) := rfl
    rw [step, made]
  rw [run]
  have whole : Distinct n' (.sequence n (some text) characters :: (characters ++ nodes)) := by
    have taken : (Node.sequence n (some text) characters).id < n' := later
    apply classes.add (Nat.le_refl n') taken
    · intro other member equal
      rw [walkAll_append, List.mem_append] at member
      cases member with
      | inl inside =>
        have := bounds other inside
        have : other.id = n := equal
        omega
      | inr old =>
        have := distinct.used other old
        have : other.id = n := equal
        omega
    · rw [walkAll_append]
      exact List.subset_append_left ..
  apply whole.mono
  apply walkAll_subset
  intro node member
  cases member with
  | head => exact .head _
  | tail _ member => exact .tail _ (List.mem_append_right _ member)

end Distinct

theorem Builds.distinct {b : Building Node} (builds : Builds nodes b) (distinct : Distinct n nodes) :
    Distinct (b.run n).2 ((b.run n).1 :: nodes) := by
  cases builds with
  | literal text => exact distinct.literal text
  | ofClass c => exact distinct.next rfl (List.nil_subset _)
  | repetitionOf known =>
    exact distinct.next rfl (walkAll_one known)
  | named info known =>
    exact distinct.next rfl (walkAll_one known)
  | followedBy left right =>
    apply distinct.next rfl
    show walkAll (openSequence _ ++ [_]) ⊆ _
    rw [walkAll_append]
    exact List.append_subset.mpr
      ⟨List.Subset.trans (walk_openSequence _) (walk_subset left), walkAll_one right⟩
  | or left right =>
    apply distinct.next rfl
    show walkAll (openChoice _ ++ [_]) ⊆ _
    rw [walkAll_append]
    exact List.append_subset.mpr
      ⟨List.Subset.trans (walk_openChoice _) (walk_subset left), walkAll_one right⟩

theorem sequenceOf_eq (made : (sequenceOf parts).run n = .ok (node, n')) :
    node = .sequence n none parts ∧ n' = n + 1 := by
  unfold sequenceOf at made
  split at made
  · cases made
  · cases made
    exact ⟨rfl, rfl⟩

theorem anyOf_eq (made : (anyOf parts).run n = .ok (node, n')) :
    node = .any n parts ∧ n' = n + 1 := by
  unfold anyOf at made
  split at made
  · cases made
  · cases made
    exact ⟨rfl, rfl⟩

theorem Built.distinct (built : Built n nodes) : Distinct n nodes := by
  induction built with
  | start =>
    constructor
    · intro node member
      cases member
    · intro node member
      cases member
  | step _ builds ih => exact builds.distinct ih
  | sequenceOf _ known made ih =>
    obtain ⟨rfl, rfl⟩ := sequenceOf_eq made
    exact ih.next rfl (walkAll_subset known)
  | anyOf _ known made ih =>
    obtain ⟨rfl, rfl⟩ := anyOf_eq made
    exact ih.next rfl (walkAll_subset known)

theorem Built.coherent (built : Built n nodes) (known : root ∈ nodes) : root.Coherent :=
  fun node member other member' =>
    built.distinct.same node (walk_subset known member) other (walk_subset known member')

end Typeahead.Node
