import Typeahead.Proofs.Node.Meaning

namespace Typeahead

def Capture.visit (c : Capture) : Visit := ⟨c.node, c.span⟩

namespace Node
variable {node : Node} {f : Fragment} {rows : List (Text × Node)} {offset : Nat} {text : Text}
  {captures : List Capture} {visits : List Visit}

def Agrees (p : Taking) (derives : Nat → Text → List Visit → Prop) : Prop :=
  (∀ offset text captures, p offset text captures → derives offset text (captures.map Capture.visit)) ∧
    ∀ offset text visits, derives offset text visits →
      ∃ captures, p offset text captures ∧ captures.map Capture.visit = visits

section
variable {p q : Taking} {d e : Nat → Text → List Visit → Prop}

theorem Agrees.congr (agrees : Agrees p d)
    (same : ∀ offset text visits, e offset text visits ↔ d offset text visits) : Agrees p e := by
  constructor
  · intro offset text captures taken
    exact (same _ _ _).mpr (agrees.1 _ _ _ taken)
  · intro offset text visits derives
    exact agrees.2 _ _ _ ((same _ _ _).mp derives)

theorem agrees_never : Agrees (fun _ _ _ => False) fun _ _ _ => False :=
  ⟨fun _ _ _ never => never, fun _ _ _ never => never.elim⟩

theorem agrees_nothing : Agrees .nothing fun _ text visits => text = [] ∧ visits = [] := by
  constructor
  · intro offset text captures given
    obtain ⟨rfl, rfl⟩ := given
    exact ⟨rfl, rfl⟩
  · intro offset text visits given
    obtain ⟨rfl, rfl⟩ := given
    exact ⟨[], ⟨rfl, rfl⟩, rfl⟩

theorem Agrees.or (left : Agrees p d) (right : Agrees q e) :
    Agrees (p.or q) fun offset text visits => d offset text visits ∨ e offset text visits := by
  constructor
  · intro offset text captures either
    cases either with
    | inl taken => exact .inl (left.1 _ _ _ taken)
    | inr taken => exact .inr (right.1 _ _ _ taken)
  · intro offset text visits either
    cases either with
    | inl derives =>
      obtain ⟨captures, taken, equal⟩ := left.2 _ _ _ derives
      exact ⟨captures, .inl taken, equal⟩
    | inr derives =>
      obtain ⟨captures, taken, equal⟩ := right.2 _ _ _ derives
      exact ⟨captures, .inr taken, equal⟩

theorem Agrees.followedBy (first : Agrees p d) (others : Agrees q e) :
    Agrees (p.followedBy q) fun offset text visits => ∃ a b front back, d offset a front ∧
      e (offset + Text.bytes a) b back ∧ text = a ++ b ∧ visits = front ++ back := by
  constructor
  · intro offset text captures given
    obtain ⟨a, b, front, back, taken, taken', rfl, rfl⟩ := given
    exact ⟨a, b, _, _, first.1 _ _ _ taken, others.1 _ _ _ taken', rfl, List.map_append⟩
  · intro offset text visits given
    obtain ⟨a, b, _, _, one, rest, rfl, rfl⟩ := given
    obtain ⟨front, taken, rfl⟩ := first.2 _ _ _ one
    obtain ⟨back, taken', rfl⟩ := others.2 _ _ _ rest
    exact ⟨front ++ back, ⟨a, b, front, back, taken, taken', rfl, rfl⟩, List.map_append⟩

theorem Agrees.alone (agrees : Agrees p d) : Agrees (p.followedBy .nothing) d := by
  apply (agrees.followedBy agrees_nothing).congr
  intro offset text visits
  constructor
  · intro derives
    exact ⟨text, [], visits, [], derives, ⟨rfl, rfl⟩, by simp, by simp⟩
  · intro given
    obtain ⟨a, b, front, back, derives, ⟨rfl, rfl⟩, rfl, rfl⟩ := given
    simpa using derives

theorem Agrees.captured (agrees : Agrees p d) (name : Text) (node : Node) :
    Agrees (.captured name node p) fun offset text visits => ∃ below, d offset text below ∧
      visits = ⟨node, ⟨offset, offset + Text.bytes text⟩⟩ :: below := by
  constructor
  · intro offset text captures given
    obtain ⟨inner, taken, rfl⟩ := given
    exact ⟨_, agrees.1 _ _ _ taken, rfl⟩
  · intro offset text visits given
    obtain ⟨below, derives, rfl⟩ := given
    obtain ⟨inner, taken, rfl⟩ := agrees.2 _ _ _ derives
    exact ⟨_, ⟨inner, taken, rfl⟩, rfl⟩

end

theorem agrees_class (c : CharClass) (i : Nat) : Agrees c.taking (Derives (.single i c)) := by
  constructor
  · intro offset text captures given
    obtain ⟨⟨s, known, x, member, rfl⟩, rfl⟩ := given
    exact .single known member
  · intro offset text visits derives
    cases derives with
    | single known member => exact ⟨[], ⟨⟨_, known, _, member, rfl⟩, rfl⟩, rfl⟩

theorem agrees_rounds {p : Taking} {child : Node} {i : Nat} (each : Agrees p (Derives child)) :
    Agrees p.Rounds (Derives (.repetition i child)) := by
  constructor
  · intro offset text captures taken
    induction taken with
    | none => exact .repetitionNil
    | more first _ ih =>
      rw [List.map_append]
      exact .repetitionCons (each.1 _ _ _ first) ih
  · intro offset text visits derives
    generalize equal : Node.repetition i child = node at derives
    induction derives with
    | repetitionNil => exact ⟨[], .none, rfl⟩
    | repetitionCons first others _ ih =>
      obtain ⟨rfl, rfl⟩ : i = _ ∧ child = _ := by simpa using equal
      obtain ⟨front, taken, rfl⟩ := each.2 _ _ _ first
      obtain ⟨back, taken', rfl⟩ := ih rfl
      exact ⟨front ++ back, .more taken taken', by simp⟩
    | _ => cases equal

-- Induction on how the fragment is built; one child of a sequence or a choice at a time.
theorem Whole.agrees (whole : Whole node f) : Agrees f.taking (Derives node) := by
  induction whole with
  | single => exact agrees_class _ _
  | var _ ih => exact (ih.captured _ _).congr fun _ _ _ => derives_var_iff
  | sequenceNil => exact agrees_nothing.congr fun _ _ _ => derives_sequence_nil_iff
  | sequenceCons _ _ first others =>
    exact (first.followedBy others).congr fun _ _ _ => derives_sequence_cons_iff
  | anyNil => exact agrees_never.congr fun _ _ _ => derives_any_nil_iff
  | anyCons _ _ first others => exact (first.or others).congr fun _ _ _ => derives_any_cons_iff
  | repetition _ ih =>
    apply agrees_rounds
    exact (ih.or agrees_never).congr fun _ _ _ => (or_false _).symm.to_iff

theorem takingAll_append (a b : List Fragment) : Fragment.takingAll (a ++ b) =
    (Fragment.takingAll a).followedBy (Fragment.takingAll b) := by
  funext offset text captures
  apply propext
  induction a generalizing offset text captures with
  | nil =>
    constructor
    · exact fun taken => ⟨[], text, [], captures, ⟨rfl, rfl⟩, taken, rfl, rfl⟩
    · intro given
      obtain ⟨_, _, _, _, ⟨rfl, rfl⟩, taken, rfl, rfl⟩ := given
      exact taken
  | cons f a ih =>
    constructor
    · intro given
      obtain ⟨p, q, front, back, first, others, rfl, rfl⟩ := given
      obtain ⟨r, s, middle, last, left, right, rfl, rfl⟩ := (ih _ _ _).mp others
      rw [Nat.add_assoc, ← Text.bytes_append] at right
      exact ⟨p ++ r, s, front ++ middle, last, ⟨p, r, front, middle, first, left, rfl, rfl⟩, right,
        by simp, by simp⟩
    · intro given
      obtain ⟨_, s, _, last, ⟨p, r, front, middle, first, left, rfl, rfl⟩, right, rfl, rfl⟩ := given
      rw [Text.bytes_append, ← Nat.add_assoc] at right
      have others := (ih _ _ _).mpr ⟨r, s, middle, last, left, right, rfl, rfl⟩
      exact ⟨p, r ++ s, front, middle ++ last, first, others, by simp, by simp⟩

-- What ends inside a node is a derivation that breaks off there; a sequence is cut as its fragment is.
theorem Started.agrees (started : Started node f rows) : Agrees f.taking (Begins node) := by
  induction started with
  | single => exact ((agrees_class _ _).or agrees_nothing).congr fun _ _ _ => begins_single_iff
  | var _ ih => exact ((ih.captured _ _).or agrees_nothing).congr fun _ _ _ => begins_var_iff
  | sequenceNil => exact agrees_nothing.congr fun _ _ _ => begins_sequence_nil_iff
  | sequenceOne _ ih => exact ih.congr fun _ _ _ => begins_sequence_one_iff
  | sequenceCut someHead someTail _ finished _ inside beyond =>
    rename_i parts rest _ _ _
    have cut := finished.agrees.followedBy beyond.alone
    have whole : Agrees (Fragment.takingAll (parts ++ [rest])) _ := takingAll_append parts [rest] ▸ cut
    apply (whole.or (inside.or agrees_never)).congr
    intro offset text visits
    rw [or_false]
    exact begins_append_iff someHead someTail
  | anyNil => exact (agrees_never.or agrees_nothing).congr fun _ _ _ => begins_any_nil_iff
  | anyCons _ _ first others =>
    rename_i branch _ _ _ branches _ _ _
    have regrouped : ((branch.taking.or (Fragment.takingAny branches)).or .nothing) =
        branch.taking.or ((Fragment.takingAny branches).or .nothing) := by
      funext offset text captures
      exact propext or_assoc
    show Agrees ((branch.taking.or (Fragment.takingAny branches)).or .nothing) _
    rw [regrouped]
    exact (first.or others).congr fun _ _ _ => begins_any_cons_iff
  | repetition _ finished last =>
    exact ((Whole.repetition finished).agrees.followedBy last.alone).congr
      fun _ _ _ => begins_repetition_iff

-- What a leaf and a choice must be for the text of a fragment to read as intended.
def IsReadable (leaf : CharClass → Prop) : Node → Prop
  | .single _ c => leaf c
  | .any _ nodes => nodes ≠ []
  | _ => True

-- A choice that still lacks a branch is not readable, but what is inside it is.
def Inside (leaf : CharClass → Prop) : Fragment → Prop
  | .choice _ branches => Fragment.AllReadable leaf branches
  | f => f.Readable leaf

def AllAreReadable (leaf : CharClass → Prop) (root : Node) : Prop :=
  ∀ node ∈ root.walk, node.IsReadable leaf

-- As much of it as the fragments of a choice need while branches are still being added.
structure Almost (leaf : CharClass → Prop) (node : Node) : Prop where
  self : ∀ i c, node = .single i c → leaf c
  below : ∀ child ∈ node.children, child.AllAreReadable leaf

variable {leaf : CharClass → Prop}

theorem AllAreReadable.self (readable : node.AllAreReadable leaf) : node.IsReadable leaf :=
  readable node (self_mem_walk node)

theorem AllAreReadable.almost (readable : node.AllAreReadable leaf) : node.Almost leaf := by
  refine ⟨?_, fun _ member other inside => readable other (mem_walk_child member inside)⟩
  intro i c equal
  subst equal
  exact readable.self

theorem Almost.sequence_tail {nodes : List Node} {i : Nat} {written : Option Text}
    (almost : Almost leaf (.sequence i written (node :: nodes))) : Almost leaf (.sequence i written nodes) :=
  ⟨by simp, fun child member => almost.below child (List.mem_cons_of_mem _ member)⟩

theorem Almost.any_tail {nodes : List Node} {i : Nat} (almost : Almost leaf (.any i (node :: nodes))) :
    Almost leaf (.any i nodes) :=
  ⟨by simp, fun child member => almost.below child (List.mem_cons_of_mem _ member)⟩

theorem Almost.halves {head tail : List Node} {i : Nat} {written : Option Text}
    (almost : Almost leaf (.sequence i written (head ++ tail))) :
    Almost leaf (.sequence i written head) ∧ Almost leaf (.sequence i written tail) :=
  ⟨⟨by simp, fun child member => almost.below child (List.mem_append_left _ member)⟩,
    ⟨by simp, fun child member => almost.below child (List.mem_append_right _ member)⟩⟩

def Named (f : Fragment) : Prop := ∀ name ∈ f.names, Pattern.GroupName name

theorem named_cons {parts : List Fragment} (named : ∀ name ∈ Fragment.namesOfAll (f :: parts),
    Pattern.GroupName name) :
    Named f ∧ ∀ name ∈ Fragment.namesOfAll parts, Pattern.GroupName name := by
  rw [Fragment.namesOfAll_cons] at named
  exact ⟨fun name member => named name (List.mem_append_left _ member),
    fun name member => named name (List.mem_append_right _ member)⟩

theorem named_append {a b : List Fragment} (named : ∀ name ∈ Fragment.namesOfAll (a ++ b),
    Pattern.GroupName name) :
    (∀ name ∈ Fragment.namesOfAll a, Pattern.GroupName name) ∧
      ∀ name ∈ Fragment.namesOfAll b, Pattern.GroupName name := by
  rw [Fragment.namesOfAll, rowsOfAll_append, List.map_append] at named
  exact ⟨fun name member => named name (List.mem_append_left _ member),
    fun name member => named name (List.mem_append_right _ member)⟩

theorem Whole.readable_of_inside (whole : Whole node f) (self : node.IsReadable leaf)
    (inside : Inside leaf f) : f.Readable leaf := by
  cases whole with
  | anyNil => exact absurd rfl self
  | anyCons | repetition => exact ⟨by simp, inside⟩
  | _ => exact inside

theorem allReadable_append {a b : List Fragment} :
    Fragment.AllReadable leaf (a ++ b) ↔ Fragment.AllReadable leaf a ∧ Fragment.AllReadable leaf b := by
  induction a with
  | nil => simp [Fragment.AllReadable]
  | cons f a ih => simp [Fragment.AllReadable, ih, and_assoc]

theorem Whole.inside (whole : Whole node f) (almost : node.Almost leaf) (named : Named f) :
    Inside leaf f := by
  induction whole with
  | single => exact almost.self _ _ rfl
  | sequenceNil | anyNil => trivial
  | var inner ih =>
    have readable := almost.below _ (List.mem_singleton_self _)
    obtain ⟨name, named⟩ := List.forall_mem_cons.mp named
    exact ⟨name, inner.readable_of_inside readable.self (ih readable.almost named)⟩
  | sequenceCons first others ihFirst ihOthers =>
    have readable := almost.below _ (List.mem_cons_self ..)
    obtain ⟨namedFirst, namedOthers⟩ := named_cons named
    exact ⟨first.readable_of_inside readable.self (ihFirst readable.almost namedFirst),
      ihOthers almost.sequence_tail namedOthers⟩
  | anyCons first others ihFirst ihOthers =>
    have readable := almost.below _ (List.mem_cons_self ..)
    obtain ⟨namedFirst, namedOthers⟩ := named_cons named
    exact ⟨first.readable_of_inside readable.self (ihFirst readable.almost namedFirst),
      ihOthers almost.any_tail namedOthers⟩
  | repetition inner ih =>
    have readable := almost.below _ (List.mem_singleton_self _)
    exact ⟨inner.readable_of_inside readable.self (ih readable.almost (named_cons named).1), trivial⟩

theorem Whole.readable (whole : Whole node f) (readable : node.AllAreReadable leaf) (named : Named f) :
    f.Readable leaf :=
  whole.readable_of_inside readable.self (whole.inside readable.almost named)

theorem Started.readable_of_inside (started : Started node f rows) (readable : node.AllAreReadable leaf)
    (inside : Inside leaf f) : f.Readable leaf := by
  induction started with
  | anyNil => exact absurd rfl readable.self
  | anyCons | sequenceCut => exact ⟨by simp, inside⟩
  | sequenceOne _ ih => exact ih (readable.almost.below _ (List.mem_singleton_self _)) inside
  | _ => exact inside

theorem AllAreReadable.sequence {nodes : List Node} {i : Nat} {written : Option Text}
    (almost : Almost leaf (.sequence i written nodes)) : AllAreReadable leaf (.sequence i written nodes) := by
  intro other member
  rcases List.mem_cons.mp member with rfl | member
  · trivial
  · obtain ⟨child, below, member⟩ := mem_walkAll.mp member
    exact almost.below child below other member

theorem Started.inside (started : Started node f rows) (almost : node.Almost leaf) (named : Named f) :
    Inside leaf f := by
  induction started with
  | single => exact almost.self _ _ rfl
  | sequenceNil | anyNil => trivial
  | var inner ih =>
    have readable := almost.below _ (List.mem_singleton_self _)
    obtain ⟨name, named⟩ := List.forall_mem_cons.mp named
    exact ⟨name, inner.readable_of_inside readable (ih readable.almost named)⟩
  | sequenceOne only ih => exact ih (almost.below _ (List.mem_singleton_self _)).almost named
  | sequenceCut someHead someTail inside finished beyond ihInside ihBeyond =>
    obtain ⟨head, tail⟩ := almost.halves
    obtain ⟨namedFirst, namedInside⟩ := named_cons named
    obtain ⟨namedParts, namedRest⟩ := named_append namedFirst
    have parts := finished.inside head namedParts
    have rest := beyond.readable_of_inside (.sequence tail) (ihBeyond tail (named_cons namedRest).1)
    have begun := inside.readable_of_inside (.sequence head) (ihInside head (named_cons namedInside).1)
    exact ⟨allReadable_append.mpr ⟨parts, rest, trivial⟩, begun, trivial⟩
  | anyCons first others ihFirst ihOthers =>
    have readable := almost.below _ (List.mem_cons_self ..)
    obtain ⟨namedFirst, namedOthers⟩ := named_cons named
    exact ⟨first.readable_of_inside readable (ihFirst readable.almost namedFirst),
      ihOthers almost.any_tail namedOthers⟩
  | repetition last finished ih =>
    have readable := almost.below _ (List.mem_singleton_self _)
    obtain ⟨namedRounds, namedLast⟩ := named_cons named
    have begun := last.readable_of_inside readable (ih readable.almost (named_cons namedLast).1)
    have rounds := finished.readable readable (named_cons namedRounds).1
    exact ⟨⟨by simp, rounds, trivial⟩, begun, trivial⟩

theorem Started.readable (started : Started node f rows) (readable : node.AllAreReadable leaf)
    (named : Named f) : f.Readable leaf :=
  started.readable_of_inside readable (started.inside readable.almost named)

end Node
end Typeahead
