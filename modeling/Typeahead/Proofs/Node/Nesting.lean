import Typeahead.Proofs.Node.Places
import Typeahead.Proofs.Node.Visits

namespace Typeahead.Node

-- A text that is derived or breaks off.
def Explains (node : Node) (offset : Nat) (text : Text) (visits : List Visit) : Prop :=
  Derives node offset text visits ∨ Begins node offset text visits

-- Visits to what is in a part of a tree.
def visitsIn (part : Node) (visits : List Visit) : List Visit :=
  visits.filter fun visit => visit.node.id ∈ part.walk.map Node.id

variable {root part node child : Node} {nodes : List Node} {offset rounds i j k : Nat}
  {written : Option Text} {info : Variable} {text : Text} {visits front back : List Visit}
  {visit x y : Visit}

namespace Explains

theorem visited (explains : Explains node offset text visits) (member : visit ∈ visits) :
    visit.node ∈ node.walk ∧ visit.node.asVariable.isSome := by
  cases explains with
  | inl derives => exact derives.visited member
  | inr begins => exact begins.visited member

theorem covers (explains : Explains node offset text visits) (member : visit ∈ visits) :
    ∃ before own after, visit.Covers offset text before own after ∧
      (own ∈ visit.node.language ∨
        after = [] ∧ ∃ start below, Begins visit.node start own below) := by
  cases explains with
  | inl derives =>
    obtain ⟨before, own, after, covers, finished⟩ := derives.covers member
    exact ⟨before, own, after, covers, .inl finished⟩
  | inr begins => exact begins.covers member

theorem within (explains : Explains node offset text visits) (member : visit ∈ visits) :
    offset ≤ visit.span.start ∧ visit.span.start ≤ visit.span.stop ∧
      visit.span.stop ≤ offset + Text.bytes text := by
  obtain ⟨_, _, _, covers, _⟩ := explains.covers member
  exact covers.within

-- What a visit stands for is a text of its node where more follows, and can still become one.
theorem text_of_visit (live : root.Live) (explains : Explains root offset text visits)
    (member : visit ∈ visits) : ∃ before own after, visit.Covers offset text before own after ∧
      (after ≠ [] → own ∈ visit.node.language) ∧ ∃ rest, own ++ rest ∈ visit.node.language := by
  obtain ⟨before, own, after, covers, either⟩ := explains.covers member
  refine ⟨before, own, after, covers, fun more => either.resolve_right fun last => more last.1, ?_⟩
  rcases either with whole | ⟨_, start, below, begins⟩
  · exact ⟨[], by rwa [List.append_nil]⟩
  · have below : visit.node.Live := fun other known =>
      live other (walk_trans (explains.visited member).1 known)
    exact begins.finish below

theorem var_cases (explains : Explains (.var i info child) offset text visits) :
    visits = [] ∨ ∃ below, Explains child offset text below ∧
      visits = ⟨.var i info child, ⟨offset, offset + Text.bytes text⟩⟩ :: below := by
  cases explains with
  | inl derives =>
    cases derives with
    | var inner => exact .inr ⟨_, .inl inner, rfl⟩
  | inr begins =>
    cases begins with
    | varNone => exact .inl rfl
    | var inner => exact .inr ⟨_, .inr inner, rfl⟩

theorem any_cases (explains : Explains (.any i nodes) offset text visits) :
    visits = [] ∨ ∃ branch ∈ nodes, Explains branch offset text visits := by
  cases explains with
  | inl derives =>
    cases derives with
    | any branch inner => exact .inr ⟨_, branch, .inl inner⟩
  | inr begins =>
    cases begins with
    | anyNone => exact .inl rfl
    | any branch inner => exact .inr ⟨_, branch, .inr inner⟩

theorem sequence_cons (explains : Explains (.sequence i written (node :: nodes)) offset text visits) :
    ∃ a b front back, Explains node offset a front ∧
      Explains (.sequence i written nodes) (offset + Text.bytes a) b back ∧
      text = a ++ b ∧ visits = front ++ back := by
  cases explains with
  | inl derives =>
    cases derives with
    | sequenceCons first others => exact ⟨_, _, _, _, .inl first, .inl others, rfl, rfl⟩
  | inr begins =>
    cases begins with
    | inside first =>
      exact ⟨text, [], visits, [], .inr first, .inr (begins_nil _ _), by simp, by simp⟩
    | beyond _ first others => exact ⟨_, _, _, _, .inl first, .inr others, rfl, rfl⟩

end Explains

theorem visitsIn_append : visitsIn part (front ++ back) = visitsIn part front ++ visitsIn part back :=
  List.filter_append ..

theorem visitsIn_eq_nil (apart : ∀ visit ∈ visits, ∀ other ∈ part.walk, other.id ≠ visit.node.id) :
    visitsIn part visits = [] := by
  refine List.filter_eq_nil_iff.mpr fun visit member inside => ?_
  obtain ⟨other, known, equal⟩ := List.mem_map.mp (of_decide_eq_true inside)
  exact apart visit member other known equal

theorem mem_visitsIn (member : visit ∈ visits) (known : visit.node ∈ part.walk) :
    visit ∈ visitsIn part visits :=
  List.mem_filter.mpr ⟨member, decide_eq_true (List.mem_map_of_mem known)⟩

theorem Explains.visitsIn_self (explains : Explains node offset text visits) :
    visitsIn node visits = visits :=
  List.filter_eq_self.mpr fun _ member =>
    decide_eq_true (List.mem_map_of_mem (explains.visited member).1)

theorem Explains.visited_sequence (explains : Explains (.sequence i written nodes) offset text visits)
    (member : visit ∈ visits) : visit.node ∈ walkAll nodes ∧ visit.node.asVariable.isSome := by
  obtain ⟨known, isVariable⟩ := explains.visited member
  refine ⟨?_, isVariable⟩
  rcases List.mem_cons.mp known with equal | known
  · rw [equal] at isVariable
    cases isVariable
  · exact known

-- Of a sequence, the visits in one child; all others are to variables that stand elsewhere.
theorem Explains.sequence_child (once : VariablesOnce (walkAll nodes)) (child : node ∈ nodes)
    (below : part.walk ⊆ node.walk)
    (explains : Explains (.sequence i written nodes) offset text visits) :
    ∃ start own inner, Explains node start own inner ∧ visitsIn part visits = visitsIn part inner := by
  induction nodes generalizing offset text visits with
  | nil => cases child
  | cons first nodes ih =>
    obtain ⟨a, b, front, back, here, there, rfl, rfl⟩ := explains.sequence_cons
    rcases List.mem_cons.mp child with rfl | child
    · have elsewhere : visitsIn part back = [] := by
        refine visitsIn_eq_nil fun visit member other known => ?_
        obtain ⟨later, isVariable⟩ := there.visited_sequence member
        exact once.apart_of_right later isVariable other (below known)
      exact ⟨_, _, _, here, by rw [visitsIn_append, elsewhere, List.append_nil]⟩
    · have elsewhere : visitsIn part front = [] := by
        refine visitsIn_eq_nil fun visit member other known => ?_
        obtain ⟨earlier, isVariable⟩ := here.visited member
        exact once.apart_of_left earlier isVariable other (mem_walkAll.mpr ⟨node, child, below known⟩)
      obtain ⟨start, own, inner, explains', equal⟩ := ih once.right child there
      exact ⟨start, own, inner, explains', by rw [visitsIn_append, elsewhere, List.nil_append, equal]⟩

theorem VariablesOnce.children_apart (once : VariablesOnce (walkAll nodes)) {a b v w : Node}
    (different : i ≠ j) (left : nodes[i]? = some a) (right : nodes[j]? = some b) (first : v ∈ a.walk)
    (second : w ∈ b.walk) (isVariable : v.asVariable.isSome) : w.id ≠ v.id := by
  induction nodes generalizing i j with
  | nil => cases left
  | cons node nodes ih =>
    cases i with
    | zero =>
      obtain ⟨j, rfl⟩ := Nat.exists_eq_succ_of_ne_zero different.symm
      obtain rfl := Option.some.inj left
      have later : w ∈ walkAll nodes := mem_walkAll.mpr ⟨b, List.mem_of_getElem? right, second⟩
      exact once.apart_of_left first isVariable w later
    | succ i =>
      have later : v ∈ walkAll nodes := mem_walkAll.mpr ⟨a, List.mem_of_getElem? left, first⟩
      cases j with
      | zero =>
        obtain rfl := Option.some.inj right
        exact once.apart_of_right later isVariable w second
      | succ j => exact ih once.right (by omega) left right

theorem Explains.any_child (once : VariablesOnce (walkAll nodes)) (child : node ∈ nodes)
    (below : part.walk ⊆ node.walk) (explains : Explains (.any i nodes) offset text visits) :
    visitsIn part visits = [] ∨ Explains node offset text visits := by
  rcases explains.any_cases with rfl | ⟨branch, among, explains⟩
  · exact .inl rfl
  · by_cases same : branch = node
    · exact .inr (same ▸ explains)
    · refine .inl (visitsIn_eq_nil fun visit member other known => ?_)
      obtain ⟨inside, isVariable⟩ := explains.visited member
      obtain ⟨i, left⟩ := List.getElem?_of_mem among
      obtain ⟨j, right⟩ := List.getElem?_of_mem child
      have different : i ≠ j := by
        rintro rfl
        exact same (Option.some.inj (left.symm.trans right))
      exact once.children_apart different left right inside (below known) isVariable

-- Induction on the place: a repetition is the only node that enters what is below it more than once.
theorem Explains.entered (explains : Explains root offset text visits)
    (reaches : Reaches root rounds part) (alone : rounds = 0) (once : VariablesOnce root.walk) :
    visitsIn part visits = [] ∨ ∃ start own, Explains part start own (visitsIn part visits) := by
  induction reaches generalizing offset text visits with
  | here => exact .inr ⟨offset, text, explains.visitsIn_self.symm ▸ explains⟩
  | sequence child below ih =>
    obtain ⟨start, own, inner, explains', equal⟩ :=
      explains.sequence_child once.tail child below.walk_subset
    rw [equal]
    exact ih explains' alone (once.tail.among child)
  | any child below ih =>
    rcases explains.any_child once.tail child below.walk_subset with nothing | explains'
    · exact .inl nothing
    · exact ih explains' alone (once.tail.among child)
  | var below ih =>
    rename_i child _ part i info
    rcases explains.var_cases with rfl | ⟨inner, explains', rfl⟩
    · exact .inl rfl
    · have apart : ∀ other ∈ part.walk, other.id ≠ (Node.var i info child).id := fun other known =>
        once.apart_of_left (a := [.var i info child]) (List.mem_singleton_self _) rfl other
          (below.walk_subset known)
      have outside : visitsIn part [⟨.var i info child, ⟨offset, offset + Text.bytes text⟩⟩] = [] :=
        visitsIn_eq_nil fun visit member => List.mem_singleton.mp member ▸ apart
      rw [← List.singleton_append, visitsIn_append, outside, List.nil_append]
      exact ih explains' alone once.tail
  | repetition => cases alone

theorem Explains.part_of_mem (explains : Explains root offset text visits)
    (reaches : Reaches root 0 part) (once : VariablesOnce root.walk) (member : visit ∈ visits)
    (known : visit.node ∈ part.walk) :
    ∃ start own, Explains part start own (visitsIn part visits) := by
  rcases explains.entered reaches rfl once with nothing | entered
  · exact absurd (mem_visitsIn member known) (nothing ▸ List.not_mem_nil)
  · exact entered

theorem Explains.enclosed (explains : Explains root offset text visits)
    (reaches : Reaches root 0 (.var i info child)) (once : VariablesOnce root.walk)
    (member : x ∈ visits) (below : x.node ∈ child.walk) :
    ∃ outer ∈ visits, outer.node = .var i info child ∧ outer.span.start ≤ x.span.start ∧
      x.span.stop ≤ outer.span.stop ∧ ∀ other ∈ visits, other.node.id = i → other = outer := by
  have known : x.node ∈ (Node.var i info child).walk := List.mem_cons_of_mem _ below
  obtain ⟨start, own, entered⟩ := explains.part_of_mem reaches once member known
  have inside : x ∈ visitsIn (.var i info child) visits := mem_visitsIn member known
  rcases entered.var_cases with nothing | ⟨inner, explains', equal⟩
  · exact absurd inside (nothing ▸ List.not_mem_nil)
  · refine ⟨⟨.var i info child, ⟨start, start + Text.bytes own⟩⟩, ?_, rfl, ?_, ?_, ?_⟩
    · exact List.mem_of_mem_filter (equal ▸ List.mem_cons_self ..)
    · exact (entered.within inside).1
    · exact (entered.within inside).2.2
    · intro other among same
      have here : other.node = .var i info child :=
        once.same (reaches.walk_subset (self_mem_walk _)) rfl (explains.visited among).1 same
      have inside' : other ∈ visitsIn (.var i info child) visits :=
        mem_visitsIn among (here ▸ self_mem_walk _)
      rw [equal] at inside'
      rcases List.mem_cons.mp inside' with first | later
      · exact first
      · -- the variable would be a part of its own child
        have apart := (reaches.once once).apart_of_left (a := [.var i info child])
          (List.mem_singleton_self _) rfl other.node (explains'.visited later).1
        exact absurd same apart

theorem Explains.ordered (explains : Explains (.sequence k written nodes) offset text visits)
    (once : VariablesOnce (walkAll nodes)) {a b : Node} (earlier : i < j) (left : nodes[i]? = some a)
    (right : nodes[j]? = some b) (first : x ∈ visits) (inFirst : x.node ∈ a.walk) (second : y ∈ visits)
    (inSecond : y.node ∈ b.walk) : x.span.stop ≤ y.span.start := by
  induction nodes generalizing i j offset text visits with
  | nil => cases left
  | cons node nodes ih =>
    obtain ⟨p, q, front, back, here, there, rfl, rfl⟩ := explains.sequence_cons
    obtain ⟨j, rfl⟩ : ∃ n, j = n + 1 := ⟨j - 1, by omega⟩
    have isVariable := (explains.visited second).2
    have later : y.node ∈ walkAll nodes := mem_walkAll.mpr ⟨b, List.mem_of_getElem? right, inSecond⟩
    have inBack : y ∈ back := by
      refine (List.mem_append.mp second).resolve_left fun inFront => ?_
      exact once.apart_of_right later isVariable _ (here.visited inFront).1 rfl
    cases i with
    | zero =>
      obtain rfl := Option.some.inj left
      have inFront : x ∈ front := by
        refine (List.mem_append.mp first).resolve_right fun inBack => ?_
        obtain ⟨also, isVariable⟩ := there.visited_sequence inBack
        exact once.apart_of_right also isVariable _ inFirst rfl
      have stop := (here.within inFront).2.2
      have start := (there.within inBack).1
      omega
    | succ i =>
      have inBack' : x ∈ back := by
        refine (List.mem_append.mp first).resolve_left fun inFront => ?_
        obtain ⟨also, isVariable⟩ := here.visited inFront
        exact once.apart_of_left also isVariable x.node
          (mem_walkAll.mpr ⟨a, List.mem_of_getElem? left, inFirst⟩) rfl
      exact ih there once.right (by omega) left right inBack' inBack

theorem Explains.one_child (explains : Explains (.any k nodes) offset text visits)
    (once : VariablesOnce (walkAll nodes)) {a b : Node} (left : nodes[i]? = some a)
    (right : nodes[j]? = some b) (first : x ∈ visits) (inFirst : x.node ∈ a.walk) (second : y ∈ visits)
    (inSecond : y.node ∈ b.walk) : i = j := by
  rcases explains.any_cases with rfl | ⟨branch, among, inner⟩
  · cases first
  · obtain ⟨n, place⟩ := List.getElem?_of_mem among
    have here : ∀ {m : Nat} {c : Node} {z : Visit}, nodes[m]? = some c → z ∈ visits →
        z.node ∈ c.walk → m = n := by
      intro m c z at' member known
      refine Classical.byContradiction fun different => ?_
      obtain ⟨inside, isVariable⟩ := inner.visited member
      exact once.children_apart different at' place known inside isVariable rfl
    exact (here left first inFirst).trans (here right second inSecond).symm

theorem Explains.ordered_at (explains : Explains root offset text visits)
    (reaches : Reaches root 0 (.sequence k written nodes)) (once : VariablesOnce root.walk) {a b : Node}
    (earlier : i < j) (left : nodes[i]? = some a) (right : nodes[j]? = some b) (first : x ∈ visits)
    (inFirst : x.node ∈ a.walk) (second : y ∈ visits) (inSecond : y.node ∈ b.walk) :
    x.span.stop ≤ y.span.start := by
  have inPart : x.node ∈ (Node.sequence k written nodes).walk :=
    mem_walk_child (List.mem_of_getElem? left) inFirst
  have inPart' : y.node ∈ (Node.sequence k written nodes).walk :=
    mem_walk_child (List.mem_of_getElem? right) inSecond
  obtain ⟨start, own, entered⟩ := explains.part_of_mem reaches once first inPart
  exact entered.ordered (reaches.once once).tail earlier left right (mem_visitsIn first inPart) inFirst
    (mem_visitsIn second inPart') inSecond

theorem Explains.one_child_at (explains : Explains root offset text visits)
    (reaches : Reaches root 0 (.any k nodes)) (once : VariablesOnce root.walk) {a b : Node}
    (left : nodes[i]? = some a) (right : nodes[j]? = some b) (first : x ∈ visits)
    (inFirst : x.node ∈ a.walk) (second : y ∈ visits) (inSecond : y.node ∈ b.walk) : i = j := by
  have inPart : x.node ∈ (Node.any k nodes).walk := mem_walk_child (List.mem_of_getElem? left) inFirst
  have inPart' : y.node ∈ (Node.any k nodes).walk :=
    mem_walk_child (List.mem_of_getElem? right) inSecond
  obtain ⟨start, own, entered⟩ := explains.part_of_mem reaches once first inPart
  exact entered.one_child (reaches.once once).tail left right (mem_visitsIn first inPart) inFirst
    (mem_visitsIn second inPart') inSecond

end Typeahead.Node
