import Typeahead.Proofs.Grammar.Written

namespace Typeahead

-- The first in a list that something is wrong with, and what is wrong with it.
def FirstWrong (wrong : α → ε → Prop) (places : List α) (cause : ε) : Prop :=
  ∃ before place after, places = before ++ place :: after ∧
    (∀ other ∈ before, ∀ cause', ¬wrong other cause') ∧ wrong place cause

section
variable {wrong : α → ε → Prop} {fault : α → Option ε} {places : List α}

theorem findSome?_eq_none_iff_wrong (finds : ∀ place cause, fault place = some cause ↔ wrong place cause) :
    places.findSome? fault = none ↔ ∀ place ∈ places, ∀ cause, ¬wrong place cause := by
  rw [List.findSome?_eq_none_iff]
  simp only [Option.eq_none_iff_forall_ne_some, ne_eq, finds]

theorem findSome?_iff_firstWrong (finds : ∀ place cause, fault place = some cause ↔ wrong place cause)
    (cause : ε) : places.findSome? fault = some cause ↔ FirstWrong wrong places cause := by
  rw [List.findSome?_eq_some_iff]
  simp only [FirstWrong, Option.eq_none_iff_forall_ne_some, ne_eq, finds]
  constructor
  · rintro ⟨before, place, after, cut, here, earlier⟩
    exact ⟨before, place, after, cut, earlier, here⟩
  · rintro ⟨before, place, after, cut, earlier, here⟩
    exact ⟨before, place, after, cut, here, earlier⟩

theorem exists_firstWrong_iff (finds : ∀ place cause, fault place = some cause ↔ wrong place cause) :
    (∃ cause, FirstWrong wrong places cause) ↔ ∃ place ∈ places, ∃ cause, wrong place cause := by
  constructor
  · rintro ⟨cause, before, place, after, rfl, _, here⟩
    exact ⟨place, by simp, cause, here⟩
  · rintro ⟨place, member, cause, here⟩
    cases found : places.findSome? fault with
    | none => exact absurd here ((findSome?_eq_none_iff_wrong finds).mp found place member cause)
    | some first => exact ⟨first, (findSome?_iff_firstWrong finds first).mp found⟩

end

namespace Node

-- What can be wrong with a node.
inductive Faulty : Node → TreeError → Prop
  | sequence (few : nodes.length < 2) :
      Faulty (.sequence i none nodes) (.tooFewChildren .sequence nodes.length)
  | any (few : nodes.length < 2) : Faulty (.any i nodes) (.tooFewChildren .alternation nodes.length)
  | literal (child : node ∈ nodes) (composed : ∀ j c, node ≠ .single j c) :
      Faulty (.sequence i (some text) nodes) (.literalChild text)

variable {node root : Node} {nodes parts : List Node} {cause : TreeError} {n n' : Nat}

theorem isSingle_iff : node.isSingle = true ↔ ∃ j c, node = .single j c := by
  cases node <;> simp [isSingle]

theorem fault?_iff (node : Node) (cause : TreeError) : node.fault? = some cause ↔ node.Faulty cause := by
  constructor
  · intro found
    unfold fault? at found
    split at found
    · split at found
      · cases found
      · rename_i mixed
        cases found
        simp only [List.all_eq_true, not_forall] at mixed
        obtain ⟨child, among, composed⟩ := mixed
        exact .literal among fun j c equal => composed (isSingle_iff.mpr ⟨j, c, equal⟩)
    · split at found
      · rename_i few
        cases found
        exact .sequence few
      · cases found
    · split at found
      · rename_i few
        cases found
        exact .any few
      · cases found
    · cases found
  · intro faulty
    cases faulty with
    | sequence few => exact if_pos few
    | any few => exact if_pos few
    | literal child composed =>
      refine if_neg fun all => ?_
      obtain ⟨j, c, equal⟩ := isSingle_iff.mp (List.all_eq_true.mp all _ child)
      exact composed j c equal

theorem validate_error_iff : root.validate = .error cause ↔ FirstWrong Faulty root.walk cause := by
  rw [← findSome?_iff_firstWrong fault?_iff, validate_eq, firstFault]
  cases root.walk.findSome? fault? with
  | none => simp
  | some e => simp

theorem validate_ok_iff : root.validate = .ok () ↔ ∀ node ∈ root.walk, ∀ cause, ¬node.Faulty cause := by
  rw [← findSome?_eq_none_iff_wrong fault?_iff, validate_eq, firstFault]
  cases root.walk.findSome? fault? with
  | none => simp
  | some e => simp

theorem valid_of_children (faultless : node.fault? = none)
    (each : ∀ child ∈ node.children, child.validate = .ok ()) : node.validate = .ok () := by
  refine validate_of_fault_none fun other member => ?_
  rw [walk_eq] at member
  rcases List.mem_cons.mp member with rfl | inside
  · exact faultless
  · obtain ⟨child, below, known⟩ := mem_walkAll.mp inside
    exact fault_none_of_validate (each child below) other known

theorem Builds.valid {b : Building Node} (builds : Builds nodes b)
    (each : ∀ node ∈ nodes, node.validate = .ok ()) : (b.run n).1.validate = .ok () := by
  cases builds with
  | literal text => exact literal_valid text n
  | ofClass c => rfl
  | repetitionOf known =>
    refine valid_of_children rfl fun child below => ?_
    exact List.mem_singleton.mp below ▸ each _ known
  | named info known =>
    refine valid_of_children rfl fun child below => ?_
    exact List.mem_singleton.mp below ▸ each _ known
  | followedBy left right => exact (joins_followedBy _ _ n).valid (each _ left) (each _ right)
  | or left right => exact (joins_or _ _ n).valid (each _ left) (each _ right)

theorem sequenceOf_faultless (made : (sequenceOf parts).run n = .ok (node, n')) : node.fault? = none := by
  obtain ⟨rfl, rfl⟩ := sequenceOf_eq made
  unfold sequenceOf at made
  split at made
  · cases made
  · rename_i enough
    exact if_neg enough

theorem anyOf_faultless (made : (anyOf parts).run n = .ok (node, n')) : node.fault? = none := by
  obtain ⟨rfl, rfl⟩ := anyOf_eq made
  unfold anyOf at made
  split at made
  · cases made
  · rename_i enough
    exact if_neg enough

theorem Built.valid (built : Built n nodes) : ∀ node ∈ nodes, node.validate = .ok () := by
  induction built with
  | start => exact List.forall_mem_nil _
  | step _ builds ih => exact List.forall_mem_cons.mpr ⟨builds.valid ih, ih⟩
  | sequenceOf _ known made ih =>
    have faultless := sequenceOf_faultless made
    obtain ⟨rfl, rfl⟩ := sequenceOf_eq made
    have whole := valid_of_children faultless fun child below => ih child (known below)
    exact List.forall_mem_cons.mpr ⟨whole, ih⟩
  | anyOf _ known made ih =>
    have faultless := anyOf_faultless made
    obtain ⟨rfl, rfl⟩ := anyOf_eq made
    have whole := valid_of_children faultless fun child below => ih child (known below)
    exact List.forall_mem_cons.mpr ⟨whole, ih⟩

end Node

namespace Grammar
variable {limits : Limits} {root : Node} {cause : TreeError}

theorem compile_badTree_iff :
    compile limits root = .error (.badTree cause) ↔ root.validate = .error cause := by
  constructor
  · intro failed
    cases checked : root.validate with
    | ok _ =>
      obtain ⟨_, _, equal⟩ := badPattern_of_compile checked failed
      cases equal
    | error other =>
      unfold compile at failed
      rw [checked] at failed
      cases failed
      rfl
  · intro refused
    unfold compile
    rw [refused]

theorem faults_exact (limits : Limits) (root : Node) :
    (∀ cause, compile limits root = .error (.badTree cause) ↔
      FirstWrong Node.Faulty root.walk cause) ∧
    ((∃ cause, compile limits root = .error (.badTree cause)) ↔
      ∃ node ∈ root.walk, ∃ cause, node.Faulty cause) ∧
    ∀ n nodes, Node.Built n nodes → root ∈ nodes → ∀ node ∈ root.walk, ∀ cause, ¬node.Faulty cause := by
  refine ⟨fun cause => compile_badTree_iff.trans Node.validate_error_iff, ?_, ?_⟩
  · simp only [compile_badTree_iff, Node.validate_error_iff]
    exact exists_firstWrong_iff Node.fault?_iff
  · intro n nodes built among
    exact Node.validate_ok_iff.mp (built.valid root among)

-- A choice of one branch below a repetition, before a literal with a child that is no class.

def initial : Node := .single 0 ⟨"[a-c]".toList⟩

def crooked : Node := .sequence 5 none
  [.repetition 2 (.any 1 [initial]), .sequence 4 (some "ab".toList) [initial, .repetition 3 initial]]

theorem crooked_refused :
    compile {} crooked = .error (.badTree (.tooFewChildren .alternation 1)) ∧
    ∃ n nodes root, Node.Built n nodes ∧ root ∈ nodes ∧ root.children.length = 3 ∧
      ∀ node ∈ root.walk, ∀ cause, ¬node.Faulty cause := by
  constructor
  · refine ((faults_exact {} crooked).1 _).mpr ⟨[crooked, .repetition 2 (.any 1 [initial])],
      .any 1 [initial], _, rfl, ?_, .any (by decide)⟩
    intro other earlier cause faulty
    have found := (Node.fault?_iff other cause).mpr faulty
    simp only [List.mem_cons, List.not_mem_nil, or_false] at earlier
    rcases earlier with rfl | rfl
    · cases found
    · cases found
  · have leaf := Node.Built.step (.start : Node.Built 0 []) (.ofClass ⟨"[a-c]".toList⟩)
    have pair := leaf.step (.followedBy (.head _) (.head _))
    have triple := pair.step (.followedBy (.head _) (.tail _ (.head _)))
    exact ⟨_, _, _, triple, .head _, rfl, (faults_exact {} _).2.2 _ _ triple (.head _)⟩

end Grammar
end Typeahead
