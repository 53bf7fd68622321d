import Typeahead.Proofs.Grammar.Visits
import Typeahead.Proofs.Node.Occasions

namespace Typeahead

-- The last captures of some rows, in the order of the rows.
def lastSpans (rows : List (Text × Node)) (captures : List Capture) : List Text.Span :=
  rows.filterMap fun row => (lastNamed? row.1 captures).map (·.span)

def rowsFor (id : Nat) (rows : List (Text × Node)) : List (Text × Node) := rows.filter (·.2.id = id)

-- None of the captures has the name of one of the rows.
def Apart (rows : List (Text × Node)) (captures : List Capture) : Prop :=
  ∀ row ∈ rows, ∀ c ∈ captures, c.name ≠ row.1

-- So many at most, each behind all that come later in the list.
structure Receding (most : Nat) (spans : List Text.Span) : Prop where
  few : spans.length ≤ most
  order : spans.Pairwise fun first other => other.stop ≤ first.start

section
variable {rows rows' : List (Text × Node)} {front back captures : List Capture} {row : Text × Node}
  {span : Text.Span} {spans : List Text.Span} {most id : Nat} {name : Text}

theorem lastNamed?_append : lastNamed? name (front ++ back) =
    (lastNamed? name back).or (lastNamed? name front) := by
  rw [lastNamed?, List.reverse_append, List.find?_append]
  rfl

theorem lastNamed?_eq_none (absent : ∀ c ∈ captures, c.name ≠ name) :
    lastNamed? name captures = none := by
  refine List.find?_eq_none.mpr fun c member => ?_
  simpa using absent c (List.mem_reverse.mp member)

theorem lastSpans_append :
    lastSpans (rows ++ rows') captures = lastSpans rows captures ++ lastSpans rows' captures :=
  List.filterMap_append ..

theorem lastSpans_length_le : (lastSpans rows captures).length ≤ rows.length :=
  List.length_filterMap_le ..

theorem lastSpans_none : lastSpans rows [] = [] := List.filterMap_eq_nil_iff.mpr fun _ _ => rfl

theorem captured_of_mem_lastSpans (member : span ∈ lastSpans rows captures) :
    ∃ c ∈ captures, c.span = span := by
  obtain ⟨row, _, found⟩ := List.mem_filterMap.mp member
  obtain ⟨c, last, rfl⟩ := Option.map_eq_some_iff.mp found
  exact ⟨c, List.mem_reverse.mp (List.mem_of_find?_eq_some last), rfl⟩

theorem rowsFor_append : rowsFor id (rows ++ rows') = rowsFor id rows ++ rowsFor id rows' :=
  List.filter_append ..

theorem rowsFor_subset : rowsFor id rows ⊆ rows := List.filter_subset_self _

theorem distinct_left (distinct : ((rows ++ rows').map Prod.fst).Nodup) : (rows.map Prod.fst).Nodup := by
  rw [List.map_append] at distinct
  exact distinct.of_append_left

theorem distinct_right (distinct : ((rows ++ rows').map Prod.fst).Nodup) :
    (rows'.map Prod.fst).Nodup := by
  rw [List.map_append] at distinct
  exact distinct.of_append_right

theorem receding_nil (most : Nat) : Receding most [] := ⟨Nat.zero_le _, List.Pairwise.nil⟩

theorem receding_of_short (short : spans.length ≤ 1) : Receding (most + 1) spans := by
  refine ⟨by omega, ?_⟩
  match spans, short with
  | [], _ => exact List.Pairwise.nil
  | [span], _ => exact List.pairwise_singleton _ _

theorem Receding.mono {least : Nat} (receding : Receding least spans) (fewer : least ≤ most) :
    Receding most spans :=
  ⟨receding.few.trans fewer, receding.order⟩

theorem Receding.append {others : List Text.Span} (receding : Receding most spans)
    (short : others.length ≤ 1) (behind : ∀ first ∈ spans, ∀ other ∈ others, other.stop ≤ first.start) :
    Receding (most + 1) (spans ++ others) := by
  obtain ⟨few, order⟩ := receding
  have alone : Receding 1 others := receding_of_short short
  refine ⟨?_, List.pairwise_append.mpr ⟨order, alone.order, behind⟩⟩
  rw [List.length_append]
  omega

namespace Apart

theorem subset (apart : Apart rows' captures) (fewer : rows ⊆ rows') : Apart rows captures :=
  fun row member => apart row (fewer member)

theorem left (apart : Apart (rows ++ rows') captures) : Apart rows captures :=
  apart.subset (List.subset_append_left ..)

theorem right (apart : Apart (rows ++ rows') captures) : Apart rows' captures :=
  apart.subset (List.subset_append_right ..)

theorem lastSpans_nil (apart : Apart rows captures) : lastSpans rows captures = [] := by
  refine List.filterMap_eq_nil_iff.mpr fun row member => ?_
  rw [lastNamed?_eq_none (apart row member), Option.map_none]

theorem lastSpans_back (apart : Apart rows front) :
    lastSpans rows (front ++ back) = lastSpans rows back := by
  refine List.filterMap_congr fun row member => ?_
  rw [lastNamed?_append, lastNamed?_eq_none (apart row member), Option.or_none]

theorem lastSpans_front (apart : Apart rows back) :
    lastSpans rows (front ++ back) = lastSpans rows front := by
  refine List.filterMap_congr fun row member => ?_
  rw [lastNamed?_append, lastNamed?_eq_none (apart row member), Option.none_or]

theorem left_only (apart : Apart rows' captures) :
    lastSpans (rowsFor id (rows ++ rows')) captures = lastSpans (rowsFor id rows) captures := by
  rw [rowsFor_append, lastSpans_append, (apart.subset rowsFor_subset).lastSpans_nil, List.append_nil]

theorem right_only (apart : Apart rows captures) :
    lastSpans (rowsFor id (rows ++ rows')) captures = lastSpans (rowsFor id rows') captures := by
  rw [rowsFor_append, lastSpans_append, (apart.subset rowsFor_subset).lastSpans_nil, List.nil_append]

theorem both (apart : Apart rows back) (apart' : Apart rows' front) :
    lastSpans (rowsFor id (rows ++ rows')) (front ++ back) =
      lastSpans (rowsFor id rows) front ++ lastSpans (rowsFor id rows') back := by
  rw [rowsFor_append, lastSpans_append, (apart.subset rowsFor_subset).lastSpans_front,
    (apart'.subset rowsFor_subset).lastSpans_back]

theorem crossed (apart : Apart rows front) (apart' : Apart rows' back) :
    lastSpans (rowsFor id (rows ++ rows')) (front ++ back) =
      lastSpans (rowsFor id rows) back ++ lastSpans (rowsFor id rows') front := by
  rw [rowsFor_append, lastSpans_append, (apart.subset rowsFor_subset).lastSpans_back,
    (apart'.subset rowsFor_subset).lastSpans_front]

theorem of_right (distinct : ((rows ++ rows').map Prod.fst).Nodup)
    (among : ∀ c ∈ captures, (c.name, c.node) ∈ rows') : Apart rows captures := by
  rw [List.map_append] at distinct
  intro row member c captured same
  exact (List.nodup_append.mp distinct).2.2 _ (List.mem_map_of_mem member) _
    (List.mem_map_of_mem (f := Prod.fst) (among c captured)) same.symm

theorem of_left (distinct : ((rows ++ rows').map Prod.fst).Nodup)
    (among : ∀ c ∈ captures, (c.name, c.node) ∈ rows) : Apart rows' captures := by
  rw [List.map_append] at distinct
  intro row member c captured same
  exact (List.nodup_append.mp distinct).2.2 _ (List.mem_map_of_mem (f := Prod.fst) (among c captured)) _
    (List.mem_map_of_mem member) same

end Apart

end

namespace Node
variable {node child v : Node} {head tail nodes : List Node} {i : Nat} {written : Option Text} {f : Fragment}
  {parts branches : List Fragment} {rest begun body branch : Fragment}
  {rows rows' : List (Text × Node)} {id rounds most offset : Nat} {text name a b : Text}
  {captures front back : List Capture} {span : Text.Span} {info : Variable}

theorem Whole.rowsFor_length (whole : Whole node f) :
    (rowsFor id f.rows).length = placesOf id node := by
  have nodes : (rowsFor id f.rows).map Prod.snd = node.variableNodes.filter (·.id = id) := by
    rw [← whole.nodes, List.filter_map]
    rfl
  rw [← List.length_map (f := Prod.snd), nodes, placesOf]

theorem Started.rowsFor_nil (started : Started node f rows) (nowhere : placesOf id node = 0) :
    rowsFor id rows = [] := by
  have unnamed : node.variableNodes.filter (·.id = id) = [] := List.eq_nil_of_length_eq_zero nowhere
  refine List.filter_eq_nil_iff.mpr fun row member => ?_
  exact List.filter_eq_nil_iff.mp unnamed row.2 (started.nodes (List.mem_map_of_mem member))

theorem Started.apart (started : Started node f rows) (apart : Apart f.rows captures) :
    Apart rows captures := apart.subset started.perm.subset

theorem lastSpans_one : (lastSpans (rowsFor id [(name, .var i info child)]) captures).length ≤
    if i = id then 1 else 0 := by
  refine lastSpans_length_le.trans ?_
  by_cases same : i = id <;> simp [rowsFor, Node.id, same]

theorem lastSpans_group (distinct : (name :: f.names).Nodup) (within : rows ⊆ f.rows) :
    lastSpans (rowsFor id ((name, node) :: rows)) (⟨name, node, span⟩ :: captures) =
      lastSpans (rowsFor id [(name, node)]) (⟨name, node, span⟩ :: captures) ++
        lastSpans (rowsFor id rows) captures := by
  have distinct' : (([(name, node)] ++ f.rows).map Prod.fst).Nodup := distinct
  have apart : Apart f.rows [⟨name, node, span⟩] := .of_left distinct' (by simp)
  have own : rowsFor id ((name, node) :: rows) = rowsFor id [(name, node)] ++ rowsFor id rows :=
    List.filter_append [(name, node)] rows
  rw [own, lastSpans_append]
  exact congrArg (_ ++ ·) (apart.subset (List.Subset.trans rowsFor_subset within)).lastSpans_back

-- Induction on how the fragment is built. Of the branches of a choice a text takes one; what follows in
-- a sequence has other names.
theorem Whole.few (whole : Whole node f) (distinct : f.names.Nodup)
    (taken : f.taking offset text captures) :
    (lastSpans (rowsFor id f.rows) captures).length ≤ occasions id node := by
  induction whole generalizing offset text captures with
  | single | sequenceNil | anyNil => exact Nat.zero_le _
  | var inner ih =>
    rename_i child body i info name
    obtain ⟨below, taken, rfl⟩ := taken
    rw [Fragment.rows, lastSpans_group distinct (List.Subset.refl _), List.length_append, occasions]
    exact Nat.add_le_add lastSpans_one (ih (List.nodup_cons.mp distinct).2 taken)
  | sequenceCons first others ihFirst ihOthers =>
    rename_i part _ _ _ parts
    obtain ⟨a, b, front, back, taken, taken', rfl, rfl⟩ := taken
    have apart : ((part.rows ++ Fragment.rowsOfAll parts).map Prod.fst).Nodup := distinct
    have never : Apart part.rows back := .of_right apart (Fragment.among_sequence parts _ _ _ taken')
    have never' : Apart (Fragment.rowsOfAll parts) front := .of_left apart (part.among _ _ _ taken)
    rw [Fragment.rows, Fragment.rowsOfAll, never.both never', List.length_append, occasions,
      occasionsAll]
    exact Nat.add_le_add (ihFirst (distinct_left apart) taken) (ihOthers (distinct_right apart) taken')
  | anyCons first others ihFirst ihOthers =>
    rename_i branch _ _ branches
    have apart : ((branch.rows ++ Fragment.rowsOfAll branches).map Prod.fst).Nodup := distinct
    rw [Fragment.rows, Fragment.rowsOfAll, occasions, occasionsAny]
    rcases taken with here | there
    · have never : Apart (Fragment.rowsOfAll branches) captures := .of_left apart (branch.among _ _ _ here)
      rw [never.left_only]
      exact (ihFirst (distinct_left apart) here).trans (Nat.le_max_left ..)
    · have never : Apart branch.rows captures :=
        .of_right apart (Fragment.among_branches branches _ _ _ there)
      rw [never.right_only]
      exact (ihOthers (distinct_right apart) there).trans (Nat.le_max_right ..)
  | repetition inner _ =>
    exact lastSpans_length_le.trans (Nat.le_of_eq (Whole.repetition (i := 0) inner).rowsFor_length)

theorem taking_cut (taken : (Fragment.choice .once [.sequence (parts ++ [rest]), begun]).taking
      offset text captures) :
    (∃ a b front back, Fragment.takingAll parts offset a front ∧
      rest.taking (offset + Text.bytes a) b back ∧ captures = front ++ back) ∨
      begun.taking offset text captures := by
  rcases taken with beyond | inside | never
  · have beyond' : Fragment.takingAll (parts ++ [rest]) offset text captures := beyond
    rw [takingAll_append] at beyond'
    obtain ⟨a, b, front, back, first, ⟨c, d, middle, last, second, ⟨rfl, rfl⟩, rfl, rfl⟩, rfl, rfl⟩ := beyond'
    exact .inl ⟨a, c, front, middle, first, second, by rw [List.append_nil]⟩
  · exact .inr inside
  · exact never.elim

theorem receding_group {body : Fragment} (inner : Started child body rows)
    (distinct : (name :: body.names).Nodup) (single : occasions id (.var i info child) ≤ 1)
    (later : Receding (most + 1) (lastSpans (rowsFor id rows) captures)) :
    Receding (most + 1) (lastSpans (rowsFor id ((name, .var i info child) :: rows))
      (⟨name, .var i info child, span⟩ :: captures)) := by
  rw [lastSpans_group distinct inner.perm.subset]
  rw [occasions] at single
  by_cases same : i = id
  · rw [if_pos same] at single
    have nothing : lastSpans (rowsFor id rows) captures = [] :=
      congrArg (lastSpans · captures) (inner.rowsFor_nil ((occasions_places child).2 (by omega)))
    rw [nothing, List.append_nil]
    exact receding_of_short (lastSpans_one.trans (Nat.le_of_eq (if_pos same)))
  · have nothing : rowsFor id [(name, Node.var i info child)] = [] :=
      List.filter_cons_of_neg fun equal => same (of_decide_eq_true equal)
    rw [nothing]
    exact later

theorem receding_beyond (inside : Started (.sequence i written head) begun rows)
    (finished : Whole (.sequence i written head) (.sequence parts))
    (beyond : Started (.sequence i written tail) rest rows')
    (distinct : ((Fragment.rowsOfAll parts ++ (rest.rows ++ begun.rows)).map Prod.fst).Nodup)
    (single : occasionsAll id (head ++ tail) ≤ 1)
    (first : Fragment.takingAll parts offset a front)
    (second : rest.taking (offset + Text.bytes a) b back)
    (later : Receding (most + 1) (lastSpans (rowsFor id rows') back)) :
    Receding (most + 1)
      (lastSpans (rowsFor id (rows ++ (Fragment.rowsOfAll parts ++ rows'))) (front ++ back)) := by
  have among := Fragment.among_sequence parts _ _ _ first
  have among' := rest.among _ _ _ second
  have regrouped : (((Fragment.rowsOfAll parts ++ rest.rows) ++ begun.rows).map Prod.fst).Nodup := by
    rwa [List.append_assoc]
  have never : Apart begun.rows (front ++ back) := .of_left regrouped fun c captured =>
    List.mem_append.mpr ((List.mem_append.mp captured).imp (among c) (among' c))
  have others : Apart (rest.rows ++ begun.rows) front := .of_left distinct among
  have finished' : Apart (Fragment.rowsOfAll parts) back := .of_right distinct fun c captured =>
    List.mem_append_left _ (among' c captured)
  rw [(inside.apart never).right_only, finished'.both (beyond.apart others.left)]
  have few : (lastSpans (rowsFor id (Fragment.rowsOfAll parts)) front).length ≤ occasionsAll id head :=
    finished.few (distinct_left distinct) first
  rw [occasionsAll_append] at single
  rcases Nat.eq_zero_or_pos (occasionsAll id tail) with nowhere | somewhere
  · have nothing : lastSpans (rowsFor id rows') back = [] :=
      congrArg (lastSpans · back) (beyond.rowsFor_nil ((occasions_places _).2 nowhere))
    rw [nothing, List.append_nil]
    exact receding_of_short (by omega)
  · have nothing : lastSpans (rowsFor id (Fragment.rowsOfAll parts)) front = [] :=
      List.eq_nil_of_length_eq_zero (by omega)
    rw [nothing, List.nil_append]
    exact later

theorem lastSpans_inside (beyond : Started (.sequence i written tail) rest rows')
    (distinct : ((Fragment.rowsOfAll parts ++ (rest.rows ++ begun.rows)).map Prod.fst).Nodup)
    (only : begun.taking offset text captures) :
    lastSpans (rowsFor id (rows ++ (Fragment.rowsOfAll parts ++ rows'))) captures =
      lastSpans (rowsFor id rows) captures := by
  have regrouped : (((Fragment.rowsOfAll parts ++ rest.rows) ++ begun.rows).map Prod.fst).Nodup := by
    rwa [List.append_assoc]
  have never : Apart (Fragment.rowsOfAll parts ++ rest.rows) captures :=
    .of_right regrouped (begun.among _ _ _ only)
  rw [← List.append_assoc, (beyond.apart never.right).left_only, never.left.left_only]

-- The finished rounds come before what is begun, and are named after it.
theorem receding_round (last : Started node begun rows) (finished : Whole node body)
    (distinct : ((body.rows ++ begun.rows).map Prod.fst).Nodup) (single : placesOf id node ≤ 1)
    (first : (Fragment.choice .any [body]).taking offset a front)
    (second : begun.taking (offset + Text.bytes a) b back)
    (later : Receding most (lastSpans (rowsFor id rows) back)) :
    Receding (most + 1) (lastSpans (rowsFor id (rows ++ body.rows)) (front ++ back)) := by
  have among : ∀ c ∈ front, (c.name, c.node) ∈ body.rows := by
    simpa [Fragment.rows, Fragment.rowsOfAll] using Fragment.among (.choice .any [body]) _ _ _ first
  have never : Apart begun.rows front := .of_left distinct among
  have never' : Apart body.rows back := .of_right distinct (begun.among _ _ _ second)
  rw [(last.apart never).crossed never']
  refine later.append (lastSpans_length_le.trans (finished.rowsFor_length.trans_le single)) ?_
  intro span inBack other inFront
  obtain ⟨x, captured, rfl⟩ := captured_of_mem_lastSpans inBack
  obtain ⟨y, captured', rfl⟩ := captured_of_mem_lastSpans inFront
  have derives := (Whole.repetition (i := 0) finished).agrees.1 _ _ _ first
  have begins := last.agrees.1 _ _ _ second
  obtain ⟨_, _, _, covers, _⟩ := derives.covers (List.mem_map_of_mem captured')
  obtain ⟨_, _, _, covers', _⟩ := begins.covers (List.mem_map_of_mem captured)
  exact covers.within.2.2.trans covers'.within.1

-- Induction on how the fragment is built. Where it has two branches a text takes one of them; only a
-- repetition adds to what is begun.
theorem Started.recedes (started : Started node f rows) (distinct : f.names.Nodup)
    (single : occasions id node ≤ 1) (taken : f.taking offset text captures) :
    Receding (around id node + 1) (lastSpans (rowsFor id rows) captures) := by
  induction started generalizing offset text captures with
  | single | sequenceNil | anyNil => exact receding_nil _
  | var inner ih =>
    rcases taken with ⟨below, taken, rfl⟩ | ⟨_, rfl⟩
    · have few := single
      rw [occasions] at few
      have later := ih (List.nodup_cons.mp distinct).2 (by omega) taken
      exact receding_group inner distinct single later
    · rw [lastSpans_none]
      exact receding_nil _
  | sequenceOne only ih =>
    rw [around, aroundMost, aroundMost, Nat.max_zero]
    exact ih distinct single taken
  | sequenceCut _ _ inside finished beyond ihInside ihBeyond =>
    rename_i begun rows parts rest rows' _ _
    have apart : ((Fragment.rowsOfAll parts ++ (rest.rows ++ begun.rows)).map Prod.fst).Nodup := by
      rwa [Fragment.names, rows_cut, rows_sequence_last, List.append_assoc] at distinct
    have few := single
    rw [occasions, occasionsAll_append] at few
    rw [around, aroundMost_append]
    rcases taking_cut taken with ⟨a, b, front, back, first, second, rfl⟩ | only
    · have later := ihBeyond (distinct_left (distinct_right apart)) (by rw [occasions]; omega) second
      refine receding_beyond inside finished beyond apart single first second (later.mono ?_)
      exact Nat.succ_le_succ (Nat.le_max_right ..)
    · have later := ihInside (distinct_right (distinct_right apart)) (by rw [occasions]; omega) only
      rw [Fragment.rows, lastSpans_inside beyond apart only]
      exact later.mono (Nat.succ_le_succ (Nat.le_max_left ..))
  | anyCons first others ihFirst ihOthers =>
    rename_i branch _ _ _ branches _
    have apart : ((branch.rows ++ Fragment.rowsOfAll branches).map Prod.fst).Nodup := distinct
    rw [occasions, occasionsAny] at single
    rw [around, aroundMost]
    rcases taken with (here | there) | ⟨_, rfl⟩
    · have later := ihFirst (distinct_left apart) (by omega) here
      have never : Apart (Fragment.rowsOfAll branches) captures := .of_left apart (branch.among _ _ _ here)
      rw [(others.apart never).left_only]
      exact later.mono (Nat.succ_le_succ (Nat.le_max_left ..))
    · have later := ihOthers (distinct_right apart) (by rw [occasions]; omega) (.inl there)
      have never : Apart branch.rows captures :=
        .of_right apart (Fragment.among_branches branches _ _ _ there)
      rw [(first.apart never).right_only]
      exact later.mono (Nat.succ_le_succ (Nat.le_max_right ..))
    · rw [lastSpans_none]
      exact receding_nil _
  | repetition last finished ih =>
    rename_i child begun rows body i
    obtain ⟨a, b, front, _, first, ⟨c, d, back, _, second, ⟨rfl, rfl⟩, rfl, rfl⟩, rfl, rfl⟩ := taken
    have apart : ((body.rows ++ begun.rows).map Prod.fst).Nodup := by
      simpa [Fragment.names, Fragment.rows, Fragment.rowsOfAll] using distinct
    rw [List.append_nil, around]
    by_cases nowhere : placesOf id child = 0
    · have nothing := Started.rowsFor_nil (.repetition (i := i) last finished) nowhere
      rw [nothing]
      exact receding_nil _
    · rw [if_neg nowhere]
      have later := ih (distinct_right apart) ((occasions_places child).1.trans single) second
      exact receding_round last finished apart single first second later

end Node

-- The spans of the groups of a node that took part, the one named first in front.
def Match.tookPart (m : Match) (node : Node) : List Text.Span :=
  (rowsOf node.id m.rows).filterMap m.rowSpan?

theorem Match.mem_resolve_iff {m : Match} {node : Node} (named : node ∈ m.rows.map GroupRow.node)
    (only : ∀ row ∈ m.rows, row.node.id = node.id → row.node = node) {span : Option Text.Span} :
    (node, span) ∈ m.resolve ↔ span = (m.tookPart node).head? := by
  obtain ⟨row, inside, rfl⟩ := List.mem_map.mp named
  have own : row ∈ rowsOf row.node.id m.rows := by simp [rowsOf, inside]
  obtain ⟨first, head⟩ := Option.isSome_iff_exists.mp
    (List.isSome_head?.mpr (List.ne_nil_of_mem own))
  obtain ⟨among, same⟩ := List.mem_filter.mp (List.mem_of_head? head)
  have equal := only first among (of_decide_eq_true same)
  rw [mem_resolve, entryOf?_resolve, head, tookPart, List.head?_filterMap]
  simp [equal, eq_comm]

theorem Derived.Comes.tookPart {d : Derived} {f : Fragment} {rows : List (Text × Node)} {m : Match}
    (comes : d.Comes f rows) (made : d.Makes m) : ∃ captures, f.taking 0 m.input captures ∧
      ∀ v, m.tookPart v = lastSpans (rowsFor v.id rows) captures := by
  obtain ⟨captures, taken, spans⟩ := comes.rowSpans made.run
  refine ⟨captures, taken, fun v => ?_⟩
  have each : m.tookPart v = (rowsOf v.id m.rows).filterMap fun row =>
      (lastNamed? row.name captures).map (·.span) :=
    List.filterMap_congr fun row member => spans row (made.rows ▸ (List.mem_filter.mp member).1)
  rw [each, rowsOf, made.rows, comes.rows, List.filter_map, List.filterMap_map]
  rfl

namespace Grammar
variable {g : Grammar} {root v : Node} {m : Match} {rounds : Nat} {limits : Limits}

theorem Compiled.nodes (compiled : g.Compiled root) (made : g.whole.Makes m ∨ g.started.Makes m) :
    m.rows.map GroupRow.node ⊆ root.variableNodes ∧
      root.variableNodes ⊆ m.rows.map GroupRow.node := by
  rcases made with made | made
  · obtain ⟨f, whole, comes⟩ := compiled.whole
    rw [made.rows, comes.nodes, whole.nodes]
    exact ⟨List.Subset.refl _, List.Subset.refl _⟩
  · obtain ⟨f, rows, started, comes⟩ := compiled.started
    rw [made.rows, comes.nodes]
    exact ⟨started.nodes, started.nodes_all⟩

theorem Compiled.mem_resolve_iff (compiled : g.Compiled root)
    (made : g.whole.Makes m ∨ g.started.Makes m) (known : v ∈ root.variableNodes)
    (only : ∀ other ∈ root.walk, other.id = v.id → other = v) {span : Option Text.Span} :
    (v, span) ∈ m.resolve ↔ span = (m.tookPart v).head? := by
  obtain ⟨among, all⟩ := compiled.nodes made
  refine Match.mem_resolve_iff (all known) fun row inside same => ?_
  exact only _ (List.mem_filter.mp (among (List.mem_map_of_mem inside))).1 same

theorem Compiled.receding (compiled : g.Compiled root) (made : g.started.Makes m)
    (single : root.occasions v.id ≤ 1) : Receding (root.around v.id + 1) (m.tookPart v) := by
  obtain ⟨f, rows, started, comes⟩ := compiled.started
  obtain ⟨captures, taken, took⟩ := comes.tookPart made
  rw [took]
  exact started.recedes comes.distinct single taken

-- Of a variable at one place the groups that took part lie against the order of their naming, one for
-- each repetition around it and one more at most, so it is resolved to the last of them in the text.
theorem latest_resolved (atoms : root.HasAtoms) (sole : root.Sole rounds v)
    (compiled : compile limits root = .ok g) (made : g.started.Makes m) :
    Receding (rounds + 1) (m.tookPart v) ∧
      ∀ span, (v, span) ∈ m.resolve ↔ span = (m.tookPart v).head? := by
  have built := Grammar.compiled atoms compiled
  have only := sole.once.placesOf_le
  have receding := built.receding made ((Node.occasions_places root).1.trans only)
  have known : v ∈ root.variableNodes := List.mem_filter.mpr ⟨sole.reaches.mem_walk, sole.isVariable⟩
  refine ⟨receding.mono (Nat.succ_le_succ (sole.reaches.around_le sole.isVariable only)), fun span => ?_⟩
  exact built.mem_resolve_iff (.inr made) known fun _ => sole.once.same

theorem entry_latest : ∃ g m, compile {} entry = .ok g ∧ g.matchStarted "a=7,b;,c".toList = some m ∧
    m.tookPart another = [⟨7, 8⟩, ⟨4, 5⟩] ∧ Receding 2 (m.tookPart another) ∧
    (another, some ⟨7, 8⟩) ∈ m.resolve := by
  obtain ⟨g, m, compiled, found, unfinished, _⟩ := entry_run
  have took : ((compile {} entry).toOption.bind (·.matchStarted "a=7,b;,c".toList)).map
      (·.tookPart another) = some [⟨7, 8⟩, ⟨4, 5⟩] := by decide +kernel
  rw [compiled] at took
  simp only [Except.toOption, Option.bind_some, found, Option.map_some, Option.some.injEq] at took
  have made : g.started.Makes m := by
    rcases (matchWith_made found).2 with ⟨complete, _⟩ | ⟨_, _, made⟩
    · rw [unfinished] at complete
      cases complete
    · exact made
  have again : Node.Reaches entry 1 another :=
    .sequence (.tail _ (.tail _ (.head _))) (.repetition (.sequence (.tail _ (.head _)) .here))
  have sole : entry.Sole 1 another :=
    ⟨rfl, Node.standsOnce_of_nodup entry_distinct entry_walk.2.2, again⟩
  obtain ⟨receding, latest⟩ := latest_resolved entry_characters.atoms sole compiled made
  exact ⟨g, m, compiled, found, took, receding, (latest _).mpr (by rw [took]; rfl)⟩

end Grammar
end Typeahead
