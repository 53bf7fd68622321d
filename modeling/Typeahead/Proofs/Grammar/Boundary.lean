import Typeahead.Proofs.Grammar.Cuts
import Typeahead.Proofs.Grammar.Visits
import Typeahead.Proofs.Pattern.Choices

namespace Typeahead
open Pattern (Tries AtEnd Optional Solid Finishes)

namespace Fragment

def pattern (index : Text → Nat) (f : Fragment) : Pattern := .ofTree (.ofItems (f.items index))

variable {f begun : Fragment} {index : Text → Nat} {a b : Pattern.Place} {ms : List Pattern.Mark}
  {captures : List Capture}

theorem means_pattern (readable : f.Readable CharClass.OneAtom) : Means (f.pattern index) (f.move index) :=
  means_ofItems (means index f readable)

theorem taken_of_move (readable : f.Readable CharClass.OneAtom) (distinct : (f.names.map index).Nodup)
    (way : (f.pattern index).move a b ms) (ends : b.rest = []) :
    ∃ captures, f.taking a.offset a.rest captures ∧ Recorded index captures ms := by
  obtain ⟨text, captures, taken, rest, _, recorded⟩ :=
    f.sound index distinct _ _ _ ((means_pattern readable).refines.sound _ _ _ way)
  rw [ends, List.append_nil] at rest
  exact ⟨captures, rest ▸ taken, recorded⟩

theorem finishes_of_taken (readable : f.Readable CharClass.OneAtom)
    (taken : f.taking a.offset a.rest captures) : (f.pattern index).Finishes a := by
  obtain ⟨b, ms, way, rest, _⟩ := f.complete index a a.rest [] captures (by simp) taken
  obtain ⟨ms', way'⟩ := (means_pattern readable).refines.complete _ _ _ way
  exact ⟨b, ms', way', rest⟩

theorem pattern_optional {item : Pattern.Tree} (written : f.items index = [Times.optional.apply item]) :
    f.pattern index = .repetition 0 (some 1) true (.ofTree item) := by
  rw [pattern, written]
  simp [Pattern.Tree.ofItems, Times.apply, Pattern.ofTree, Pattern.ofRepetition]

-- Two branches stay what they are, if the second can be left out.
theorem pattern_cut (readable : f.Readable CharClass.OneAtom)
    (optional : ∃ q ∈ (begun.pattern index).alternatives, Optional q) :
    (Fragment.choice .once [f, begun]).pattern index =
      .choice ((f.pattern index).alternatives ++ (begun.pattern index).alternatives) := by
  obtain ⟨q, member, optional⟩ := optional
  have branches : (Fragment.choice .once [f, begun]).pattern index =
      .ofBranches [f.pattern index, begun.pattern index] := rfl
  have flat : [f.pattern index, begun.pattern index].flatMap Pattern.alternatives =
      (f.pattern index).alternatives ++ (begun.pattern index).alternatives := by simp
  have first := List.length_pos_iff.mpr
    (Pattern.alternatives_ne_nil (@means_pattern _ index readable).tidy)
  have second := List.length_pos_of_mem member
  rw [branches, ← flat]
  refine Pattern.ofBranches_optional (flat ▸ List.mem_append_right _ member) optional ?_
  rw [flat, List.length_append]
  omega

theorem tries_last {parts : List Fragment} {rest : Fragment} {k : List Pattern.Code}
    {marks found : List Pattern.Mark} (atEnd : AtEnd k) (one : ∃ item, rest.items index = [item])
    (solid : Solid (rest.pattern index))
    (tries : Tries k a marks found ((Fragment.sequence (parts ++ [rest])).pattern index).alternatives) :
    ∃ b ms k', AtEnd k' ∧ ((Pattern.ofTrees (itemsOfAll index parts)).map Pattern.move).prod a b ms ∧
      Tries k' b (ms.reverse ++ marks) found (rest.pattern index).alternatives := by
  obtain ⟨item, one⟩ := one
  have last : rest.pattern index = .ofTree item := by rw [pattern, one]; rfl
  have items : (Fragment.sequence (parts ++ [rest])).items index = itemsOfAll index parts ++ [item] := by
    rw [Fragment.items, itemsOfAll_append, itemsOfAll, one]
    rfl
  rw [last] at solid ⊢
  rw [pattern, items] at tries
  cases before : itemsOfAll index parts with
  | nil =>
    rw [before] at tries
    exact ⟨a, [], k, atEnd, Pattern.Move.one_intro, tries⟩
  | cons first others =>
    have joined : Pattern.ofTree (.ofItems (first :: others ++ [item])) =
        .ofParts (Pattern.ofTrees (first :: others) ++ [.ofTree item]) := by
      rw [ofTrees_eq]
      cases others <;> simp [Pattern.Tree.ofItems, Pattern.ofTree, ofTrees_eq]
    rw [before, joined] at tries
    exact Tries.of_parts solid tries atEnd

end Fragment

namespace Node

-- Its texts begin with rounds of a repetition, if with anything.
inductive LedByRepetition : Node → Prop
  | repetition : LedByRepetition (.repetition i child)
  | sequence (first : LedByRepetition node) : LedByRepetition (.sequence i written (node :: nodes))

variable {node : Node} {f begun rest : Fragment} {rows : List (Text × Node)} {index : Text → Nat}
  {before after nodes head tail : List Node} {i j offset : Nat} {written : Option Text} {info : Variable}
  {child : Node} {text : Text} {visits : List Visit} {k : List Pattern.Code} {a : Pattern.Place}
  {marks found : List Pattern.Mark}

theorem LedByRepetition.append (led : LedByRepetition (.sequence i written head)) :
    LedByRepetition (.sequence i written (head ++ tail)) := by
  cases led with
  | sequence first => exact .sequence first

-- A begun fragment can be left out, and where no repetition leads it, it has a branch for that.
theorem Started.optional (index : Text → Nat) (started : Started node f rows)
    (unled : ¬ node.LedByRepetition) (readable : f.Readable CharClass.OneAtom) :
    ∃ q ∈ (f.pattern index).alternatives, Optional q := by
  induction started with
  | single | var | anyNil | anyCons =>
    exact ⟨_, by rw [Fragment.pattern_optional rfl]; exact List.mem_singleton_self _, .once⟩
  | sequenceNil => exact ⟨_, List.mem_singleton_self _, .empty⟩
  | sequenceOne only ih => exact ih (fun led => unled (.sequence led)) readable
  | sequenceCut someHead _ inside _ _ ih _ =>
    obtain ⟨_, first, second, _⟩ := readable
    obtain ⟨q, member, optional⟩ := ih (fun led => unled led.append) second
    refine ⟨q, ?_, optional⟩
    rw [Fragment.pattern_cut first ⟨q, member, optional⟩]
    exact List.mem_append_right _ member
  | repetition => exact absurd .repetition unled

theorem unled_sequence (unled : ∀ node ∈ before, ¬ node.LedByRepetition) :
    ¬ LedByRepetition (.sequence i written (before ++ .var j info child :: after)) := by
  intro led
  cases before with
  | nil =>
    cases led with
    | sequence first => cases first
  | cons node before =>
    cases led with
    | sequence first => exact unled node (List.mem_cons_self ..) first

theorem only_place {v : Node} (place : [node] = before ++ v :: after) :
    before = [] ∧ node = v ∧ after = [] := by
  cases before with
  | nil => simpa [eq_comm] using place
  | cons first before => simp at place

theorem cut_place {v : Node} (place : head ++ tail = before ++ v :: after) :
    (∃ between, before = head ++ between ∧ tail = between ++ v :: after) ∨
      ∃ more, head = before ++ v :: more := by
  rcases List.append_eq_append_iff.mp place with ⟨between, equal, rest⟩ | ⟨between, equal, rest⟩
  · exact .inl ⟨between, equal, rest⟩
  · cases between with
    | nil => exact .inl ⟨[], by simpa using equal.symm, rest.symm⟩
    | cons first more =>
      obtain ⟨rfl, rfl⟩ := List.cons.inj rest
      exact .inr ⟨more, equal⟩

theorem Started.solid (index : Text → Nat) (started : Started (.sequence i written nodes) f rows)
    (place : nodes = before ++ .var j info child :: after) (unled : ∀ node ∈ before, ¬ node.LedByRepetition)
    (readable : f.Readable CharClass.OneAtom) :
    (∃ item, f.items index = [item]) ∧ Solid (f.pattern index) := by
  have apart : ¬ LedByRepetition (.sequence i written nodes) := by
    rw [place]
    exact unled_sequence unled
  cases started with
  | sequenceNil => simp at place
  | sequenceOne only =>
    obtain ⟨rfl, rfl, rfl⟩ := only_place place
    cases only with
    | var _ =>
      refine ⟨⟨_, rfl⟩, ?_⟩
      rw [Fragment.pattern_optional rfl]
      exact .repetition
  | sequenceCut someHead _ inside _ _ =>
    obtain ⟨_, first, second, _⟩ := readable
    have optional := inside.optional index (fun led => apart led.append) second
    refine ⟨⟨_, rfl⟩, ?_⟩
    rw [Fragment.pattern_cut first optional]
    exact .choice

-- Some children are finished and one is begun, with a text that does not reach the end of the nodes.
def FallsShort (nodes : List Node) (text : Text) : Prop :=
  ∃ more node rest a b offset visits, nodes = more ++ node :: rest ∧ text = a ++ b ∧
    a ∈ languageAll more ∧ Begins node offset b visits ∧ b ∉ languageAll (node :: rest)

theorem FallsShort.behind (short : FallsShort nodes text) {front : Text}
    (finished : front ∈ languageAll before) : FallsShort (before ++ nodes) (front ++ text) := by
  obtain ⟨more, node, rest, a, b, offset, visits, rfl, rfl, member, begins, short⟩ := short
  refine ⟨before ++ more, node, rest, front ++ a, b, offset, visits, by simp, by simp, ?_, begins, short⟩
  rw [languageAll_append]
  exact Language.append_mem_mul finished member

theorem FallsShort.ending (short : FallsShort nodes text) (live : ∀ node ∈ nodes, node.Live) :
    ∃ more node rest a b, nodes = more ++ node :: rest ∧ text = a ++ b ∧ a ∈ languageAll more ∧
      (∃ ending, b ++ ending ∈ node.language) ∧ b ∉ languageAll (node :: rest) := by
  obtain ⟨more, node, rest, a, b, _, _, rfl, rfl, member, begins, beyond⟩ := short
  exact ⟨more, node, rest, a, b, rfl, rfl, member, begins.finish (live node (by simp)), beyond⟩

theorem Begins.fallsShort (begins : Begins (.sequence i written head) offset text visits) (some' : head ≠ [])
    (beyond : text ∉ languageAll (head ++ nodes)) : FallsShort (head ++ nodes) text := by
  obtain ⟨more, node, rest, a, b, front, back, rfl, finished, begun, rfl, rfl⟩ :=
    brokenOff_of_begins some' begins
  refine ⟨more, node, rest ++ nodes, a, b, _, back, by simp, rfl, finished.mem_language, begun, ?_⟩
  intro member
  rw [List.append_assoc, languageAll_append] at beyond
  exact beyond (Language.append_mem_mul finished.mem_language member)

theorem Derives.visits_child (derives : Derives (.sequence i written nodes) offset text visits)
    (member : .var j info child ∈ nodes) : ∃ visit ∈ visits, visit.node = .var j info child := by
  induction nodes generalizing offset text visits with
  | nil => cases member
  | cons node nodes ih =>
    cases derives with
    | sequenceCons first others =>
      rcases List.mem_cons.mp member with rfl | member
      · cases first with
        | var inner => exact ⟨_, List.mem_append_left _ (List.mem_cons_self ..), rfl⟩
      · obtain ⟨visit, inside, same⟩ := ih others member
        exact ⟨visit, List.mem_append_right _ inside, same⟩

-- The marks tell of a group of the node.
def Entered (index : Text → Nat) (rows : List (Text × Node)) (v : Node) (marks : List Pattern.Mark) : Prop :=
  ∃ name, (name, v) ∈ rows ∧ (Pattern.spanOf? (index name) marks).isSome

theorem entered_of_captured {captures : List Capture} {c : Capture} {ms : List Pattern.Mark}
    (taken : f.taking offset text captures) (recorded : Recorded index captures ms) (member : c ∈ captures)
    (marks : List Pattern.Mark) : Entered index f.rows c.node (ms.reverse ++ marks) := by
  refine ⟨c.name, f.among _ _ _ taken c member, ?_⟩
  have own : (Pattern.spanOf? (index c.name) ms.reverse).isSome := by
    rw [Derived.spanOf?_recorded recorded, Option.isSome_map]
    exact List.find?_isSome.mpr ⟨c, List.mem_reverse.mpr member, by simp⟩
  rw [spanOf?_isSome_iff] at own ⊢
  simp only [placeOf?_append, Option.isSome_or, own, Bool.true_or, and_self]

theorem entered_of_own {name : Text} {body : Fragment} (inner : Started child body rows)
    (readable : (Fragment.group .optional name node body).Readable CharClass.OneAtom)
    (distinct : ((Fragment.group .optional name node body).names.map index).Nodup) (atEnd : AtEnd k)
    (tries : Tries k a marks found ((Fragment.group .optional name node body).pattern index).alternatives) :
    Entered index (Fragment.group .optional name node body).rows node found := by
  rw [Fragment.pattern_optional rfl] at tries
  have idle : a.rest = [] → ((Fragment.group .once name node body).pattern index).Finishes a := by
    intro ends
    obtain ⟨captures, taken, _⟩ := inner.agrees.2 a.offset [] [] (begins_nil child a.offset)
    exact Fragment.finishes_of_taken readable ⟨captures, ends ▸ taken, rfl⟩
  obtain ⟨k', atEnd', tries⟩ := tries.of_once atEnd idle
  obtain ⟨b, ms, way, ends, rfl⟩ := Tries.finish tries atEnd'
  obtain ⟨_, ⟨captures, taken, rfl⟩, recorded⟩ :=
    @Fragment.taken_of_move (.group .once name node body) index _ _ _ readable distinct way ends
  exact @entered_of_captured (.group .once name node body) _ _ _ _ _ _ ⟨captures, taken, rfl⟩ recorded
    (List.mem_cons_self ..) marks

theorem Entered.mono {rows' : List (Text × Node)} {v : Node} (entered : Entered index rows v marks)
    (more : rows ⊆ rows') : Entered index rows' v marks := by
  obtain ⟨name, member, set⟩ := entered
  exact ⟨name, more member, set⟩

section
variable {parts : List Fragment}

theorem Whole.covers (finished : Whole (.sequence i written head) (.sequence parts))
    (readable : Fragment.AllReadable CharClass.OneAtom parts)
    (distinct : ((Fragment.namesOfAll parts).map index).Nodup) {b : Pattern.Place} {ms : List Pattern.Mark}
    (way : ((Pattern.ofTrees (Fragment.itemsOfAll index parts)).map Pattern.move).prod a b ms) :
    ∃ text ∈ languageAll head, a.rest = text ++ b.rest := by
  have moved := (Fragment.means_sequence index parts readable).refines.sound _ _ _ way
  obtain ⟨text, captures, taken, split, _⟩ := Fragment.sound_sequence index parts distinct _ _ _ moved
  exact ⟨text, (finished.agrees.1 _ _ _ taken).mem_language, split⟩

theorem enters_beyond (finished : Whole (.sequence i written head) (.sequence parts))
    (beyond : Started (.sequence i written nodes) rest rows)
    (place : nodes = before ++ .var j info child :: after) (unled : ∀ node ∈ before, ¬ node.LedByRepetition)
    (readable : (Fragment.sequence (parts ++ [rest])).Readable CharClass.OneAtom)
    (distinct : ((Fragment.namesOfAll parts).map index).Nodup) (atEnd : AtEnd k)
    (tries : Tries k a marks found ((Fragment.sequence (parts ++ [rest])).pattern index).alternatives)
    (onward : ∀ {k a marks}, AtEnd k → Tries k a marks found (rest.pattern index).alternatives →
      Entered index rest.rows (.var j info child) found ∨ FallsShort before a.rest) :
    Entered index rest.rows (.var j info child) found ∨ FallsShort (head ++ before) a.rest := by
  obtain ⟨readableParts, readableRest, _⟩ := allReadable_append.mp readable
  obtain ⟨one, solid⟩ := beyond.solid index place unled readableRest
  obtain ⟨b, ms, k', atEnd', way, tries⟩ := Fragment.tries_last atEnd one solid tries
  obtain ⟨text, member, split⟩ := finished.covers readableParts distinct way
  rw [split]
  exact (onward atEnd' tries).imp_right fun short => short.behind member

theorem short_inside (finished : Whole (.sequence i written head) (.sequence parts))
    (beyond : Started (.sequence i written nodes) rest rows) (some' : head ≠ [])
    (place : nodes = before ++ .var j info child :: after)
    (inside : Started (.sequence i written head) begun rows')
    (readable : (Fragment.sequence (parts ++ [rest])).Readable CharClass.OneAtom)
    (failed : ¬ ((Fragment.sequence (parts ++ [rest])).pattern index).Finishes a)
    (readable' : begun.Readable CharClass.OneAtom)
    (distinct : (begun.names.map index).Nodup) (atEnd : AtEnd k)
    (tries : Tries k a marks found (begun.pattern index).alternatives) :
    FallsShort (head ++ before) a.rest := by
  obtain ⟨b, ms, way, ends, _⟩ := tries.finish atEnd
  obtain ⟨captures, taken, _⟩ := Fragment.taken_of_move readable' distinct way ends
  refine (inside.agrees.1 _ _ _ taken).fallsShort some' fun member => failed ?_
  rw [languageAll_append] at member
  obtain ⟨front, inHead, back, inBefore, whole⟩ := Language.mem_mul.mp member
  obtain ⟨_, first⟩ := derives_of_mem_all i written head front a.offset inHead
  obtain ⟨_, second⟩ := derives_of_mem_all i written before back (a.offset + Text.bytes front) inBefore
  have begins := begins_append_right (List.cons_ne_nil (.var j info child) after) second (begins_nil _ _)
  rw [← place, List.append_nil] at begins
  have cut := finished.agrees.followedBy beyond.agrees.alone
  obtain ⟨captures, taken, _⟩ := cut.2 _ _ _ ⟨front, back, _, _, first, begins, whole.symm, rfl⟩
  have both : Fragment.takingAll (parts ++ [rest]) a.offset a.rest captures := by
    rw [takingAll_append]
    exact taken
  exact Fragment.finishes_of_taken readable both

theorem entered_inside (finished : Whole (.sequence i written head) (.sequence parts))
    (member : .var j info child ∈ head)
    (readable : (Fragment.sequence (parts ++ [rest])).Readable CharClass.OneAtom)
    (distinct : ((Fragment.sequence (parts ++ [rest])).names.map index).Nodup) (atEnd : AtEnd k)
    (tries : Tries k a marks found ((Fragment.sequence (parts ++ [rest])).pattern index).alternatives) :
    Entered index (Fragment.sequence (parts ++ [rest])).rows (.var j info child) found := by
  obtain ⟨b, ms, way, ends, rfl⟩ := tries.finish atEnd
  obtain ⟨captures, taken, recorded⟩ := Fragment.taken_of_move readable distinct way ends
  have both : Fragment.takingAll (parts ++ [rest]) a.offset a.rest captures := taken
  rw [takingAll_append] at both
  obtain ⟨_, _, front, back, first, _, _, rfl⟩ := both
  obtain ⟨_, visited, same⟩ := (finished.agrees.1 _ _ _ first).visits_child member
  obtain ⟨c, captured, rfl⟩ := List.mem_map.mp visited
  exact same ▸ entered_of_captured taken recorded (List.mem_append_left _ captured) marks

end

-- Induction on the cuts. Where the variable is behind the cut, the search comes to it, or the first half
-- is finished otherwise, or it is only begun; then it cannot be finished here, as that was tried before.
theorem Started.enters (started : Started node f rows) (shape : node = .sequence i written nodes)
    (place : nodes = before ++ .var j info child :: after) (unled : ∀ node ∈ before, ¬ node.LedByRepetition)
    (readable : f.Readable CharClass.OneAtom) (distinct : (f.names.map index).Nodup) (atEnd : AtEnd k)
    (tries : Tries k a marks found (f.pattern index).alternatives) :
    Entered index f.rows (.var j info child) found ∨ FallsShort before a.rest := by
  induction started generalizing nodes before after a marks k with
  | single | var | anyNil | anyCons | repetition => cases shape
  | sequenceNil =>
    cases shape
    simp at place
  | sequenceOne only =>
    cases shape
    obtain ⟨rfl, rfl, rfl⟩ := only_place place
    cases only with
    | var inner => exact .inl (entered_of_own inner readable distinct atEnd tries)
  | sequenceCut someHead someTail inside finished beyond ihInside ihBeyond =>
    cases shape
    rename_i head tail begun rows parts rest rows'
    obtain ⟨_, first, second, _⟩ := readable
    rw [Fragment.names, rows_cut, List.map_append, List.map_append] at distinct
    rw [rows_cut]
    obtain ⟨distinctFirst, distinctBegun, _⟩ := List.nodup_append.mp distinct
    have optional := inside.optional index (fun led => unled_sequence unled (place ▸ led.append)) second
    rw [Fragment.pattern_cut first optional] at tries
    rcases Tries.append_cases tries with tries | ⟨failed, tries⟩
    · rcases cut_place place with ⟨between, rfl, rfl⟩ | ⟨more, rfl⟩
      · have unledRest : ∀ node ∈ between, ¬ node.LedByRepetition :=
          fun node member => unled node (List.mem_append_right _ member)
        rw [rows_sequence_last, List.map_append, List.map_append] at distinctFirst
        obtain ⟨distinctParts, distinctRest, _⟩ := List.nodup_append.mp distinctFirst
        have either := enters_beyond finished beyond rfl unledRest first distinctParts atEnd tries
          (ihBeyond rfl rfl unledRest (allReadable_append.mp first).2.1 distinctRest)
        exact either.imp_left fun entered => entered.mono (by simp [rows_sequence_last])
      · exact .inl ((entered_inside finished (by simp) first distinctFirst atEnd tries).mono
          (List.subset_append_left _ _))
    · have failed : ¬ ((Fragment.sequence (parts ++ [rest])).pattern index).Finishes a := fun finishes => by
        obtain ⟨q, member, finishes⟩ := Pattern.finishes_alternatives.mp finishes
        exact failed q member finishes
      rcases cut_place place with ⟨between, rfl, rfl⟩ | ⟨more, rfl⟩
      · exact .inr (short_inside finished beyond someHead rfl inside first failed second distinctBegun
          atEnd tries)
      · exact (ihInside rfl rfl unled second distinctBegun atEnd tries).imp_left fun entered =>
          entered.mono (by simp)

end Node

namespace Grammar
variable {g : Grammar} {m : Match} {i j : Nat} {written : Option Text} {info : Variable} {child : Node}
  {before after : List Node} {input : Text} {limits : Limits}

theorem set_of_entered {d : Derived} {f : Fragment} {rows : List (Text × Node)} {v : Node}
    (comes : d.Comes f rows) (made : d.Makes m) (entered : Node.Entered f.number f.rows v m.marks) :
    ∃ node span, (node, some span) ∈ m.resolve ∧ node.id = v.id := by
  obtain ⟨name, member, took⟩ := entered
  have named : name ∈ f.names := List.mem_map_of_mem (f := Prod.fst) member
  have inside := List.mem_map_of_mem
    (f := fun row : Text × Node => GroupRow.mk row.1 row.2 ((f.names.map some).idxOf? (some row.1)))
    (comes.perm.mem_iff.mpr member)
  have own : ⟨name, v, (f.names.map some).idxOf? (some name)⟩ ∈ m.rows := by
    rw [made.rows, comes.rows]
    exact inside
  refine Match.set_of_row own ?_
  rw [Match.rowSpan?, Derived.idxOf?_some named]
  exact took

theorem child_set (atoms : (Node.sequence i written (before ++ .var j info child :: after)).HasAtoms)
    (unled : ∀ node ∈ before, ¬ node.LedByRepetition)
    (compiled : compile limits (.sequence i written (before ++ .var j info child :: after)) = .ok g)
    (found : g.matchStarted input = some m) :
    (∃ node span, (node, some span) ∈ m.resolve ∧ node.id = j) ∨ Node.FallsShort before input := by
  have made := Grammar.compiled atoms compiled
  obtain ⟨rfl, ⟨_, whole⟩ | ⟨_, _, started⟩⟩ := matchWith_made found
  · obtain ⟨f, finished, comes⟩ := made.whole
    obtain ⟨_, captures, reads, derives⟩ := comes.reads finished.agrees whole.run whole.rows
    obtain ⟨_, visited, same⟩ := derives.visits_child (by simp : Node.var j info child ∈ _)
    obtain ⟨c, captured, rfl⟩ := List.mem_map.mp visited
    obtain ⟨node, span, member, identity⟩ := reads.set_of_captured captured
    exact .inl ⟨node, span, member, identity.trans (congrArg Node.id same)⟩
  · obtain ⟨f, rows, begun, comes⟩ := made.started
    have run := started.run
    rw [Derived.run, comes.program] at run
    obtain ⟨_, solid⟩ := begun.solid f.number rfl unled comes.readable
    obtain ⟨k, atEnd, tries⟩ := Tries.of_run solid run
    exact (begun.enters rfl rfl unled comes.readable comes.numbers atEnd tries).imp_left
      (set_of_entered comes started)

theorem started_at_boundary
    (compiled : g.Compiled (.sequence i written (before ++ .var j info child :: after)))
    (finished : input ∈ Node.languageAll before) : (g.matchStarted input).isSome := by
  obtain ⟨_, derives⟩ := Node.derives_of_mem_all i written before input 0 finished
  have begins := Node.begins_append_right (List.cons_ne_nil (.var j info child) after) derives
    (Node.begins_nil _ _)
  rw [List.append_nil] at begins
  exact compiled.started_iff.mpr ⟨_, begins⟩

-- A child that begins with a repetition is another matter: the engine keeps one copy of the repetition for
-- the finished and the begun reading of the child, and tries the begun one before it gives a round back.
theorem boundary_enters
    (characters : (Node.sequence i written (before ++ .var j info child :: after)).HasCharacters)
    (compiled : compile limits (.sequence i written (before ++ .var j info child :: after)) = .ok g)
    (finished : input ∈ Node.languageAll before) :
    ∃ m, g.matchStarted input = some m ∧
      ((∀ node ∈ before, ¬ node.LedByRepetition) →
        (∃ node span, (node, some span) ∈ m.resolve ∧ node.id = j) ∨
          ∃ more node rest a b, before = more ++ node :: rest ∧ more ≠ [] ∧ input = a ++ b ∧
            a ∈ Node.languageAll more ∧ (∃ ending, b ++ ending ∈ node.language) ∧
            b ∉ Node.languageAll (node :: rest)) := by
  have made := Grammar.compiled characters.atoms compiled
  have live := characters.live made.valid
  obtain ⟨m, found⟩ := Option.isSome_iff_exists.mp (started_at_boundary made finished)
  refine ⟨m, found, fun unled => (child_set characters.atoms unled compiled found).imp_right fun short => ?_⟩
  obtain ⟨more, node, rest, a, b, place, split, read, begun, beyond⟩ :=
    short.ending fun node member => live.below (List.mem_append_left _ member)
  refine ⟨more, node, rest, a, b, place, ?_, split, read, begun, beyond⟩
  -- the first child is begun with the whole text, which finishes it and all that come before the variable
  rintro rfl
  obtain rfl := (Language.mem_one a).mp read
  subst place split
  exact beyond finished

-- A stem that may end in a dot of its own. It takes the dot that was typed behind it, and then the
-- suffix is not come to.

def stem : Node := .any 4 [.sequence 2 none [.single 0 ⟨"[a]".toList⟩, .single 1 ⟨"[.]".toList⟩],
  .single 3 ⟨"[a]".toList⟩]

def dot : Node := .single 5 ⟨"[.]".toList⟩

def file : Node :=
  .sequence 8 none ([stem, dot] ++ .var 7 { name := "suffix".toList } (.single 6 ⟨"[a-z]".toList⟩) :: [])

theorem dotted : "a.".toList ∈ Node.languageAll [stem, dot] := by
  obtain ⟨s, known, member⟩ := @takes_of_contains ⟨"[a]".toList⟩ 'a' (by decide +kernel)
  obtain ⟨s', known', member'⟩ := @takes_of_contains ⟨"[.]".toList⟩ '.' (by decide +kernel)
  have first : stem.Derives 0 ['a'] [] :=
    .any (List.mem_cons_of_mem _ (List.mem_cons_self ..)) (.single known member)
  have second : dot.Derives 1 ['.'] [] := .single known' member'
  have both : Node.Derives (.sequence 0 none [stem, dot]) 0 "a.".toList [] :=
    .sequenceCons first (.sequenceCons second .sequenceNil)
  exact both.mem_language

theorem file_boundary : ∃ g m, compile {} file = .ok g ∧ g.matchStarted "a.".toList = some m ∧
    m.resolve.map (fun found => (found.1.id, found.2)) = [(7, none)] ∧
    (g.matchStarted "a..".toList).map (fun m => m.resolve.map fun found => (found.1.id, found.2)) =
      some [(7, some ⟨3, 3⟩)] ∧
    ∃ more node rest a b, [stem, dot] = more ++ node :: rest ∧ more ≠ [] ∧ "a.".toList = a ++ b ∧
      a ∈ Node.languageAll more ∧ (∃ ending, b ++ ending ∈ node.language) ∧
      b ∉ Node.languageAll (node :: rest) := by
  have run : (compile {} file).toOption.bind (fun g => (g.matchStarted "a.".toList).map fun m =>
        (m.resolve.map fun found => (found.1.id, found.2),
          (g.matchStarted "a..".toList).map fun m => m.resolve.map fun found => (found.1.id, found.2))) =
      some ([(7, none)], some [(7, some ⟨3, 3⟩)]) := by
    decide +kernel
  have characters : file.HasCharacters := hasCharacters_of_samples "a.".toList (by decide +kernel)
  have unled : ∀ node ∈ [stem, dot], ¬ node.LedByRepetition := by
    intro node member led
    simp only [List.mem_cons, List.not_mem_nil, or_false] at member
    rcases member with rfl | rfl <;> cases led
  obtain ⟨g, compiled, run⟩ := compile_of_run run
  obtain ⟨m, found, equal⟩ := Option.map_eq_some_iff.mp run
  obtain ⟨unset, set⟩ := Prod.mk.inj equal
  obtain ⟨_, found', either⟩ := boundary_enters characters compiled dotted
  obtain rfl := Option.some.inj (found.symm.trans found')
  refine ⟨g, m, compiled, found, unset, set, (either unled).resolve_left fun entered => ?_⟩
  obtain ⟨node, span, member, _⟩ := entered
  have listed := List.mem_map_of_mem (f := fun found : Node × Option Text.Span => (found.1.id, found.2)) member
  rw [unset] at listed
  simp at listed

end Grammar
end Typeahead
