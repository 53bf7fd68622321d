import Typeahead.Proofs.Grammar.Completing
import Typeahead.Proofs.Grammar.Nesting
import Typeahead.Proofs.Grammar.Tables

namespace Typeahead

namespace Node

-- The first is no variable that stands in the second.
def NotInside (first second : Node) : Prop := first.asVariable.isSome → first ∉ second.walk

variable {node root : Node} {nodes a b : List Node}

theorem walkAll_closed (known : node ∈ walkAll nodes) : node.walk ⊆ walkAll nodes := by
  obtain ⟨child, among, below⟩ := mem_walkAll.mp known
  exact fun other inside => mem_walkAll.mpr ⟨child, among, walk_trans below inside⟩

theorem notInside_append (once : VariablesOnce (a ++ b)) (closed : ∀ node ∈ b, node.walk ⊆ b)
    (left : a.Pairwise NotInside) (right : b.Pairwise NotInside) : (a ++ b).Pairwise NotInside := by
  refine List.pairwise_append.mpr ⟨left, right, ?_⟩
  intro first earlier second later isVariable inside
  exact once.apart_of_left earlier isVariable first (closed second later inside) rfl

theorem notInside_cons (once : VariablesOnce (node :: a)) (closed : ∀ other ∈ a, other.walk ⊆ a)
    (below : a.Pairwise NotInside) : (node :: a).Pairwise NotInside :=
  notInside_append (a := [node]) once closed (List.pairwise_singleton _ _) below

mutual
theorem walk_outerFirst : ∀ root : Node, VariablesOnce root.walk → root.walk.Pairwise NotInside
  | .sequence _ _ nodes, once =>
    notInside_cons once (fun _ known => walkAll_closed known) (walkAll_outerFirst nodes once.tail)
  | .any _ nodes, once =>
    notInside_cons once (fun _ known => walkAll_closed known) (walkAll_outerFirst nodes once.tail)
  | .single _ _, _ => List.pairwise_singleton _ _
  | .var _ _ child, once =>
    notInside_cons once (fun _ known => walk_trans known) (walk_outerFirst child once.tail)
  | .repetition _ child, once =>
    notInside_cons once (fun _ known => walk_trans known) (walk_outerFirst child once.tail)

theorem walkAll_outerFirst : ∀ nodes : List Node, VariablesOnce (walkAll nodes) →
    (walkAll nodes).Pairwise NotInside
  | [], _ => List.Pairwise.nil
  | node :: nodes, once =>
    notInside_append once (fun _ known => walkAll_closed known) (walk_outerFirst node once.left)
      (walkAll_outerFirst nodes once.right)
end

theorem firsts_sublist (nodes : List Node) : (firsts nodes).Sublist nodes := by
  induction nodes with
  | nil => exact List.Sublist.slnil
  | cons node rest ih => exact (List.filter_sublist.trans ih).cons_cons node

end Node

namespace Match
variable {m : Match} {v w : VariableMatch} {found : List VariableMatch} {offset : Nat}

theorem shortest?_eq_none_iff : shortest? found = none ↔ found = [] := by
  cases found with
  | nil => simp [shortest?]
  | cons v rest =>
    simp only [shortest?, reduceCtorEq, iff_false]
    split
    · simp
    · split <;> simp

theorem shortest?_cut (chosen : shortest? found = some v) : ∃ front back, found = front ++ v :: back ∧
    (∀ w ∈ front, v.span.length < w.span.length) ∧ ∀ w ∈ back, v.span.length ≤ w.span.length := by
  induction found generalizing v with
  | nil => cases chosen
  | cons first rest ih =>
    rw [shortest?] at chosen
    cases later : shortest? rest with
    | none =>
      simp only [later] at chosen
      cases chosen
      obtain rfl := shortest?_eq_none_iff.mp later
      exact ⟨[], [], rfl, List.forall_mem_nil _, List.forall_mem_nil _⟩
    | some w =>
      simp only [later] at chosen
      obtain ⟨front, back, cut, longer, others⟩ := ih later
      split at chosen
      · rename_i short
        cases chosen
        refine ⟨[], rest, rfl, List.forall_mem_nil _, fun other among => ?_⟩
        rw [cut] at among
        rcases List.mem_append.mp among with inFront | inBack
        · exact short.trans (Nat.le_of_lt (longer other inFront))
        · rcases List.mem_cons.mp inBack with rfl | inBack
          · exact short
          · exact short.trans (others other inBack)
      · rename_i short
        cases chosen
        refine ⟨first :: front, back, by rw [cut, List.cons_append], ?_, others⟩
        exact List.forall_mem_cons.mpr ⟨Nat.lt_of_not_le short, longer⟩

theorem variableMatches_nodes : (m.variableMatches.map VariableMatch.node).Sublist (m.resolve.map Prod.fst) := by
  rw [variableMatches, List.map_filterMap]
  induction m.resolve with
  | nil => exact List.Sublist.slnil
  | cons entry rest ih =>
    obtain ⟨node, span⟩ := entry
    cases variable' : node.asVariable with
    | none => simpa [variable'] using ih.cons node
    | some info =>
      cases span with
      | none => simpa [variable'] using ih.cons node
      | some span => simpa [variable'] using ih.cons_cons node

theorem touches_iff {span : Text.Span} : span.touches offset ↔ span.start ≤ offset ∧ offset ≤ span.stop := by
  simp [Text.Span.touches]

theorem variableAt?_eq_none_iff : m.variableAt? offset = none ↔
    ∀ v ∈ m.variableMatches, ¬(v.span.start ≤ offset ∧ offset ≤ v.span.stop) := by
  rw [variableAt?, shortest?_eq_none_iff, List.filter_eq_nil_iff]
  simp only [List.mem_reverse, touches_iff]

theorem mem_of_variableAt? (chosen : m.variableAt? offset = some v) :
    v ∈ m.variableMatches ∧ v.span.start ≤ offset ∧ offset ≤ v.span.stop := by
  obtain ⟨front, back, cut, _⟩ := shortest?_cut chosen
  have among : v ∈ m.variableMatches.reverse.filter fun v => v.span.touches offset := by simp [cut]
  obtain ⟨member, touches⟩ := List.mem_filter.mp among
  exact ⟨List.mem_reverse.mp member, touches_iff.mp touches⟩

theorem variableAt?_least {order : VariableMatch → VariableMatch → Prop}
    (ordered : m.variableMatches.Pairwise order) (chosen : m.variableAt? offset = some v)
    (member : w ∈ m.variableMatches) (touches : w.span.start ≤ offset ∧ offset ≤ w.span.stop) :
    v.span.length < w.span.length ∨ w = v ∨ v.span.length ≤ w.span.length ∧ order w v := by
  obtain ⟨front, back, cut, longer, others⟩ := shortest?_cut chosen
  have among : w ∈ m.variableMatches.reverse.filter fun v => v.span.touches offset :=
    List.mem_filter.mpr ⟨List.mem_reverse.mpr member, touches_iff.mpr touches⟩
  have backwards := (List.pairwise_reverse.mpr ordered).filter fun v => v.span.touches offset
  rw [cut] at among backwards
  rcases List.mem_append.mp among with inFront | here
  · exact .inl (longer w inFront)
  · rcases List.mem_cons.mp here with same | inBack
    · exact .inr (.inl same)
    · have behind := (List.pairwise_cons.mp (List.pairwise_append.mp backwards).2.1).1 w inBack
      exact .inr (.inr ⟨others w inBack, behind⟩)

end Match

namespace Grammar
variable {g : Grammar} {root : Node} {mode : Mode} {input : Text} {m : Match} {limits : Limits}

theorem Compiled.resolve_firsts (compiled : g.Compiled root)
    (found : g.matchWith mode input = some m) :
    m.resolve.map Prod.fst = Node.firsts root.variableNodes := by
  rw [Match.resolve_nodes]
  obtain ⟨_, ⟨_, made⟩ | ⟨_, _, made⟩⟩ := matchWith_made found
  · obtain ⟨f, whole, comes⟩ := compiled.whole
    rw [made.rows, comes.nodes, whole.nodes]
  · obtain ⟨f, rows, started, comes⟩ := compiled.started
    rw [made.rows, comes.nodes, started.firsts]

theorem Compiled.outer_first (compiled : g.Compiled root) (once : Node.VariablesOnce root.walk)
    (found : g.matchWith mode input = some m) :
    m.variableMatches.Pairwise fun first second => Node.NotInside first.node second.node := by
  have order : (m.variableMatches.map VariableMatch.node).Sublist root.walk := by
    refine Match.variableMatches_nodes.trans ?_
    rw [compiled.resolve_firsts found]
    exact (Node.firsts_sublist _).trans List.filter_sublist
  exact List.pairwise_map.mp ((Node.walk_outerFirst root once).sublist order)

theorem variableAt_innermost (atoms : root.HasAtoms) (once : Node.VariablesOnce root.walk)
    (compiled : compile limits root = .ok g) (found : g.matchWith mode input = some m) (offset : Nat) :
    (m.variableAt? offset = none ↔ ∀ node span, (node, some span) ∈ m.resolve →
      ¬(span.start ≤ offset ∧ offset ≤ span.stop)) ∧
    ∀ v, m.variableAt? offset = some v → (v.node, some v.span) ∈ m.resolve ∧
      v.node.asVariable = some v.info ∧ v.text = Text.slice v.span input ∧
      (v.span.start ≤ offset ∧ offset ≤ v.span.stop) ∧
      ∀ i info child, v.node = .var i info child → root.Reaches 0 (.var i info child) →
        ∀ inner ∈ child.walk, ∀ span, (inner, some span) ∈ m.resolve →
          ¬(span.start ≤ offset ∧ offset ≤ span.stop) := by
  have made := Grammar.compiled atoms compiled
  obtain ⟨rfl, _⟩ := matchWith_made found
  have matched : ∀ node span, (node, some span) ∈ m.resolve → ∃ w ∈ m.variableMatches,
      w.node = node ∧ w.span = span := by
    intro node span set
    obtain ⟨info, variable'⟩ := Option.isSome_iff_exists.mp (made.resolved found set).2
    refine ⟨⟨node, info, span, Text.slice span m.input⟩, ?_, rfl, rfl⟩
    exact Match.mem_variableMatches.mpr ⟨set, variable', rfl⟩
  constructor
  · rw [Match.variableAt?_eq_none_iff]
    constructor
    · intro nothing node span set
      obtain ⟨w, member, rfl, rfl⟩ := matched node span set
      exact nothing w member
    · intro nothing v member
      exact nothing v.node v.span (Match.mem_variableMatches.mp member).1
  · intro v chosen
    obtain ⟨member, touches⟩ := Match.mem_of_variableAt? chosen
    obtain ⟨set, variable', text⟩ := Match.mem_variableMatches.mp member
    refine ⟨set, variable', text, touches, ?_⟩
    intro i info child equal reaches inner below span set' touches'
    obtain ⟨w, member', rfl, rfl⟩ := matched inner span set'
    have inside : w.node ∈ v.node.walk := equal ▸ List.mem_cons_of_mem _ below
    rcases Match.variableAt?_least (made.outer_first once found) chosen member' touches' with
      longer | rfl | ⟨_, apart⟩
    · -- what is below it lies in its span
      obtain ⟨visits, explains, visited, _⟩ := made.reading once found
      obtain ⟨outer, _, _, start, stop, only⟩ :=
        explains.enclosed reaches once (visited _ _ set') below
      have same := only ⟨v.node, v.span⟩ (visited _ _ set) (by rw [equal]; rfl)
      rw [← same] at start stop
      simp only [Text.Span.length] at longer start stop
      omega
    · -- it would stand below itself
      have apart := (reaches.once once).apart_of_left (a := [.var i info child])
        (List.mem_singleton_self _) rfl _ below
      exact apart (by rw [equal])
    · exact apart (made.resolved found set').2 inside

-- A word and what it makes up begin and end at the same places.

def noun : Node := .var 2 { name := "noun".toList } (.repetition 1 (.single 0 ⟨"[a-c]".toList⟩))

def phrase : Node := .var 3 { name := "phrase".toList } noun

def quotation : Node := .sequence 6 none [.single 4 ⟨"[<]".toList⟩, phrase, .single 5 ⟨"[>]".toList⟩]

theorem quotation_innermost : ∃ g m v, compile {} quotation = .ok g ∧
    g.matchStarted "<".toList = some m ∧
    m.resolve = [(phrase, some ⟨1, 1⟩), (noun, some ⟨1, 1⟩)] ∧
    m.variableAt? 1 = some v ∧ v.node ≠ phrase := by
  have run : ((compile {} quotation).toOption.bind fun g => (g.matchStarted "<".toList).map
      fun m => m.resolve.map Prod.snd) = some [some ⟨1, 1⟩, some ⟨1, 1⟩] := by decide +kernel
  obtain ⟨g, compiled, run⟩ := compile_of_run run
  obtain ⟨m, found, spans⟩ := Option.map_eq_some_iff.mp run
  have atoms : quotation.HasAtoms :=
    (hasCharacters_of_samples "<a>".toList (by decide +kernel)).atoms
  have once : Node.VariablesOnce quotation.walk := Node.variablesOnce_of_nodup (by decide)
  have nodes := (Grammar.compiled atoms compiled).resolve_firsts found
  have resolved : m.resolve = [(phrase, some ⟨1, 1⟩), (noun, some ⟨1, 1⟩)] := by
    have both : (m.resolve.map Prod.fst).zip (m.resolve.map Prod.snd) = m.resolve := by
      rw [List.zip_map']
      exact List.map_id _
    have firsts : Node.firsts quotation.variableNodes = [phrase, noun] := by
      simp [quotation, phrase, noun, Node.variableNodes, Node.walk, Node.walkAll, Node.firsts,
        Node.asVariable, Node.id]
    rw [← both, nodes, spans, firsts]
    rfl
  obtain ⟨nowhere, each⟩ := variableAt_innermost atoms once compiled found 1
  have somewhere : m.variableAt? 1 ≠ none := by
    intro nothing
    exact nowhere.mp nothing phrase ⟨1, 1⟩ (by simp [resolved]) (by decide)
  obtain ⟨v, chosen⟩ := Option.ne_none_iff_exists'.mp somewhere
  obtain ⟨_, _, _, _, innermost⟩ := each v chosen
  refine ⟨g, m, v, compiled, found, resolved, chosen, fun equal => ?_⟩
  have reaches : quotation.Reaches 0 phrase := .sequence (by simp) .here
  exact innermost 3 _ noun equal reaches noun (Node.self_mem_walk noun) ⟨1, 1⟩ (by simp [resolved])
    (by decide)

end Grammar
end Typeahead
