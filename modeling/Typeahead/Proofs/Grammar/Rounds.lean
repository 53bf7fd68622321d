import Typeahead.Proofs.Grammar.Latest

namespace Typeahead

namespace Node
variable {root node v : Node} {i offset : Nat} {text : Text} {visits : List Visit} {visit : Visit}

-- No variable stands below itself.
def Unnested (root : Node) : Prop := ∀ i info child, .var i info child ∈ root.walk →
  ∀ other ∈ child.walk, other.id ≠ i

theorem VariablesOnce.unnested (once : VariablesOnce root.walk) : root.Unnested := by
  intro i info child known
  obtain ⟨rounds, reaches⟩ := reaches_of_mem_walk root _ known
  exact (reaches.once once).apart_of_left (a := [.var i info child]) (List.mem_singleton_self _) rfl

theorem Unnested.below {child : Node} (unnested : node.Unnested) (member : child ∈ node.children) :
    child.Unnested :=
  fun i info inner known => unnested i info inner (mem_walk_child member known)

theorem Unnested.later {nodes : List Node} {written : Option Text}
    (unnested : Unnested (.sequence i written (node :: nodes))) :
    Unnested (.sequence i written nodes) :=
  fun j info inner known => unnested j info inner (mem_walk_later rfl known)

-- Visits to one variable come one after the other.
def InTurn (visits : List Visit) : Prop :=
  visits.Pairwise fun first other => first.node.id = other.node.id → first.span.stop ≤ other.span.start

theorem InTurn.append {other : Node} {a b : Text} {front back : List Visit} (left : InTurn front)
    (right : InTurn back) (first : Explains node offset a front)
    (second : Explains other (offset + Text.bytes a) b back) : InTurn (front ++ back) := by
  refine List.pairwise_append.mpr ⟨left, right, fun x inFront y inBack _ => ?_⟩
  exact (first.within inFront).2.2.trans (second.within inBack).1

theorem InTurn.var {info : Variable} {child : Node} {span : Text.Span} (below : InTurn visits)
    (unnested : Unnested (.var i info child)) (inside : ∀ visit ∈ visits, visit.node ∈ child.walk) :
    InTurn (⟨.var i info child, span⟩ :: visits) := by
  refine List.pairwise_cons.mpr ⟨fun other member same => ?_, below⟩
  exact absurd same.symm (unnested i info child (self_mem_walk _) other.node (inside other member))

theorem Derives.inTurn (derives : Derives node offset text visits) (unnested : node.Unnested) :
    InTurn visits := by
  induction derives with
  | single | sequenceNil | repetitionNil => exact List.Pairwise.nil
  | var inner ih =>
    have below := ih (unnested.below (List.mem_singleton_self _))
    exact below.var unnested fun visit member => (inner.visited member).1
  | any branch _ ih => exact ih (unnested.below branch)
  | sequenceCons first others ihFirst ihOthers =>
    have left := ihFirst (unnested.below (List.mem_cons_self ..))
    exact left.append (ihOthers unnested.later) (.inl first) (.inl others)
  | repetitionCons first others ihFirst ihOthers =>
    have left := ihFirst (unnested.below (List.mem_singleton_self _))
    exact left.append (ihOthers unnested) (.inl first) (.inl others)

theorem Begins.inTurn (begins : Begins node offset text visits) (unnested : node.Unnested) :
    InTurn visits := by
  induction begins with
  | singleNone | single | varNone | anyNone | sequenceNil => exact List.Pairwise.nil
  | var inner ih =>
    have below := ih (unnested.below (List.mem_singleton_self _))
    exact below.var unnested fun visit member => (inner.visited member).1
  | any branch _ ih => exact ih (unnested.below branch)
  | inside _ ih => exact ih (unnested.below (List.mem_cons_self ..))
  | beyond _ first others ih =>
    have left := first.inTurn (unnested.below (List.mem_cons_self ..))
    exact left.append (ih unnested.later) (.inl first) (.inr others)
  | repetition rounds last ih =>
    have right := ih (unnested.below (List.mem_singleton_self _))
    exact (rounds.inTurn unnested).append right (.inl rounds) (.inr last)

end Node

theorem find?_of_find? {p q : α → Bool} {l : List α} {x : α} (found : l.find? p = some x)
    (still : q x) (fewer : ∀ y ∈ l, q y → p y) : l.find? q = some x := by
  obtain ⟨_, before, after, rfl, none⟩ := List.find?_eq_some_iff_append.mp found
  refine List.find?_eq_some_iff_append.mpr ⟨still, before, after, rfl, fun y member => ?_⟩
  by_contra holds
  have also := fewer y (List.mem_append_left _ member) (by simpa using holds)
  simpa [also] using none y member

namespace Match.Reads
variable {m : Match} {captures : List Capture} {v : Node}

theorem tookPart_last (reads : m.Reads captures) {c : Capture}
    (last : captures.reverse.find? (·.node.id = v.id) = some c) : c.span ∈ m.tookPart v := by
  have captured := List.mem_reverse.mp (List.mem_of_find?_eq_some last)
  have same : c.node.id = v.id := by simpa using List.find?_some last
  obtain ⟨row, inside, named, stands⟩ := reads.among c captured
  have own : lastNamed? row.name captures = some c := by
    refine find?_of_find? last (by simp [named]) fun other member also => ?_
    have node := reads.name_iff inside (List.mem_reverse.mp member) (of_decide_eq_true also)
    simpa [node, stands] using same
  refine List.mem_filterMap.mpr ⟨row, List.mem_filter.mpr ⟨inside, by simpa [stands] using same⟩, ?_⟩
  rw [reads.spans row inside, own, Option.map_some]

theorem captured_of_tookPart (reads : m.Reads captures) {span : Text.Span}
    (member : span ∈ m.tookPart v) : ∃ c ∈ captures, c.node.id = v.id ∧ c.span = span := by
  obtain ⟨row, inside, found⟩ := List.mem_filterMap.mp member
  obtain ⟨among, same⟩ := List.mem_filter.mp inside
  obtain ⟨c, captured, stands, spans⟩ := reads.captured_of_row among found
  exact ⟨c, captured, by simpa [stands] using same, spans⟩

end Match.Reads

namespace Grammar
variable {g : Grammar} {root v : Node} {m : Match} {i rounds : Nat} {child : Node} {input : Text}
  {limits : Limits} {captures : List Capture}

theorem before_last (inTurn : Node.InTurn (captures.map Capture.visit)) {c other : Capture}
    (last : captures.reverse.find? (·.node.id = v.id) = some c) (captured : other ∈ captures)
    (same : other.node.id = v.id) : other = c ∨ other.span.stop ≤ c.span.start := by
  obtain ⟨own, later, earlier, equal, none⟩ := List.find?_eq_some_iff_append.mp last
  have order : captures = earlier.reverse ++ c :: later.reverse := by
    have reversed := congrArg List.reverse equal
    simpa using reversed
  rw [order] at captured
  rcases List.mem_append.mp captured with before | after
  · rw [order, List.map_append, Node.InTurn, List.pairwise_append] at inTurn
    have own' : c.node.id = v.id := of_decide_eq_true own
    exact .inr (inTurn.2.2 _ (List.mem_map_of_mem before) c.visit (List.mem_cons_self ..)
      (same.trans own'.symm))
  · rcases List.mem_cons.mp after with rfl | after
    · exact .inl rfl
    · have never := none other (List.mem_reverse.mp after)
      simp [same] at never

-- The group that was named first of those that took part has the last visit. Where it is not the group
-- of that visit, each of the two lies behind the other, so that both are empty and at one place.
theorem tookPart_head (reads : m.Reads captures)
    (explains : root.Explains 0 input (captures.map Capture.visit))
    (inTurn : Node.InTurn (captures.map Capture.visit)) (receding : Receding rounds (m.tookPart v)) :
    (m.tookPart v).head? = (lastVisit? v (captures.map Capture.visit)).map Visit.span := by
  rw [lastVisit?_captures]
  cases last : captures.reverse.find? (·.node.id = v.id) with
  | none =>
    have nothing : m.tookPart v = [] := by
      refine List.eq_nil_iff_forall_not_mem.mpr fun span member => ?_
      obtain ⟨c, captured, same, _⟩ := reads.captured_of_tookPart member
      simpa [same] using List.find?_eq_none.mp last c (List.mem_reverse.mpr captured)
    rw [nothing]
    rfl
  | some c =>
    have took := reads.tookPart_last last
    obtain ⟨head, rest, parts⟩ := List.exists_cons_of_ne_nil (List.ne_nil_of_mem took)
    obtain ⟨other, captured, same, rfl⟩ :=
      reads.captured_of_tookPart (parts ▸ List.mem_cons_self .. : head ∈ m.tookPart v)
    have equal : other.span = c.span := by
      rcases List.mem_cons.mp (parts ▸ took) with first | later
      · exact first.symm
      · have behind := (List.pairwise_cons.mp (parts ▸ receding.order)).1 _ later
        rcases before_last inTurn last captured same with rfl | before
        · rfl
        · have within := explains.within (List.mem_map_of_mem captured)
          have within' := explains.within
            (List.mem_map_of_mem (List.mem_reverse.mp (List.mem_of_find?_eq_some last)))
          simp only [Capture.visit] at within within'
          have starts : other.span.start = c.span.start := by omega
          have stops : other.span.stop = c.span.stop := by omega
          exact congrArg₂ Text.Span.mk starts stops
    rw [parts, List.head?_cons, equal]
    rfl

theorem started_resolved (atoms : root.HasAtoms) (once : Node.VariablesOnce root.walk)
    (compiled : compile limits root = .ok g) (made : g.started.Makes m) :
    ∃ visits, root.Begins 0 m.input visits ∧ ∀ v ∈ root.walk, v.asVariable.isSome →
      ∀ span, (v, span) ∈ m.resolve ↔ span = (lastVisit? v visits).map Visit.span := by
  have built := Grammar.compiled atoms compiled
  obtain ⟨f, rows, started, comes⟩ := built.started
  obtain ⟨_, captures, reads, begins⟩ := comes.reads started.agrees made.run made.rows
  refine ⟨_, begins, fun v known isVariable span => ?_⟩
  have sole := once v known isVariable
  have single := (Node.occasions_places root).1.trans sole.placesOf_le
  have named : v ∈ root.variableNodes := List.mem_filter.mpr ⟨known, isVariable⟩
  rw [built.mem_resolve_iff (.inr made) named fun _ => sole.same,
    tookPart_head reads (.inr begins) (begins.inTurn once.unnested) (built.receding made single)]

theorem started_of_unfinished (found : g.matchStarted input = some m)
    (unfinished : g.matchWhole input = none) : m.input = input ∧ g.started.Makes m := by
  have run : (g.matchWhole input).isSome = (g.whole.run input).isSome := matchWhole_isSome
  rw [unfinished] at run
  obtain ⟨rfl, ⟨_, made⟩ | ⟨_, _, made⟩⟩ := matchWith_made found
  · rw [made.run] at run
    cases run
  · exact ⟨rfl, made⟩

theorem round_resolved (characters : (Node.repetition i child).HasCharacters)
    (once : Node.VariablesOnce (Node.repetition i child).walk)
    (compiled : compile limits (.repetition i child) = .ok g)
    (found : g.matchStarted input = some m) (unfinished : g.matchWhole input = none) :
    ∃ finished begun front back, input = finished ++ begun ∧
      finished ∈ KStar.kstar child.language ∧ (∃ rest, begun ++ rest ∈ child.language) ∧
      Node.Derives (.repetition i child) 0 finished front ∧
      (∀ visit ∈ front, visit.span.stop ≤ Text.bytes finished) ∧
      child.Begins (Text.bytes finished) begun back ∧
      (∀ visit ∈ back, Text.bytes finished ≤ visit.span.start ∧ visit.span.stop ≤ Text.bytes input) ∧
      ∀ v ∈ child.walk, v.asVariable.isSome → ∀ span, (v, span) ∈ m.resolve ↔
        span = ((lastVisit? v back).or (lastVisit? v front)).map Visit.span := by
  obtain ⟨rfl, made⟩ := started_of_unfinished found unfinished
  obtain ⟨visits, begins, resolved⟩ := started_resolved characters.atoms once compiled made
  obtain ⟨finished, begun, front, back, rounds, last, input, rfl⟩ :=
    Node.begins_repetition_iff.mp begins
  rw [Nat.zero_add] at last
  have live := characters.live (Grammar.compiled characters.atoms compiled).valid
  have finish := last.finish (live.below (List.mem_singleton_self child))
  refine ⟨finished, begun, front, back, input, rounds.mem_language, finish, rounds, ?_, last, ?_, ?_⟩
  · intro visit member
    simpa using (Node.Explains.within (.inl rounds) member).2.2
  · intro visit member
    have within := Node.Explains.within (.inr last) member
    rw [input, Text.bytes_append]
    exact ⟨within.1, within.2.2⟩
  · intro v known isVariable span
    rw [resolved v (List.mem_cons_of_mem _ known) isVariable, lastVisit?_append]

-- Rounds of two kinds. The letter of a finished round is still there while a digit is typed.

def letter : Node := .var 1 { name := "letter".toList } (.single 0 ⟨"[a-z]".toList⟩)

def digit : Node := .var 3 { name := "digit".toList } (.single 2 ⟨"[0-9]".toList⟩)

def kinds : Node := .any 8 [.sequence 5 none [letter, .single 4 ⟨";".toList⟩],
  .sequence 7 none [digit, .single 6 ⟨";".toList⟩]]

theorem kinds_resolved : ∃ g m, compile {} (.repetition 9 kinds) = .ok g ∧
    g.matchStarted "a;1".toList = some m ∧ g.matchWhole "a;1".toList = none ∧
    m.resolve.map (fun found => (found.1.id, found.2)) = [(1, some ⟨0, 1⟩), (3, some ⟨2, 3⟩)] ∧
    ∃ finished begun front back, "a;1".toList = finished ++ begun ∧
      finished ∈ KStar.kstar kinds.language ∧ (∃ rest, begun ++ rest ∈ kinds.language) ∧
      ∀ v ∈ kinds.walk, v.asVariable.isSome → ∀ span, (v, span) ∈ m.resolve ↔
        span = ((lastVisit? v back).or (lastVisit? v front)).map Visit.span := by
  have run : ((compile {} (.repetition 9 kinds)).toOption.bind fun g =>
        (g.matchStarted "a;1".toList).map fun m => ((g.matchWhole "a;1".toList).isNone,
          m.resolve.map fun found => (found.1.id, found.2))) =
      some (true, [(1, some ⟨0, 1⟩), (3, some ⟨2, 3⟩)]) := by
    decide +kernel
  have characters : (Node.repetition 9 kinds).HasCharacters :=
    hasCharacters_of_samples "a1;".toList (by decide +kernel)
  have once : Node.VariablesOnce (Node.repetition 9 kinds).walk :=
    Node.variablesOnce_of_nodup (by decide +kernel)
  obtain ⟨g, compiled, run⟩ := compile_of_run run
  obtain ⟨m, found, equal⟩ := Option.map_eq_some_iff.mp run
  obtain ⟨unfinished, spans⟩ := Prod.mk.inj equal
  have unfinished := Option.isNone_iff_eq_none.mp unfinished
  obtain ⟨finished, begun, front, back, input, rounds, finish, _, _, _, _, resolved⟩ :=
    round_resolved characters once compiled found unfinished
  exact ⟨g, m, compiled, found, unfinished, spans, finished, begun, front, back, input, rounds, finish,
    resolved⟩

end Grammar
end Typeahead
