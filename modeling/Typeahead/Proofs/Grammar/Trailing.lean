import Typeahead.Proofs.Grammar.Completing
import Typeahead.Proofs.Grammar.Rounds

namespace Typeahead

-- A group of the node reaches the end of the input.
def Match.ReachesEnd (m : Match) (node : Node) : Prop :=
  ∃ span ∈ m.tookPart node, span.stop = Text.bytes m.input

-- Behind the end of a text there is no other span, so the one in front is there as well.
theorem first_stops {spans : List Text.Span} {span : Text.Span} {stop : Nat}
    (order : spans.Pairwise fun first other => other.stop ≤ first.start)
    (within : ∀ span ∈ spans, span.start ≤ span.stop ∧ span.stop ≤ stop) (member : span ∈ spans)
    (stops : span.stop = stop) : ∃ first, spans.head? = some first ∧ first.stop = stop := by
  cases spans with
  | nil => cases member
  | cons first spans =>
    refine ⟨first, rfl, ?_⟩
    rcases List.mem_cons.mp member with rfl | later
    · exact stops
    · have behind := (List.pairwise_cons.mp order).1 _ later
      have inside := within first (List.mem_cons_self ..)
      omega

namespace Grammar
variable {g : Grammar} {root v : Node} {m : Match} {input : Text} {info : Variable} {limits : Limits}

theorem Compiled.tookPart_within (compiled : g.Compiled root) (found : g.matchStarted input = some m) :
    ∀ span ∈ m.tookPart v, span.start ≤ span.stop ∧ span.stop ≤ Text.bytes m.input := by
  intro span member
  obtain ⟨rfl, _, captures, reads, explains⟩ := compiled.visits found
  obtain ⟨c, captured, _, rfl⟩ := reads.captured_of_tookPart member
  have within := explains.within (List.mem_map_of_mem captured)
  rw [Nat.zero_add] at within
  exact within.2

theorem Compiled.tookPart_order (compiled : g.Compiled root)
    (made : g.whole.Makes m ∨ g.started.Makes m) (single : root.occasions v.id ≤ 1) :
    (m.tookPart v).Pairwise fun first other => other.stop ≤ first.start := by
  rcases made with made | made
  · obtain ⟨f, whole, comes⟩ := compiled.whole
    obtain ⟨captures, taken, took⟩ := comes.tookPart made
    have alone : Receding 1 (lastSpans (rowsFor v.id f.rows) captures) :=
      receding_of_short ((whole.few comes.distinct taken).trans single)
    rw [took]
    exact alone.order
  · exact (compiled.receding made single).order

theorem Compiled.mem_trailing (compiled : g.Compiled root)
    (made : g.whole.Makes m ∨ g.started.Makes m) (coherent : root.Coherent) {typed : VariableMatch}
    (known : typed.node ∈ root.walk) : typed ∈ m.trailing ↔
      (m.tookPart typed.node).head? = some typed.span ∧ typed.span.stop = Text.bytes m.input ∧
        typed.node.asVariable = some typed.info ∧ typed.text = Text.slice typed.span m.input := by
  rw [Match.trailing, List.mem_filter, Match.mem_variableMatches, decide_eq_true_eq]
  have resolved (isVariable : typed.node.asVariable.isSome) :
      (typed.node, some typed.span) ∈ m.resolve ↔ (m.tookPart typed.node).head? = some typed.span := by
    have named : typed.node ∈ root.variableNodes := List.mem_filter.mpr ⟨known, isVariable⟩
    rw [compiled.mem_resolve_iff made named fun other inside => coherent other inside _ known, eq_comm]
  constructor
  · rintro ⟨⟨set, variable', text⟩, stop⟩
    exact ⟨(resolved (by rw [variable']; rfl)).mp set, stop, variable', text⟩
  · rintro ⟨first, stop, variable', text⟩
    exact ⟨⟨(resolved (by rw [variable']; rfl)).mpr first, variable', text⟩, stop⟩

-- A variable is offered if the first of its groups that took part reaches the end, whatever becomes of
-- the others. With one occasion for it no group reaches the end in vain, and its completer is asked.
theorem typed_offered (atoms : root.HasAtoms) (coherent : root.Coherent)
    (compiled : compile limits root = .ok g) (found : g.matchStarted input = some m)
    (known : v ∈ root.walk) (variable' : v.asVariable = some info) :
    ((∃ typed ∈ m.trailing, typed.node = v) ↔
      ∃ span, (m.tookPart v).head? = some span ∧ span.stop = Text.bytes input) ∧
    (root.occasions v.id ≤ 1 → m.ReachesEnd v →
      ∃ typed ∈ m.trailing, typed.node = v ∧ (m.tookPart v).head? = some typed.span ∧
        typed.text = Text.slice typed.span input ∧ ∀ completer, info.completer = some completer →
          ∀ candidate ∈ completer.complete (info.unwrap typed.text),
            ⟨info.name, typed.span.start, info.wrap candidate⟩ ∈ g.complete input) := by
  have built := Grammar.compiled atoms compiled
  obtain ⟨rfl, either⟩ := matchWith_made found
  have made : g.whole.Makes m ∨ g.started.Makes m := either.imp And.right fun given => given.2.2
  have offered (span : Text.Span) (first : (m.tookPart v).head? = some span)
      (stop : span.stop = Text.bytes m.input) :
      ⟨v, info, span, Text.slice span m.input⟩ ∈ m.trailing :=
    (built.mem_trailing made coherent known).mpr ⟨first, stop, variable', rfl⟩
  refine ⟨⟨?_, ?_⟩, ?_⟩
  · rintro ⟨typed, trailing, rfl⟩
    obtain ⟨first, stop, _⟩ := (built.mem_trailing made coherent known).mp trailing
    exact ⟨typed.span, first, stop⟩
  · rintro ⟨span, first, stop⟩
    exact ⟨_, offered span first stop, rfl⟩
  · rintro single ⟨span, member, stop⟩
    obtain ⟨first, head, stops⟩ :=
      first_stops (built.tookPart_order made single) (built.tookPart_within found) member stop
    have trailing := offered first head stops
    refine ⟨_, trailing, rfl, head, rfl, fun completer asked candidate chosen => ?_⟩
    refine mem_complete.mpr ⟨_, m, found, trailing, ?_⟩
    simp only [VariableMatch.completions, asked]
    exact List.mem_map_of_mem chosen

-- An amount alone or behind a sign. These are two places for it, and one occasion.

def amount : Node :=
  .var 3 { name := "amount".toList, completer := some (.words ["ab".toList, "bc".toList]) }
    (.sequence 2 none [.single 0 ⟨"[a-c]".toList⟩, .single 1 ⟨"[a-c]".toList⟩])

def balance : Node := .any 6 [amount, .sequence 5 none [.single 4 ⟨"[+]".toList⟩, amount]]

theorem balance_offered : ∃ g m, compile {} balance = .ok g ∧
    g.matchStarted "+a".toList = some m ∧ m.ReachesEnd amount ∧
    ⟨"amount".toList, 1, "ab".toList⟩ ∈ g.complete "+a".toList := by
  have run : ((compile {} balance).toOption.bind fun g => (g.matchStarted "+a".toList).map
      fun m => (m.input, m.tookPart amount)) = some ("+a".toList, [⟨1, 2⟩]) := by decide +kernel
  obtain ⟨g, compiled, run⟩ := compile_of_run run
  obtain ⟨m, found, equal⟩ := Option.map_eq_some_iff.mp run
  obtain ⟨input, took⟩ := Prod.mk.inj equal
  have characters : balance.HasCharacters := hasCharacters_of_samples "a+".toList (by decide +kernel)
  have coherent : balance.Coherent := by
    simp [Node.Coherent, balance, amount, Node.walk, Node.walkAll, Node.id]
  have known : amount ∈ balance.walk := by simp [balance, amount, Node.walk, Node.walkAll]
  have ends : m.ReachesEnd amount := by
    rw [Match.ReachesEnd, took, input]
    exact ⟨_, List.mem_singleton_self _, rfl⟩
  obtain ⟨_, offered⟩ := typed_offered characters.atoms coherent compiled found known rfl
  obtain ⟨typed, _, _, first, text, each⟩ := offered (by decide) ends
  have span : typed.span = ⟨1, 2⟩ := by simpa [took] using first.symm
  have typing : typed.text = "a".toList := by
    rw [text, span]
    rfl
  have completed := each _ rfl "ab".toList (by rw [typing]; decide)
  rw [span] at completed
  exact ⟨g, m, compiled, found, ends, completed⟩

-- Of two amounts in a sequence the second is being typed, and the first is the one that counts.

def total : Node := .sequence 7 none [amount, .single 4 ⟨"[+]".toList⟩, amount]

theorem total_hidden : ∃ g m, compile {} total = .ok g ∧ g.matchStarted "ab+a".toList = some m ∧
    m.ReachesEnd amount ∧ ¬ ∃ typed ∈ m.trailing, typed.node = amount := by
  have run : ((compile {} total).toOption.bind fun g => (g.matchStarted "ab+a".toList).map
      fun m => (m.input, m.tookPart amount, m.trailing.length)) =
      some ("ab+a".toList, [⟨0, 2⟩, ⟨3, 4⟩], 0) := by decide +kernel
  obtain ⟨g, compiled, run⟩ := compile_of_run run
  obtain ⟨m, found, equal⟩ := Option.map_eq_some_iff.mp run
  obtain ⟨input, equal⟩ := Prod.mk.inj equal
  obtain ⟨took, short⟩ := Prod.mk.inj equal
  have nothing : m.trailing = [] := List.eq_nil_of_length_eq_zero short
  refine ⟨g, m, compiled, found, ?_, ?_⟩
  · rw [Match.ReachesEnd, took, input]
    exact ⟨⟨3, 4⟩, by simp, rfl⟩
  · simp [nothing]

end Grammar
end Typeahead
