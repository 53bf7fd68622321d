import Typeahead.Completion
import Typeahead.Proofs.Grammar.Visits

namespace Typeahead

namespace Match
variable {m : Match} {v : VariableMatch}

theorem mem_variableMatches : v ∈ m.variableMatches ↔ (v.node, some v.span) ∈ m.resolve ∧
    v.node.asVariable = some v.info ∧ v.text = Text.slice v.span m.input := by
  obtain ⟨node, info, span, text⟩ := v
  simp only [variableMatches, List.mem_filterMap, bind, Option.bind_eq_some_iff, pure,
    Option.some.injEq, VariableMatch.mk.injEq]
  constructor
  · intro given
    obtain ⟨⟨other, found⟩, member, _, known, _, rfl, rfl, rfl, rfl, rfl⟩ := given
    exact ⟨member, known, rfl⟩
  · intro given
    obtain ⟨member, known, rfl⟩ := given
    exact ⟨_, member, info, known, span, rfl, rfl, rfl, rfl, rfl⟩

end Match

namespace Grammar
variable {g : Grammar} {root : Node} {input : Text} {m : Match} {v : VariableMatch}

theorem Compiled.matchStarted_reads (compiled : g.Compiled root)
    (found : g.matchStarted input = some m) :
    m.input = input ∧ m.rows.map GroupRow.node ⊆ root.variableNodes ∧ ∃ captures, m.Reads captures ∧
      (root.Derives 0 input (captures.map Capture.visit) ∨
        root.Begins 0 input (captures.map Capture.visit)) :=
  compiled.visits found

theorem Compiled.entered (compiled : g.Compiled root) (characters : root.HasCharacters)
    (coherent : root.Coherent) (found : g.matchStarted input = some m)
    (member : v ∈ m.variableMatches) :
    ∃ before after, input = before ++ after ∧ v.span.start = Text.bytes before ∧
      ∀ other ∈ v.node.language, ∃ rest, before ++ other ++ rest ∈ root.language := by
  obtain ⟨_, _, captures, reads, explained⟩ := compiled.matchStarted_reads found
  obtain ⟨resolved, _, _⟩ := Match.mem_variableMatches.mp member
  obtain ⟨c, captured, same, spans⟩ := reads.captured resolved
  have live := characters.live compiled.valid
  have visited : c.visit ∈ captures.map Capture.visit := List.mem_map_of_mem captured
  have reenters : Node.Reenters root 0 input c.visit := by
    cases explained with
    | inl derives => exact derives.reenters live visited
    | inr begins => exact begins.reenters live visited
  have known := (compiled.resolved found resolved).1
  have node : c.node = v.node := coherent _ reenters.within _ known same
  obtain ⟨before, after, split, start, each⟩ := reenters.cut
  refine ⟨before, after, split, ?_, ?_⟩
  · rw [← spans, ← Nat.zero_add (Text.bytes before)]
    exact start
  · rw [← node]
    exact each

end Grammar

theorem VariableMatch.start_of_mem {v : VariableMatch} {c : Completion}
    (offered : c ∈ v.completions) :
    c.start = v.span.start := by
  unfold completions at offered
  split at offered
  · cases offered
  · obtain ⟨candidate, _, rfl⟩ := List.mem_map.mp offered
    rfl

theorem VariableMatch.typed_of_words {v : VariableMatch} {c : Completion} {words : List Text}
    (completer : v.info.completer = some (.words words)) (wrapper : v.info.wrapper = none)
    (unwrapper : v.info.unwrapper = none) (offered : c ∈ v.completions) : v.text <+: c.text := by
  unfold completions at offered
  rw [completer] at offered
  obtain ⟨candidate, chosen, rfl⟩ := List.mem_map.mp offered
  have begins := (List.mem_filter.mp chosen).2
  simpa [Variable.unwrap, Variable.wrap, wrapper, unwrapper, Text.startsWith] using begins

theorem Completion.apply_start {c : Completion} {before after : Text}
    (start : c.start = Text.bytes before) :
    c.apply (before ++ after) = before ++ c.text := by
  rw [Completion.apply, start, Text.splitAtByte?_bytes]

namespace Grammar
variable {g : Grammar} {root : Node} {input : Text} {m : Match} {v : VariableMatch}

-- The variable for which a completion is offered.
def Offers (g : Grammar) (input : Text) (v : VariableMatch) (c : Completion) : Prop :=
  ∃ m, g.matchStarted input = some m ∧ v ∈ m.trailing ∧ c ∈ v.completions

theorem mem_complete {c : Completion} : c ∈ g.complete input ↔ ∃ v, g.Offers input v c := by
  unfold complete Offers
  cases g.matchStarted input with
  | none => simp
  | some m => simp [Match.completions]

theorem complete_continues {limits : Limits} (characters : root.HasCharacters)
    (coherent : root.Coherent) (compiled : compile limits root = .ok g) (input : Text)
    {c : Completion} (member : c ∈ g.complete input) :
    (∃ v, g.Offers input v c) ∧ ∀ v, g.Offers input v c →
      (∀ child ∈ v.node.children, (∃ rest, c.text ++ rest ∈ child.language) →
        (g.matchStarted (c.apply input)).isSome) ∧
      (∀ words, v.info.completer = some (.words words) → v.info.wrapper = none →
        v.info.unwrapper = none → input <+: c.apply input) := by
  have made := Grammar.compiled characters.atoms compiled
  refine ⟨mem_complete.mp member, ?_⟩
  intro v given
  obtain ⟨m, found, trailing, offered⟩ := given
  obtain ⟨matched, stop⟩ := List.mem_filter.mp trailing
  obtain ⟨before, after, rfl, start, each⟩ := made.entered characters coherent found matched
  rw [Completion.apply_start ((VariableMatch.start_of_mem offered).trans start)]
  obtain ⟨_, variable', slice⟩ := Match.mem_variableMatches.mp matched
  constructor
  · intro child below given
    obtain ⟨rest, begins⟩ := given
    have own : v.node.language = child.language := by
      cases node : v.node with
      | var i info inner =>
        rw [node] at below
        rw [List.mem_singleton.mp below]
        rfl
      | _ => rw [node] at variable'; cases variable'
    rw [← own] at begins
    obtain ⟨rest', whole⟩ := each _ begins
    rw [List.append_assoc, List.append_assoc, ← List.append_assoc] at whole
    exact made.started_of_mem whole
  · intro words completer wrapper unwrapper
    obtain ⟨same, _⟩ := made.matchStarted_reads found
    have text : v.text = after := by
      have span : v.span = ⟨Text.bytes before, Text.bytes before + Text.bytes after⟩ := by
        rw [same, Text.bytes_append, decide_eq_true_eq] at stop
        rw [← start, ← stop.trans (congrArg (· + Text.bytes after) start.symm)]
      have cut := Text.slice_append before after []
      rw [List.append_nil] at cut
      rw [slice, same, span, cut]
    rw [List.prefix_append_right_inj, ← text]
    exact VariableMatch.typed_of_words completer wrapper unwrapper offered

theorem labels_complete : ∃ g c, compile {} labels = .ok g ∧ c ∈ g.complete "7a".toList ∧
    "7a".toList <+: c.apply "7a".toList ∧ (g.matchStarted (c.apply "7a".toList)).isSome := by
  obtain ⟨g, compiled⟩ := labels_compile
  have coherent : labels.Coherent := Node.coherent_of_nodup (by decide)
  have completions : (compile {} labels).toOption.map (·.complete "7a".toList) =
      some [⟨"label".toList, 1, "ab".toList⟩] := by decide +kernel
  rw [compiled] at completions
  have only : g.complete "7a".toList = [⟨"label".toList, 1, "ab".toList⟩] := Option.some.inj completions
  have member : ⟨"label".toList, 1, "ab".toList⟩ ∈ g.complete "7a".toList := by
    rw [only]
    exact List.mem_singleton_self _
  obtain ⟨⟨v, offers⟩, continues⟩ := complete_continues labels_characters coherent compiled _ member
  obtain ⟨started, extended⟩ := continues v offers
  have node : v.node = label ∧ v.node.asVariable = some v.info := by
    obtain ⟨m, found, trailing, _⟩ := offers
    obtain ⟨resolved, variable', _⟩ := Match.mem_variableMatches.mp (List.mem_filter.mp trailing).1
    obtain ⟨row, inside, stands⟩ := Match.row_of_mem_resolve resolved
    have known := ((Grammar.compiled labels_characters.atoms compiled).matchStarted_reads found).2.1
      (List.mem_map_of_mem inside)
    rw [stands] at known
    exact ⟨List.mem_singleton.mp known, variable'⟩
  have info : v.info = _ := (Option.some.inj (node.1 ▸ node.2)).symm
  refine ⟨g, _, compiled, member, ?_, ?_⟩
  · exact extended _ (by rw [info]) (by rw [info]) (by rw [info])
  · have below : Node.repetition 2 (.single 1 ⟨"[a-c]".toList⟩) ∈ v.node.children := by
      rw [node.1]
      exact List.mem_singleton_self _
    refine started _ below ⟨[], ["a".toList, "b".toList], rfl, ?_⟩
    intro text letter
    simp only [List.mem_cons, List.not_mem_nil, or_false] at letter
    rcases letter with rfl | rfl
    · obtain ⟨s, known, member⟩ := takes_of_contains (c := ⟨"[a-c]".toList⟩) (x := 'a') (by decide +kernel)
      exact ⟨s, known, 'a', member, rfl⟩
    · obtain ⟨s, known, member⟩ := takes_of_contains (c := ⟨"[a-c]".toList⟩) (x := 'b') (by decide +kernel)
      exact ⟨s, known, 'b', member, rfl⟩

end Grammar
end Typeahead
