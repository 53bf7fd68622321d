import Typeahead.Proofs.Pattern.Preference

namespace Typeahead.Pattern

def IsCode (p : Pattern) (code : Code) : Prop := ∃ n, code = ((lay p).run n).1

-- All that remains is to be at the end of the text.
structure AtEnd (k : List Code) : Prop where
  more : k ≠ []
  move : (k.map Code.move).prod = .look .textEnd

def Finishes (p : Pattern) (a : Place) : Prop := ∃ b ms, p.move a b ms ∧ b.rest = []

-- The search goes on with the first of these patterns that can come to the end of the text.
inductive Tries (k : List Code) (a : Place) (marks found : List Mark) : List Pattern → Prop
  | here (isCode : IsCode p code) (stage : Stage (code :: k) a marks found) : Tries k a marks found (p :: ps)
  | next (failed : ¬ p.Finishes a) (others : Tries k a marks found ps) : Tries k a marks found (p :: ps)

-- What may be left out.
inductive Optional : Pattern → Prop
  | empty : Optional .empty
  | once : Optional (.repetition 0 (some 1) true body)

-- What a concatenation keeps as a part of its own.
inductive Solid : Pattern → Prop
  | repetition : Solid (.repetition least most greedy body)
  | choice : Solid (.choice branches)

variable {p q body : Pattern} {ps qs branches : List Pattern} {code : Code} {k : List Code} {a b : Place}
  {marks found ms : List Mark}

theorem IsCode.move (isCode : p.IsCode code) : code.move = p.move := by
  obtain ⟨n, rfl⟩ := isCode
  exact (lays_pattern p n).move

theorem isCode_choice_nil (isCode : (choice []).IsCode code) : ∃ l, code = .never l := by
  obtain ⟨n, rfl⟩ := isCode
  exact ⟨n, rfl⟩

theorem isCode_choice_cons (isCode : (choice (p :: ps)).IsCode code) :
    ∃ l first others, p.IsCode first ∧ (choice ps).IsCode others ∧ code = .alt l first others := by
  obtain ⟨n, rfl⟩ := isCode
  exact ⟨n, _, _, ⟨n + 1, rfl⟩, ⟨_, rfl⟩, rfl⟩

theorem isCode_concat_nil (isCode : (concat []).IsCode code) : ∃ l, code = .pass l := by
  obtain ⟨n, rfl⟩ := isCode
  exact ⟨n, rfl⟩

theorem isCode_concat_cons (isCode : (concat (p :: ps)).IsCode code) :
    ∃ l first others, p.IsCode first ∧ (concat ps).IsCode others ∧ code = .seq l first others := by
  obtain ⟨n, rfl⟩ := isCode
  exact ⟨n, _, _, ⟨n + 1, rfl⟩, ⟨_, rfl⟩, rfl⟩

theorem isCode_once (isCode : (repetition 0 (some 1) true body).IsCode code) :
    ∃ l l' l'' l''' inner, body.IsCode inner ∧
      code = .alt l (.seq l' inner (.pass l'')) (.pass l''') := by
  obtain ⟨n, rfl⟩ := isCode
  exact ⟨n, n + 1, _, _, _, ⟨n + 2, rfl⟩, rfl⟩

theorem AtEnd.pass (atEnd : AtEnd k) : AtEnd (.pass l :: k) :=
  ⟨List.cons_ne_nil _ _, by rw [List.map_cons, List.prod_cons, Code.move, one_mul, atEnd.move]⟩

theorem AtEnd.way_iff (atEnd : AtEnd k) :
    ((code :: k).map Code.move).prod a b ms ↔ code.move a b ms ∧ b.rest = [] := by
  rw [List.map_cons, List.prod_cons, atEnd.move]
  constructor
  · intro given
    obtain ⟨c, first, second, way, ⟨rfl, rfl, ends⟩, rfl⟩ := given
    exact ⟨by simpa using way, List.isEmpty_iff.mp ends⟩
  · intro given
    obtain ⟨way, ends⟩ := given
    exact ⟨b, ms, [], way, ⟨rfl, rfl, List.isEmpty_iff.mpr ends⟩, by simp⟩

theorem moveAny_iff : moveAny ps a b ms ↔ ∃ p ∈ ps, p.move a b ms := by
  induction ps with
  | nil => simp [moveAny, Move.zero_iff]
  | cons p ps ih => simp [moveAny, Move.add_iff, ih]

theorem move_alternatives : p.move a b ms ↔ ∃ q ∈ p.alternatives, q.move a b ms := by
  cases p with
  | choice branches => exact moveAny_iff
  | _ => simp [alternatives]

theorem finishes_alternatives : p.Finishes a ↔ ∃ q ∈ p.alternatives, q.Finishes a := by
  constructor
  · intro given
    obtain ⟨b, ms, way, ends⟩ := given
    obtain ⟨q, member, way⟩ := move_alternatives.mp way
    exact ⟨q, member, b, ms, way, ends⟩
  · intro given
    obtain ⟨q, member, b, ms, way, ends⟩ := given
    exact ⟨b, ms, move_alternatives.mpr ⟨q, member, way⟩, ends⟩

theorem Stage.finish (stage : Stage (code :: k) a marks found) (atEnd : AtEnd k) :
    ∃ b ms, code.move a b ms ∧ b.rest = [] ∧ found = ms.reverse ++ marks := by
  obtain ⟨b, ms, way, rfl⟩ := stage.ends
  obtain ⟨way, ends⟩ := atEnd.way_iff.mp way
  exact ⟨b, ms, way, ends, rfl⟩

namespace Tries

theorem finish (tries : Tries k a marks found p.alternatives) (atEnd : AtEnd k) :
    ∃ b ms, p.move a b ms ∧ b.rest = [] ∧ found = ms.reverse ++ marks := by
  suffices some' : ∃ q ∈ p.alternatives, ∃ b ms, q.move a b ms ∧ b.rest = [] ∧ found = ms.reverse ++ marks by
    obtain ⟨q, member, b, ms, way, rest⟩ := some'
    exact ⟨b, ms, move_alternatives.mpr ⟨q, member, way⟩, rest⟩
  generalize p.alternatives = ps at tries
  induction tries with
  | here isCode stage => exact ⟨_, List.mem_cons_self .., isCode.move ▸ stage.finish atEnd⟩
  | next _ _ ih =>
    obtain ⟨q, member, rest⟩ := ih
    exact ⟨q, List.mem_cons_of_mem _ member, rest⟩

theorem append_cases (tries : Tries k a marks found (ps ++ qs)) : Tries k a marks found ps ∨
    (∀ p ∈ ps, ¬ p.Finishes a) ∧ Tries k a marks found qs := by
  induction ps with
  | nil => exact .inr ⟨by simp, tries⟩
  | cons p ps ih =>
    cases tries with
    | here isCode stage => exact .inl (.here isCode stage)
    | next failed others =>
      rcases ih others with inside | ⟨all, beyond⟩
      · exact .inl (.next failed inside)
      · exact .inr ⟨List.forall_mem_cons.mpr ⟨failed, all⟩, beyond⟩

theorem of_choice (isCode : (choice ps).IsCode code) (stage : Stage (code :: k) a marks found)
    (atEnd : AtEnd k) : Tries k a marks found ps := by
  induction ps generalizing code with
  | nil =>
    obtain ⟨l, rfl⟩ := isCode_choice_nil isCode
    obtain ⟨_, _, never, _⟩ := stage.finish atEnd
    exact never.elim
  | cons p ps ih =>
    obtain ⟨l, first, others, isFirst, areOthers, rfl⟩ := isCode_choice_cons isCode
    rcases stage.alt with stage | ⟨failed, stage⟩
    · exact .here isFirst stage
    · refine .next (fun finishes => ?_) (ih areOthers stage)
      obtain ⟨b, ms, way, ends⟩ := finishes
      exact failed b ms (atEnd.way_iff.mpr ⟨isFirst.move ▸ way, ends⟩)

theorem of_stage (isCode : p.IsCode code) (stage : Stage (code :: k) a marks found) (atEnd : AtEnd k) :
    Tries k a marks found p.alternatives := by
  cases p with
  | choice branches => exact of_choice isCode stage atEnd
  | _ => exact .here isCode stage

theorem stage (tries : Tries k a marks found [p]) :
    ∃ code, p.IsCode code ∧ Stage (code :: k) a marks found := by
  cases tries with
  | here isCode stage => exact ⟨_, isCode, stage⟩
  | next _ others => cases others

theorem of_concat (isCode : (concat (ps ++ [q])).IsCode code) (stage : Stage (code :: k) a marks found)
    (atEnd : AtEnd k) : ∃ b ms k', AtEnd k' ∧ (ps.map Pattern.move).prod a b ms ∧
      Tries k' b (ms.reverse ++ marks) found q.alternatives := by
  induction ps generalizing code a marks with
  | nil =>
    obtain ⟨l, first, others, isFirst, areOthers, rfl⟩ := isCode_concat_cons isCode
    obtain ⟨l', rfl⟩ := isCode_concat_nil areOthers
    exact ⟨a, [], _, atEnd.pass, Move.one_intro, of_stage isFirst stage.seq atEnd.pass⟩
  | cons p ps ih =>
    obtain ⟨l, first, others, isFirst, areOthers, rfl⟩ := isCode_concat_cons isCode
    obtain ⟨c, front, way, stage⟩ := stage.seq.through (List.cons_ne_nil _ _)
    obtain ⟨b, back, k', atEnd', rest, tries⟩ := ih areOthers stage
    refine ⟨b, front ++ back, k', atEnd', Move.mul_intro (isFirst.move ▸ way) rest, ?_⟩
    rwa [List.reverse_append, List.append_assoc]

-- What may be left out is only left out where it cannot be empty.
theorem of_once (tries : Tries k a marks found [.repetition 0 (some 1) true body]) (atEnd : AtEnd k)
    (idle : a.rest = [] → body.Finishes a) :
    ∃ k', AtEnd k' ∧ Tries k' a marks found body.alternatives := by
  obtain ⟨code, isCode, stage⟩ := tries.stage
  obtain ⟨_, _, _, _, inner, isInner, rfl⟩ := isCode_once isCode
  rcases stage.alt with stage | ⟨failed, stage⟩
  · exact ⟨_, atEnd.pass, of_stage isInner stage.seq atEnd.pass⟩
  · obtain ⟨_, _, ⟨rfl, rfl⟩, ends, _⟩ := stage.finish atEnd
    obtain ⟨b, ms, way, ends⟩ := idle ends
    refine absurd (atEnd.way_iff.mpr ⟨?_, ends⟩) (failed b ms)
    show (inner.move * 1) a b ms
    rwa [mul_one, isInner.move]

end Tries

theorem joinLiterals_append (solid : Solid q) :
    joinLiterals (ps ++ [q]) = joinLiterals ps ++ [q] := by
  induction ps with
  | nil => cases solid <;> rfl
  | cons p ps ih =>
    cases p with
    | literal chars =>
      rw [List.cons_append, joinLiterals, joinLiterals, ih]
      cases joined : joinLiterals ps with
      | nil => cases solid <;> rfl
      | cons first rest => cases first <;> rfl
    | _ => simp [joinLiterals, ih]

theorem ofParts_append (solid : Solid q) (ps : List Pattern) :
    ofParts (ps ++ [q]) = q ∧ (ps.map move).prod = 1 ∨
      ∃ items, ofParts (ps ++ [q]) = .concat (items ++ [q]) ∧ (items.map move).prod = (ps.map move).prod := by
  have last : (ps ++ [q]).flatMap parts = ps.flatMap parts ++ [q] := by
    cases solid <;> simp [parts]
  have same := joined_move ps
  unfold ofParts
  rw [last, joinLiterals_append solid]
  cases joined : joinLiterals (ps.flatMap parts) with
  | nil =>
    rw [joined] at same
    exact .inl ⟨rfl, same.symm⟩
  | cons first rest =>
    rw [joined] at same
    exact .inr ⟨first :: rest, by cases rest <;> rfl, same⟩

theorem Tries.of_parts (solid : Solid q) (tries : Tries k a marks found (ofParts (ps ++ [q])).alternatives)
    (atEnd : AtEnd k) : ∃ b ms k', AtEnd k' ∧ (ps.map Pattern.move).prod a b ms ∧
      Tries k' b (ms.reverse ++ marks) found q.alternatives := by
  rcases ofParts_append solid ps with ⟨alone, nothing⟩ | ⟨items, equal, same⟩
  · rw [alone] at tries
    exact ⟨a, [], k, atEnd, nothing ▸ Move.one_intro, tries⟩
  · rw [equal] at tries
    obtain ⟨code, isCode, stage⟩ := tries.stage
    rw [← same]
    exact Tries.of_concat isCode stage atEnd

theorem Tries.of_run {input : List Char} (solid : Solid p)
    (searched : (ofParts [.look .textStart, p, .look .textEnd]).program.run input = some found) :
    ∃ k, AtEnd k ∧ Tries k (.start input) [] found p.alternatives := by
  have parts : ofParts [.look .textStart, p, .look .textEnd] =
      .concat [.look .textStart, p, .look .textEnd] := by cases solid <;> rfl
  rw [parts] at searched
  have isCode : (concat [.look .textStart, p, .look .textEnd]).IsCode
      (concat [.look .textStart, p, .look .textEnd]).program.code := ⟨0, rfl⟩
  have stage := Stage.of_run searched
  obtain ⟨_, first, others, isFirst, areOthers, code⟩ := isCode_concat_cons isCode
  rw [code] at stage
  obtain ⟨b, ms, way, stage⟩ := stage.seq.through (List.cons_ne_nil _ _)
  rw [isFirst.move] at way
  obtain ⟨rfl, rfl, _⟩ := way
  obtain ⟨_, inner, last, isInner, isLast, rfl⟩ := isCode_concat_cons areOthers
  have atEnd : AtEnd [last] := ⟨List.cons_ne_nil _ _, by
    simp [isLast.move, Pattern.move, moveAll]⟩
  exact ⟨_, atEnd, of_stage isInner stage.seq atEnd⟩

theorem unionOf?_eq_none {view : Pattern → Option CharSet} (member : q ∈ ps) (unseen : view q = none) :
    unionOf? view ps = none := by
  unfold unionOf?
  generalize CharSet.empty = before
  induction ps generalizing before with
  | nil => cases member
  | cons p ps ih =>
    rw [List.foldlM_cons]
    rcases List.mem_cons.mp member with rfl | member
    · rw [unseen]
      rfl
    · cases view p with
      | none => rfl
      | some s => exact ih member _

theorem shared?_eq_none (member : q ∈ ps) (whole : items? q = none) : shared? ps = none := by
  cases seen : shared? ps with
  | none => rfl
  | some found =>
    obtain ⟨n, lists⟩ := found
    obtain ⟨all, _⟩ := shared?_eq seen
    rw [all] at member
    obtain ⟨items, _, rfl⟩ := List.mem_map.mp member
    cases whole

theorem ofBranches_optional (member : q ∈ ps.flatMap alternatives) (optional : Optional q)
    (several : 2 ≤ (ps.flatMap alternatives).length) :
    ofBranches ps = .choice (ps.flatMap alternatives) := by
  have character : unionOf? singleChar? (ps.flatMap alternatives) = none :=
    unionOf?_eq_none member (by cases optional <;> rfl)
  have sets : unionOf? set? (ps.flatMap alternatives) = none :=
    unionOf?_eq_none member (by cases optional <;> rfl)
  have apart : shared? (ps.flatMap alternatives) = none :=
    shared?_eq_none member (by cases optional <;> rfl)
  obtain ⟨first, second, rest, flat⟩ :
      ∃ first second rest, ps.flatMap alternatives = first :: second :: rest := by
    match ps.flatMap alternatives, several with
    | first :: second :: rest, _ => exact ⟨first, second, rest, rfl⟩
  rw [flat] at character sets apart ⊢
  rw [ofBranches, ofBranchesLoop.eq_def]
  simp [flat, character, sets, apart]

end Typeahead.Pattern
