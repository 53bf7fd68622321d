import Typeahead.Proofs.Node.Language

namespace Typeahead

-- The text is cut into what comes before a visit, what it stands for, and what comes after it.
structure Visit.Covers (visit : Visit) (offset : Nat) (text before own after : Text) : Prop where
  cut : text = before ++ own ++ after
  span : visit.span = ⟨offset + Text.bytes before, offset + Text.bytes before + Text.bytes own⟩

namespace Visit.Covers
variable {visit : Visit} {offset : Nat} {text before own after : Text}

theorem whole (node : Node) (offset : Nat) (text : Text) :
    Covers ⟨node, ⟨offset, offset + Text.bytes text⟩⟩ offset text [] text [] :=
  ⟨by simp, rfl⟩

theorem extend (covers : visit.Covers offset text before own after) (more : Text) :
    visit.Covers offset (text ++ more) before own (after ++ more) :=
  ⟨by rw [covers.cut, List.append_assoc], covers.span⟩

theorem shift {first : Text}
    (covers : visit.Covers (offset + Text.bytes first) text before own after) :
    visit.Covers offset (first ++ text) (first ++ before) own after := by
  refine ⟨by simp [covers.cut], ?_⟩
  rw [covers.span, Text.bytes_append, Nat.add_assoc offset]

theorem within (covers : visit.Covers offset text before own after) :
    offset ≤ visit.span.start ∧ visit.span.start ≤ visit.span.stop ∧
      visit.span.stop ≤ offset + Text.bytes text := by
  rw [covers.span, covers.cut, Text.bytes_append, Text.bytes_append]
  simp only
  omega

theorem last (covers : visit.Covers offset text before own []) :
    visit.span.stop = offset + Text.bytes text := by
  rw [covers.span, covers.cut, List.append_nil, Text.bytes_append, Nat.add_assoc]

theorem slice (covers : visit.Covers 0 text before own after) :
    Text.slice? visit.span text = some own := by
  rw [covers.span, covers.cut, Nat.zero_add]
  simp [Text.slice?, List.append_assoc, Text.splitAtByte?_bytes]

end Visit.Covers

namespace Node
variable {node part : Node} {nodes : List Node} {i offset : Nat} {written : Option Text} {text : Text}
  {visits : List Visit} {visit : Visit}

theorem mem_walk_later (isVariable : part.asVariable.isSome)
    (known : part ∈ (Node.sequence i written nodes).walk) :
    part ∈ (Node.sequence i written (node :: nodes)).walk := by
  rcases List.mem_cons.mp known with rfl | known
  · cases isVariable
  · exact List.mem_cons_of_mem _ (List.mem_append_right _ known)

theorem Derives.visited (derives : Derives node offset text visits) (member : visit ∈ visits) :
    visit.node ∈ node.walk ∧ visit.node.asVariable.isSome := by
  induction derives with
  | single | sequenceNil | repetitionNil => cases member
  | var _ ih =>
    rcases List.mem_cons.mp member with rfl | member
    · exact ⟨self_mem_walk _, rfl⟩
    · exact ⟨List.mem_cons_of_mem _ (ih member).1, (ih member).2⟩
  | any branch _ ih => exact ⟨mem_walk_child branch (ih member).1, (ih member).2⟩
  | sequenceCons _ _ ihFirst ihOthers =>
    cases List.mem_append.mp member with
    | inl member =>
      exact ⟨mem_walk_child (List.mem_cons_self ..) (ihFirst member).1, (ihFirst member).2⟩
    | inr member =>
      obtain ⟨known, isVariable⟩ := ihOthers member
      exact ⟨mem_walk_later isVariable known, isVariable⟩
  | repetitionCons _ _ ihFirst ihOthers =>
    cases List.mem_append.mp member with
    | inl member => exact ⟨List.mem_cons_of_mem _ (ihFirst member).1, (ihFirst member).2⟩
    | inr member => exact ihOthers member

theorem Begins.visited (begins : Begins node offset text visits) (member : visit ∈ visits) :
    visit.node ∈ node.walk ∧ visit.node.asVariable.isSome := by
  induction begins with
  | singleNone | single | varNone | anyNone | sequenceNil => cases member
  | var _ ih =>
    rcases List.mem_cons.mp member with rfl | member
    · exact ⟨self_mem_walk _, rfl⟩
    · exact ⟨List.mem_cons_of_mem _ (ih member).1, (ih member).2⟩
  | any branch _ ih => exact ⟨mem_walk_child branch (ih member).1, (ih member).2⟩
  | inside _ ih => exact ⟨mem_walk_child (List.mem_cons_self ..) (ih member).1, (ih member).2⟩
  | beyond _ first _ ih =>
    cases List.mem_append.mp member with
    | inl member =>
      obtain ⟨known, isVariable⟩ := first.visited member
      exact ⟨mem_walk_child (List.mem_cons_self ..) known, isVariable⟩
    | inr member =>
      obtain ⟨known, isVariable⟩ := ih member
      exact ⟨mem_walk_later isVariable known, isVariable⟩
  | repetition rounds _ ih =>
    cases List.mem_append.mp member with
    | inl member => exact rounds.visited member
    | inr member => exact ⟨List.mem_cons_of_mem _ (ih member).1, (ih member).2⟩

theorem Derives.covers (derives : Derives node offset text visits) (member : visit ∈ visits) :
    ∃ before own after, visit.Covers offset text before own after ∧ own ∈ visit.node.language := by
  induction derives with
  | single | sequenceNil | repetitionNil => cases member
  | var inner ih =>
    rcases List.mem_cons.mp member with rfl | member
    · exact ⟨_, _, _, .whole _ _ _, inner.mem_language⟩
    · exact ih member
  | any _ _ ih => exact ih member
  | sequenceCons _ _ ihFirst ihOthers | repetitionCons _ _ ihFirst ihOthers =>
    cases List.mem_append.mp member with
    | inl member =>
      obtain ⟨before, own, after, covers, finished⟩ := ihFirst member
      exact ⟨_, _, _, covers.extend _, finished⟩
    | inr member =>
      obtain ⟨before, own, after, covers, finished⟩ := ihOthers member
      exact ⟨_, _, _, covers.shift, finished⟩

-- Only what the end of the text cuts off is unfinished: a begun node stands last in all there is.
theorem Begins.covers (begins : Begins node offset text visits) (member : visit ∈ visits) :
    ∃ before own after, visit.Covers offset text before own after ∧
      (own ∈ visit.node.language ∨
        after = [] ∧ ∃ start below, Begins visit.node start own below) := by
  induction begins with
  | singleNone | single | varNone | anyNone | sequenceNil => cases member
  | var inner ih =>
    rcases List.mem_cons.mp member with rfl | member
    · exact ⟨_, _, _, .whole _ _ _, .inr ⟨rfl, _, _, .var inner⟩⟩
    · exact ih member
  | any _ _ ih => exact ih member
  | inside _ ih => exact ih member
  | beyond _ first _ ih =>
    cases List.mem_append.mp member with
    | inl member =>
      obtain ⟨before, own, after, covers, finished⟩ := first.covers member
      exact ⟨_, _, _, covers.extend _, .inl finished⟩
    | inr member =>
      obtain ⟨before, own, after, covers, either⟩ := ih member
      exact ⟨_, _, _, covers.shift, either⟩
  | repetition rounds _ ih =>
    cases List.mem_append.mp member with
    | inl member =>
      obtain ⟨before, own, after, covers, finished⟩ := rounds.covers member
      exact ⟨_, _, _, covers.extend _, .inl finished⟩
    | inr member =>
      obtain ⟨before, own, after, covers, either⟩ := ih member
      exact ⟨_, _, _, covers.shift, either⟩

end Node
end Typeahead
