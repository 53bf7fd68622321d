import Typeahead.Document.Basic
import Typeahead.Proofs.Grammar.Faults

namespace Typeahead
namespace Definition

-- A definition and all that it contains, each before what it contains.
mutual
def parts : Definition → List Definition
  | .seq items => .seq items :: partsAll items
  | .alt items => .alt items :: partsAll items
  | .literal text => [.literal text]
  | .charClass text => [.charClass text]
  | .repetition body => .repetition body :: parts body
  | .var name body tag completions => .var name body tag completions :: parts body

def partsAll : List Definition → List Definition
  | [] => []
  | item :: rest => parts item ++ partsAll rest
end

-- What there is no node for.
inductive Refused : Definition → DefinitionError → Prop
  | seq : Refused (.seq []) (.emptyList .seq)
  | alt : Refused (.alt []) (.emptyList .alt)
  | charClass (bad : classOf text = .error cause) :
      Refused (.charClass text) (.construction (.badClass cause))

mutual
def language : Definition → Language Char
  | .seq items => languageAll items
  | .alt items => languageAny items
  | .literal text => {text}
  | .charClass text => {input | ∃ c s, classOf text = .ok c ∧ c.set? = some s ∧ ∃ x ∈ s, input = [x]}
  | .repetition body => KStar.kstar (language body)
  | .var _ body _ _ => language body

def languageAll : List Definition → Language Char
  | [] => 1
  | item :: rest => language item * languageAll rest

def languageAny : List Definition → Language Char
  | [] => 0
  | item :: rest => language item + languageAny rest
end

def name? : Definition → Option Text
  | .var name _ _ _ => some name
  | _ => none

def names (d : Definition) : List Text := d.parts.filterMap name?

-- Every class in it takes one character.
def HasAtoms (d : Definition) : Prop :=
  ∀ text c, .charClass text ∈ d.parts → classOf text = .ok c → c.set?.isSome

def refusal? : Definition → Option DefinitionError
  | .seq [] => some (.emptyList .seq)
  | .alt [] => some (.emptyList .alt)
  | .charClass text =>
    match classOf text with
    | .ok _ => none
    | .error cause => some (.construction (.badClass cause))
  | _ => none

variable {d item : Definition} {items : List Definition} {node child : Node} {nodes : List Node}
  {cause : DefinitionError} {n n' i : Nat} {text : Text} {c : CharClass} {form : ListForm}

theorem refusal?_iff (d : Definition) (cause : DefinitionError) : d.refusal? = some cause ↔ Refused d cause := by
  constructor
  · intro found
    unfold refusal? at found
    split at found
    · cases found
      exact .seq
    · cases found
      exact .alt
    · split at found
      · cases found
      · rename_i bad
        cases found
        exact .charClass bad
    · cases found
  · intro refused
    cases refused with
    | seq => rfl
    | alt => rfl
    | charClass bad => simp only [refusal?, bad]

-- The classes among these places are those of these parts and those of literals.
def ClassesFrom (parts : List Definition) (places : List Node) : Prop :=
  ∀ i c, .single i c ∈ places →
    (∃ x, c = CharClass.literal x) ∨ ∃ text, .charClass text ∈ parts ∧ classOf text = .ok c

namespace ClassesFrom
variable {all more : List Definition} {places others : List Node}

theorem mono (classes : ClassesFrom all places) (within : all ⊆ more) : ClassesFrom more places := by
  intro i c member
  rcases classes i c member with literal | ⟨text, inside, known⟩
  · exact .inl literal
  · exact .inr ⟨text, within inside, known⟩

theorem append (left : ClassesFrom all places) (right : ClassesFrom more others) :
    ClassesFrom (all ++ more) (places ++ others) := by
  intro i c member
  cases List.mem_append.mp member with
  | inl own => exact left.mono (List.subset_append_left ..) i c own
  | inr other => exact right.mono (List.subset_append_right ..) i c other

theorem cons (below : ClassesFrom all places) (composed : node.isSingle = false) :
    ClassesFrom (d :: all) (node :: places) := by
  intro i c member
  rcases List.mem_cons.mp member with rfl | member
  · cases composed
  · exact below.mono (List.subset_cons_self ..) i c member

end ClassesFrom

structure Means (d : Definition) (node : Node) : Prop where
  valid : node.validate = .ok ()
  language : node.language = d.language
  names : (node.variableNodes.map fun v => v.asVariable.map Variable.name) = d.names.map some
  classes : ClassesFrom d.parts node.walk

theorem means_literal (text : Text) (n : Nat) : Means (.literal text) ((Node.literal text).run n).1 where
  valid := Node.literal_valid text n
  language := by
    ext input
    exact Node.mem_languageAll_leavesOf text (n + 1) input
  names := by
    have unnamed : ((Node.literal text).run n).1.variableNodes = [] := by
      refine List.filter_eq_nil_iff.mpr fun node member => ?_
      rw [Node.literal_run, Node.walk] at member
      rcases List.mem_cons.mp member with rfl | member
      · exact Bool.false_ne_true
      · obtain ⟨i, x, rfl⟩ := Node.leaf_of_mem text (n + 1) node member
        exact Bool.false_ne_true
    rw [unnamed]
    rfl
  classes := by
    have leaves : ClassesFrom [] (Node.walkAll (Node.leavesOf text (n + 1))) := by
      intro i c member
      obtain ⟨j, x, equal⟩ := Node.leaf_of_mem text (n + 1) _ member
      exact .inl ⟨x, (Node.single.inj equal).2⟩
    exact leaves.cons rfl

theorem means_charClass (known : classOf text = .ok c) (i : Nat) : Means (.charClass text) (.single i c) where
  valid := rfl
  language := by
    ext input
    constructor
    · rintro ⟨s, taken⟩
      exact ⟨c, s, known, taken⟩
    · rintro ⟨c', s, known', taken⟩
      obtain rfl := Except.ok.inj (known.symm.trans known')
      exact ⟨s, taken⟩
  names := rfl
  classes := by
    intro j c' member
    obtain ⟨_, rfl⟩ := Node.single.inj (List.mem_singleton.mp member)
    exact .inr ⟨text, List.mem_singleton_self _, known⟩

theorem Means.repetition (means : Means d node) (i : Nat) : Means (.repetition d) (.repetition i node) where
  valid := means.valid
  language := congrArg KStar.kstar means.language
  names := means.names
  classes := means.classes.cons rfl

theorem Means.var (means : Means d node) (i : Nat) (info : Variable) (tag : Option Text)
    (completions : Option (List Text)) :
    Means (.var info.name d tag completions) (.var i info node) where
  valid := means.valid
  language := means.language
  names := congrArg (some info.name :: ·) means.names
  classes := means.classes.cons rfl

def listOf : ListForm → List Definition → Definition
  | .seq => .seq
  | .alt => .alt

section
variable (each : List.Forall₂ Means items nodes)
include each

theorem valid_of_each : ∀ node ∈ nodes, node.validate = .ok () := by
  induction each with
  | nil => exact List.forall_mem_nil _
  | cons first _ ih => exact List.forall_mem_cons.mpr ⟨first.valid, ih⟩

theorem languageAll_of_each : Node.languageAll nodes = languageAll items := by
  induction each with
  | nil => rfl
  | cons first _ ih => rw [Node.languageAll, languageAll, first.language, ih]

theorem languageAny_of_each : Node.languageAny nodes = languageAny items := by
  induction each with
  | nil => rfl
  | cons first _ ih => rw [Node.languageAny, languageAny, first.language, ih]

theorem names_of_each : ((nodes.flatMap Node.variableNodes).map fun v => v.asVariable.map Variable.name) =
    ((partsAll items).filterMap name?).map some := by
  induction each with
  | nil => rfl
  | cons first _ ih =>
    rw [List.flatMap_cons, List.map_append, first.names, ih, partsAll, List.filterMap_append,
      List.map_append, names]

theorem classes_of_each : ClassesFrom (partsAll items) (Node.walkAll nodes) := by
  induction each with
  | nil => exact fun _ _ member => nomatch member
  | cons first _ ih => exact first.classes.append ih

theorem means_seq (long : 2 ≤ nodes.length) (i : Nat) : Means (.seq items) (.sequence i none nodes) where
  valid := Node.valid_of_children (if_neg (Nat.not_lt.mpr long)) (valid_of_each each)
  language := languageAll_of_each each
  names := by
    rw [Node.variableNodes_sequence, names_of_each each]
    rfl
  classes := (classes_of_each each).cons rfl

theorem means_alt (long : 2 ≤ nodes.length) (i : Nat) : Means (.alt items) (.any i nodes) where
  valid := Node.valid_of_children (if_neg (Nat.not_lt.mpr long)) (valid_of_each each)
  language := languageAny_of_each each
  names := by
    rw [Node.variableNodes_any, names_of_each each]
    rfl
  classes := (classes_of_each each).cons rfl

end

theorem Means.listOne (means : Means d node) (form : ListForm) : Means (listOf form [d]) node where
  valid := means.valid
  language := by
    rw [means.language]
    cases form with
    | seq => rw [listOf, Definition.language, languageAll, languageAll, mul_one]
    | alt => rw [listOf, Definition.language, languageAny, languageAny, add_zero]
  names := by
    have same : (listOf form [d]).names = d.names := by
      cases form <;> simp [listOf, Definition.names, parts, partsAll, name?, List.filterMap_cons]
    rw [means.names, same]
  classes := by
    refine means.classes.mono ?_
    cases form <;> simp [listOf, parts, partsAll]

-- A failure for this reason, or something good.
def Outcome (result : Except DefinitionError (α × Nat)) (good : α → Prop) : Option DefinitionError → Prop
  | some cause => result = .error cause
  | none => ∃ made n', result = .ok (made, n') ∧ good made

-- The same outcome whatever identity comes next.
def Constructs (c : Construction α) (refusal : Option DefinitionError) (good : α → Prop) : Prop :=
  ∀ n, Outcome (c n) good refusal

theorem constructs_run {b : Node.Building α} {good : α → Prop} (made : ∀ n, good (b.run n).1) :
    Constructs (run b) none good :=
  fun n => ⟨(b.run n).1, (b.run n).2, rfl, made n⟩

theorem Constructs.bind {c : Construction α} {next : α → Construction β} {good : α → Prop}
    {good' : β → Prop} {refusal refusal' : Option DefinitionError} (first : Constructs c refusal good)
    (later : ∀ made, good made → Constructs (next made) refusal' good') :
    Constructs (c >>= next) (refusal.or refusal') good' := by
  intro n
  have here := first n
  have step : (c >>= next) n = c n >>= fun result => next result.1 result.2 := rfl
  rw [step]
  cases refusal with
  | some cause =>
    rw [show c n = .error cause from here]
    exact rfl
  | none =>
    obtain ⟨made, n', run, known⟩ := here
    rw [run]
    exact later made known n'

theorem constructs_combine (form : ListForm) (some' : items ≠ [])
    (each : List.Forall₂ Means items nodes) :
    Constructs (combine form nodes) none (Means (listOf form items)) := by
  intro n
  cases each with
  | nil => exact absurd rfl some'
  | cons first others =>
    cases others with
    | nil => exact ⟨_, n, rfl, first.listOne form⟩
    | cons second others =>
      have all := List.Forall₂.cons first (.cons second others)
      cases form with
      | seq => exact ⟨_, n + 1, rfl, means_seq all (by simp) n⟩
      | alt => exact ⟨_, n + 1, rfl, means_alt all (by simp) n⟩

mutual
theorem toNode_constructs : ∀ d : Definition, Constructs d.toNode (d.parts.findSome? refusal?) (Means d)
  | .seq [] => fun _ => rfl
  | .seq (item :: rest) => by
    have all := (toNodes_constructs (item :: rest)).bind fun _ each =>
      constructs_combine .seq (List.cons_ne_nil item rest) each
    rwa [Option.or_none] at all
  | .alt [] => fun _ => rfl
  | .alt (item :: rest) => by
    have all := (toNodes_constructs (item :: rest)).bind fun _ each =>
      constructs_combine .alt (List.cons_ne_nil item rest) each
    rwa [Option.or_none] at all
  | .literal text => constructs_run (means_literal text)
  | .charClass text => by
    have own : (Definition.parts (.charClass text)).findSome? refusal? = refusal? (.charClass text) := by
      rw [parts, List.findSome?_cons, List.findSome?_nil]
      split <;> simp_all
    rw [own, toNode, refusal?]
    cases known : classOf text with
    | ok c => exact constructs_run fun n => means_charClass known n
    | error bad => exact fun _ => rfl
  | .repetition body => by
    have all := (toNode_constructs body).bind fun _ means =>
      constructs_run (b := Node.repetitionOf _) fun n => means.repetition n
    rwa [Option.or_none] at all
  | .var name body tag completions => by
    have all := (toNode_constructs body).bind fun _ means =>
      constructs_run (b := Node.named { name, tag, completer := completions.map .words } _) fun n =>
        means.var n { name, tag, completer := completions.map .words } tag completions
    rwa [Option.or_none] at all

theorem toNodes_constructs : ∀ items : List Definition,
    Constructs (toNodes items) ((partsAll items).findSome? refusal?) (List.Forall₂ Means items)
  | [] => fun n => ⟨[], n, rfl, .nil⟩
  | item :: rest => by
    rw [partsAll, List.findSome?_append]
    refine (toNode_constructs item).bind fun node means => ?_
    have last : ∀ nodes, List.Forall₂ Means rest nodes →
        Constructs (pure (node :: nodes)) none (List.Forall₂ Means (item :: rest)) :=
      fun nodes each n => ⟨node :: nodes, n, rfl, .cons means each⟩
    have all := (toNodes_constructs rest).bind last
    rwa [Option.or_none] at all
end

theorem error_iff (d : Definition) (n : Nat) (cause : DefinitionError) :
    d.toNode.run n = .error cause ↔ FirstWrong Refused d.parts cause := by
  rw [← findSome?_iff_firstWrong refusal?_iff]
  have outcome := toNode_constructs d n
  cases refusal : d.parts.findSome? refusal? with
  | some first =>
    rw [refusal] at outcome
    rw [show d.toNode.run n = .error first from outcome]
    simp
  | none =>
    rw [refusal] at outcome
    obtain ⟨node, n', run, _⟩ := outcome
    rw [show d.toNode.run n = .ok (node, n') from run]
    simp

theorem means_of_run (made : d.toNode.run n = .ok (node, n')) : Means d node := by
  have outcome := toNode_constructs d n
  cases refusal : d.parts.findSome? refusal? with
  | some first =>
    rw [refusal] at outcome
    cases made.symm.trans outcome
  | none =>
    rw [refusal] at outcome
    obtain ⟨_, _, run, means⟩ := outcome
    cases made.symm.trans run
    exact means

theorem Means.atoms (means : Means d node) (atoms : d.HasAtoms) : node.HasAtoms := by
  intro i c member
  rcases means.classes i c member with ⟨x, rfl⟩ | ⟨text, inside, known⟩
  · obtain ⟨s, set, _⟩ := CharClass.literal_set x
    exact Option.isSome_of_eq_some set
  · exact atoms text c inside known

-- A definition is refused for the first part that is. Else its tree accepts the texts it describes, unless
-- a limit keeps the tree from being compiled, and has the variables it names.
theorem toNode_exact (d : Definition) (n : Nat) :
    (∀ cause, d.toNode.run n = .error cause ↔ FirstWrong Refused d.parts cause) ∧
    ((∃ cause, d.toNode.run n = .error cause) ↔ ∃ part ∈ d.parts, ∃ cause, Refused part cause) ∧
    ∀ node n', d.toNode.run n = .ok (node, n') → node.validate = .ok () ∧
      (∀ limits g, Grammar.compile limits node = .ok g →
        (g.variableNodes.map fun v => v.asVariable.map Variable.name) = d.names.map some) ∧
      (d.HasAtoms →
        (∀ limits g, Grammar.compile limits node = .ok g →
          ∀ text, (g.matchWhole text).isSome ↔ text ∈ d.language) ∧
        ∀ limits cause, Grammar.compile limits node = .error cause → limits.Forbids node cause) := by
  refine ⟨error_iff d n, ?_, ?_⟩
  · simp only [error_iff]
    exact exists_firstWrong_iff refusal?_iff
  · intro node n' made
    have means := means_of_run made
    refine ⟨means.valid, fun limits g compiled => ?_, fun atoms => ⟨fun limits g compiled text => ?_, ?_⟩⟩
    · obtain ⟨tree, _⟩ := Grammar.compile_built compiled
      rw [Grammar.variableNodes, tree, means.names]
    · rw [(Grammar.compiled (means.atoms atoms) compiled).whole_iff, means.language]
    · exact fun limits cause failed =>
        Grammar.forbidden_of_compile (means.atoms atoms).items means.valid failed

-- A word, and a name that may be missing.

def salute : Definition := .seq [.literal "hi".toList,
  .alt [.literal [], .seq [.var "name".toList
    (.seq [.charClass "[A-C]".toList, .repetition (.charClass "alpha".toList)]) none none]]]

-- If it is a class, it takes one character.
def isAtom : Definition → Bool
  | .charClass text => (classOf text).toOption.all fun c => c.set?.isSome
  | _ => true

theorem hasAtoms_of_parts (each : d.parts.all isAtom = true) : d.HasAtoms := by
  intro text c inside known
  have atom := List.all_eq_true.mp each _ inside
  rw [isAtom, known] at atom
  exact atom

theorem salute_exact : ∃ node n' g, salute.toNode.run 0 = .ok (node, n') ∧
    Grammar.compile {} node = .ok g ∧ "hiBo".toList ∈ salute.language ∧
    "hibo".toList ∉ salute.language ∧
    (g.variableNodes.map fun v => v.asVariable.map Variable.name) = [some "name".toList] := by
  have run : (salute.toNode.run 0).toOption.bind (fun made => (Grammar.compile {} made.1).toOption.bind
      fun g => some ((g.matchWhole "hiBo".toList).isSome, (g.matchWhole "hibo".toList).isSome)) =
      some (true, false) := by decide +kernel
  obtain ⟨⟨node, n'⟩, built, run⟩ := Option.bind_eq_some_iff.mp run
  obtain ⟨g, compiled, accepted⟩ := Grammar.compile_of_run run
  obtain ⟨taken, refused⟩ := Prod.mk.inj (Option.some.inj accepted)
  have made : salute.toNode.run 0 = .ok (node, n') := by
    cases outcome : salute.toNode.run 0 with
    | error cause => rw [outcome] at built; cases built
    | ok result => rw [outcome] at built; cases built; rfl
  obtain ⟨_, _, each⟩ := toNode_exact salute 0
  obtain ⟨_, variables', exact'⟩ := each node n' made
  obtain ⟨accepts, _⟩ := exact' (hasAtoms_of_parts (by decide +kernel))
  refine ⟨node, n', g, made, compiled, (accepts {} g compiled _).mp taken, fun member => ?_,
    variables' {} g compiled⟩
  have also := (accepts {} g compiled _).mpr member
  rw [refused] at also
  cases also

end Definition
end Typeahead
