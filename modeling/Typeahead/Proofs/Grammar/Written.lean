import Typeahead.Proofs.CharClass.Escaping
import Typeahead.Proofs.Grammar.Correspondence
import Typeahead.Proofs.Grammar.Laws

namespace Typeahead
namespace Node
variable {n : Nat} {text input : Text} {s : CharSet} {c : CharClass}

theorem mem_language_single {i : Nat} (known : c.set? = some s) :
    text ∈ (Node.single i c).language ↔ ∃ x ∈ s, text = [x] := by
  constructor
  · rintro ⟨t, known', x, member, rfl⟩
    obtain rfl := Option.some.inj (known.symm.trans known')
    exact ⟨x, member, rfl⟩
  · rintro ⟨x, member, rfl⟩
    exact ⟨s, known, x, member, rfl⟩

theorem mem_beginnings_single {i : Nat} (known : c.set? = some s) :
    text ∈ (Node.single i c).beginnings ↔ text = [] ∨ ∃ x ∈ s, text = [x] := by
  rw [beginnings, Language.mem_add, Language.mem_one, mem_language_single known]

def leavesOf (text : Text) (n : Nat) : List Node := ((ofClasses (text.map CharClass.literal)).run n).1

theorem leavesOf_cons (x : Char) (text : Text) (n : Nat) :
    leavesOf (x :: text) n = .single n (CharClass.literal x) :: leavesOf text (n + 1) := rfl

theorem literal_run (text : Text) (n : Nat) :
    ((literal text).run n).1 = .sequence n (some text) (leavesOf text (n + 1)) := rfl

theorem mem_languageAll_leavesOf : ∀ (text : Text) (n : Nat) (input : Text),
    input ∈ languageAll (leavesOf text n) ↔ input = text
  | [], _, input => Language.mem_one input
  | x :: text, n, input => by
    obtain ⟨s, known, mem⟩ := CharClass.literal_set x
    rw [leavesOf_cons, languageAll, Language.mem_mul]
    constructor
    · rintro ⟨a, first, b, others, rfl⟩
      obtain ⟨y, member, rfl⟩ := (mem_language_single known).mp first
      rw [(mem y).mp member, (mem_languageAll_leavesOf text (n + 1) b).mp others]
      rfl
    · rintro rfl
      exact ⟨[x], (mem_language_single known).mpr ⟨x, (mem x).mpr rfl, rfl⟩, text,
        (mem_languageAll_leavesOf text (n + 1) text).mpr rfl, rfl⟩

theorem leaf_of_mem : ∀ (text : Text) (n : Nat), ∀ node ∈ walkAll (leavesOf text n),
    ∃ i x, node = .single i (CharClass.literal x)
  | [], _, _, member => by cases member
  | x :: text, n, node, member => by
    rw [leavesOf_cons, walkAll] at member
    cases List.mem_append.mp member with
    | inl own => exact ⟨n, x, List.mem_singleton.mp own⟩
    | inr other => exact leaf_of_mem text (n + 1) node other

theorem isSingle_leavesOf : ∀ (text : Text) (n : Nat), (leavesOf text n).all isSingle = true
  | [], _ => rfl
  | x :: text, n => by
    rw [leavesOf_cons, List.all_cons, isSingle_leavesOf text (n + 1)]
    rfl

theorem literal_characters (text : Text) (n : Nat) : ((literal text).run n).1.HasCharacters := by
  intro i c member
  rw [literal_run, walk] at member
  rcases List.mem_cons.mp member with equal | member
  · cases equal
  · obtain ⟨j, x, equal⟩ := leaf_of_mem text (n + 1) _ member
    obtain ⟨_, rfl⟩ := Node.single.inj equal
    obtain ⟨s, known, mem⟩ := CharClass.literal_set x
    exact ⟨s, known, x, (mem x).mpr rfl⟩

theorem literal_valid (text : Text) (n : Nat) : ((literal text).run n).1.validate = .ok () := by
  refine validate_of_fault_none fun node member => ?_
  rw [literal_run, walk] at member
  rcases List.mem_cons.mp member with rfl | member
  · simp only [fault?, isSingle_leavesOf, if_true]
  · obtain ⟨i, x, rfl⟩ := leaf_of_mem text (n + 1) _ member
    rfl

end Node

namespace Pattern
variable {s : CharSet}

def mostBytes (s : CharSet) : Nat :=
  let all := s.runs.flatMap byteRanges
  32 * (2 + all.flatten.length) + 4 * all.length

theorem countSet_le (wide : s.isAscii = false) {l : Tally} (new : l.plans = []) :
    ((countSet .backwards s).run l).2.bytes ≤ l.bytes + mostBytes s := by
  obtain ⟨limit, states, held, plans⟩ := l
  subst new
  by_cases beyond : limit < 32 * states + held
  · have same : ((countSet .backwards s).run ⟨limit, states, held, []⟩).2 =
        ⟨limit, states, held, []⟩ := by
      simp [countSet, Tally.bytes, beyond]
      rfl
    rw [same]
    exact Nat.le_add_right ..
  · have counted : ((countSet .backwards s).run ⟨limit, states, held, []⟩).2 =
        ⟨limit, states + newStates (s.runs.flatMap byteRanges) states,
          held + 4 * (s.runs.flatMap byteRanges).length,
          [(s, .sequences (s.runs.flatMap byteRanges))]⟩ := by
      simp [countSet, planOf, count, Tally.bytes, SetPlan.of, wide, beyond]
      rfl
    have few := newStates_le (s.runs.flatMap byteRanges) states
    rw [counted, mostBytes]
    simp only [Tally.bytes]
    omega

def ofLeaf (s : CharSet) : PatternKind → Pattern
  | .whole => .concat [.look .textStart, .set s, .look .textEnd]
  | .started => .concat [.look .textStart, .repetition 0 (some 1) true (.set s), .look .textEnd]

theorem ofLeaf_backwards_le (wide : s.isAscii = false) (kind : PatternKind) (limit : Nat) :
    (ofLeaf s kind).footprint .backwards limit ≤ mostBytes s + 200 := by
  cases kind with
  | whole =>
    have counted := countSet_le wide (l := ⟨limit, 2, 0, []⟩) rfl
    generalize found : ((countSet .backwards s).run ⟨limit, 2, 0, []⟩).2 = l at counted
    have whole : (ofLeaf s .whole).footprint .backwards limit = 32 * (l.states + 1 + 1) + l.held := by
      rw [← found]
      rfl
    rw [whole]
    simp only [Tally.bytes] at counted
    omega
  | started =>
    have counted := countSet_le wide (l := ⟨limit, 3, 8, []⟩) rfl
    generalize found : ((countSet .backwards s).run ⟨limit, 3, 8, []⟩).2 = l at counted
    have started : (ofLeaf s .started).footprint .backwards limit =
        32 * (l.states + 1 + 1 + 1) + l.held := by
      rw [← found]
      rfl
    rw [started]
    simp only [Tally.bytes] at counted
    omega

end Pattern

namespace Grammar

-- What every grammar of a tree accepts. Only a limit keeps there from being one.
structure AcceptsExactly (root : Node) (finished begun : Text → Prop) : Prop where
  whole : ∀ limits g, compile limits root = .ok g → ∀ text, (g.matchWhole text).isSome ↔ finished text
  started : ∀ limits g, compile limits root = .ok g → ∀ text, (g.matchStarted text).isSome ↔ begun text
  forbidden : ∀ limits cause, compile limits root = .error cause → limits.Forbids root cause

variable {c : CharClass} {s : CharSet}

theorem class_acceptsExactly {takes : Char → Prop} (known : c.set? = some s) (mem : ∀ x, x ∈ s ↔ takes x)
    (i : Nat) : AcceptsExactly (.single i c) (fun text => ∃ x, takes x ∧ text = [x])
      (fun text => text = [] ∨ ∃ x, takes x ∧ text = [x]) := by
  have atoms : (Node.single i c).HasAtoms := by
    intro j d member
    obtain ⟨_, rfl⟩ := Node.single.inj (List.mem_singleton.mp member)
    exact Option.isSome_of_eq_some known
  constructor
  · intro limits g compiled text
    rw [(Grammar.compiled atoms compiled).whole_iff, Node.mem_language_single known]
    simp only [mem]
  · intro limits g compiled text
    rw [(Grammar.compiled atoms compiled).started_beginnings, Node.mem_beginnings_single known]
    simp only [mem]
  · exact fun limits cause failed => forbidden_of_compile atoms.items rfl failed

theorem literal_acceptsExactly (text : Text) (n : Nat) :
    AcceptsExactly ((Node.literal text).run n).1 (· = text) (· <+: text) := by
  have characters := Node.literal_characters text n
  have valid := Node.literal_valid text n
  have language : ∀ input, input ∈ ((Node.literal text).run n).1.language ↔ input = text :=
    Node.mem_languageAll_leavesOf text (n + 1)
  constructor
  · intro limits g compiled input
    rw [(Grammar.compiled characters.atoms compiled).whole_iff, language]
  · intro limits g compiled input
    have made := Grammar.compiled characters.atoms compiled
    constructor
    · intro accepted
      obtain ⟨visits, begins⟩ := made.started_iff.mp accepted
      obtain ⟨rest, finished⟩ := begins.finish (characters.live valid)
      exact ⟨rest, (language _).mp finished⟩
    · rintro ⟨rest, equal⟩
      exact made.started_of_mem ((language _).mpr equal)
  · exact fun limits cause failed => forbidden_of_compile characters.atoms.items valid failed

-- What is written from characters means these characters. Only a class of all characters but the two on
-- both sides of the surrogates takes these two as well.
theorem written_exact {chars : Text} (some' : chars ≠ []) (text : Text) (i n : Nat) :
    (∃ made, CharClass.anyOf chars = .ok made ∧
      AcceptsExactly (.single i made) (fun input => ∃ x, x ∈ chars ∧ input = [x])
        (fun input => input = [] ∨ ∃ x, x ∈ chars ∧ input = [x])) ∧
    (∃ made, CharClass.noneOf chars = .ok made ∧
      AcceptsExactly (.single i made)
        (fun input => ∃ x, (x ∉ chars ∨ CharClass.Astride chars x) ∧ input = [x])
        (fun input => input = [] ∨ ∃ x, (x ∉ chars ∨ CharClass.Astride chars x) ∧ input = [x])) ∧
    AcceptsExactly ((Node.literal text).run n).1 (· = text) (· <+: text) := by
  refine ⟨?_, ?_, literal_acceptsExactly text n⟩
  · obtain ⟨made, s, written, known, mem⟩ := CharClass.anyOf_set some'
    exact ⟨made, written, class_acceptsExactly known mem i⟩
  · obtain ⟨made, s, written, known, mem⟩ := CharClass.noneOf_set some'
    exact ⟨made, written, class_acceptsExactly known mem i⟩

-- The two characters on both sides of the surrogates, excluded, and accepted.
def butSurrogates : CharClass := ⟨"[^\uD7FF\uE000]".toList⟩

def straddling : CharSet := ⟨[(0, 0xd7fe), (0xd7ff, 0xe000), (0xe001, 0x10ffff)]⟩

theorem butSurrogates_read (kind : PatternKind) :
    (Pattern.read (kind.source (.single 0 butSurrogates)).1).toOption.any (fun parsed =>
      parsed.tree.depth.ble 250 && Pattern.same (.ofTree parsed.tree) (.ofLeaf straddling kind)) := by
  cases kind <;> decide +kernel

theorem butSurrogates_allowed (cause : CompileError) :
    ¬ Limits.Forbids {} (.single 0 butSurrogates) cause := by
  rintro ⟨kind, reason, parsed, -, read, refused⟩
  have shape := butSurrogates_read kind
  rw [read] at shape
  simp only [Except.toOption, Option.any_some, Bool.and_eq_true, Nat.ble_eq] at shape
  rcases refused with ⟨-, deep⟩ | ⟨-, big⟩
  · exact Nat.not_lt.mpr shape.1 deep
  · rw [Pattern.eq_of_same _ _ shape.2] at big
    have forwards : (Pattern.ofLeaf straddling kind).footprint .forwards 10485760 ≤ 10485760 := by
      cases kind <;> decide +kernel
    have backwards : (Pattern.ofLeaf straddling kind).footprint .backwards 10485760 ≤ _ :=
      Pattern.ofLeaf_backwards_le (by decide) kind _
    have few : Pattern.mostBytes straddling = 1464 := by decide +kernel
    simp only [Pattern.exceeds, Bool.or_eq_true, decide_eq_true_eq] at big
    omega

theorem surrogates_written : ∃ made g, CharClass.noneOf "\uD7FF\uE000".toList = .ok made ∧
    compile {} (.single 0 made) = .ok g ∧ (g.matchWhole "\uD7FF".toList).isSome := by
  have some' : "\uD7FF\uE000".toList ≠ [] := by decide
  obtain ⟨made, written, exact'⟩ := (written_exact some' [] 0 0).2.1
  have text : made = butSurrogates := by
    have known : CharClass.noneOf "\uD7FF\uE000".toList = .ok butSurrogates := by rfl
    exact Except.ok.inj (written.symm.trans known)
  subst text
  cases compiled : compile {} (.single 0 butSurrogates) with
  | error cause => exact absurd (exact'.forbidden {} cause compiled) (butSurrogates_allowed cause)
  | ok g =>
    refine ⟨_, g, written, compiled, (exact'.whole {} g compiled _).mpr ⟨'\uD7FF', .inr ?_, rfl⟩⟩
    exact ⟨by decide, .inl rfl⟩

end Grammar
end Typeahead
