import Mathlib.Order.CompletePartialOrder
import Typeahead.Proofs.Node.Building

namespace Typeahead.Node

mutual
def beginnings : Node → Language Char
  | .sequence _ _ nodes => beginningsAll nodes
  | .any _ nodes => 1 + beginningsAny nodes
  | .single i c => 1 + language (.single i c)
  | .var _ _ child => 1 + beginnings child
  | .repetition _ child => KStar.kstar (language child) * beginnings child

-- The text ends inside the first node, or beyond it inside one of the others.
def beginningsAll : List Node → Language Char
  | [] => 1
  | node :: rest => beginnings node + language node * beginningsAll rest

def beginningsAny : List Node → Language Char
  | [] => 0
  | node :: rest => beginnings node + beginningsAny rest
end

variable {node : Node} {nodes : List Node} {offset : Nat} {text : Text} {visits : List Visit}

theorem mem_beginningsAny : text ∈ beginningsAny nodes ↔ ∃ node ∈ nodes, text ∈ node.beginnings := by
  induction nodes with
  | nil => simp [beginningsAny]
  | cons node nodes ih => simp [beginningsAny, Language.mem_add, ih]

theorem Begins.mem_beginnings (begins : Begins node offset text visits) : text ∈ node.beginnings := by
  induction begins with
  | singleNone | varNone | anyNone => exact .inl Language.nil_mem_one
  | sequenceNil => exact Language.nil_mem_one
  | single known member => exact .inr ⟨_, known, _, member, rfl⟩
  | var _ ih => exact .inr ih
  | any branch _ ih => exact .inr (mem_beginningsAny.mpr ⟨_, branch, ih⟩)
  | inside _ ih => exact .inl ih
  | beyond _ first _ ih => exact .inr (Language.append_mem_mul first.mem_language ih)
  | repetition rounds _ ih => exact Language.append_mem_mul rounds.mem_language ih

mutual
theorem begins_of_mem : ∀ (node : Node) (text : Text) (offset : Nat), text ∈ node.beginnings →
    ∃ visits, Begins node offset text visits
  | .sequence i written nodes, text, offset, member =>
    begins_of_mem_all i written nodes text offset member
  | .any _ _, _, _, .inl member => by
    obtain rfl := (Language.mem_one _).mp member
    exact ⟨[], .anyNone⟩
  | .any _ nodes, text, offset, .inr member => by
    obtain ⟨branch, among, visits, inner⟩ := begins_of_mem_any nodes text offset member
    exact ⟨visits, .any among inner⟩
  | .single _ _, _, _, .inl member => by
    obtain rfl := (Language.mem_one _).mp member
    exact ⟨[], .singleNone⟩
  | .single _ _, _, _, .inr ⟨_, known, _, member, rfl⟩ => ⟨[], .single known member⟩
  | .var _ _ _, _, _, .inl member => by
    obtain rfl := (Language.mem_one _).mp member
    exact ⟨[], .varNone⟩
  | .var _ _ child, text, offset, .inr member => by
    obtain ⟨visits, inner⟩ := begins_of_mem child text offset member
    exact ⟨_, .var inner⟩
  | .repetition i child, text, offset, member => by
    obtain ⟨a, left, b, right, rfl⟩ := Language.mem_mul.mp member
    obtain ⟨front, rounds⟩ := derives_of_mem (.repetition i child) a offset left
    obtain ⟨back, last⟩ := begins_of_mem child b (offset + Text.bytes a) right
    exact ⟨front ++ back, .repetition rounds last⟩

theorem begins_of_mem_all (i : Nat) (written : Option Text) :
    ∀ (nodes : List Node) (text : Text) (offset : Nat), text ∈ beginningsAll nodes →
      ∃ visits, Begins (.sequence i written nodes) offset text visits
  | [], _, _, member => by
    obtain rfl := (Language.mem_one _).mp member
    exact ⟨[], .sequenceNil⟩
  | node :: _, text, offset, .inl member => by
    obtain ⟨visits, first⟩ := begins_of_mem node text offset member
    exact ⟨visits, .inside first⟩
  | node :: nodes, text, offset, .inr member => by
    obtain ⟨a, left, b, right, rfl⟩ := Language.mem_mul.mp member
    obtain ⟨front, first⟩ := derives_of_mem node a offset left
    obtain ⟨back, others⟩ := begins_of_mem_all i written nodes b (offset + Text.bytes a) right
    by_cases last : nodes = []
    · -- beyond the last node there is nothing: the text ends with it
      subst last
      cases others
      obtain ⟨visits, first⟩ := first.begins a [] (by simp)
      exact ⟨visits, by rw [List.append_nil]; exact .inside first⟩
    · exact ⟨front ++ back, .beyond last first others⟩

theorem begins_of_mem_any : ∀ (nodes : List Node) (text : Text) (offset : Nat),
    text ∈ beginningsAny nodes → ∃ node ∈ nodes, ∃ visits, Begins node offset text visits
  | node :: _, text, offset, .inl member =>
    ⟨node, by simp, begins_of_mem node text offset member⟩
  | _ :: nodes, text, offset, .inr member => by
    obtain ⟨branch, among, begins⟩ := begins_of_mem_any nodes text offset member
    exact ⟨branch, by simp [among], begins⟩
end

theorem mem_beginnings_iff (offset : Nat) :
    text ∈ node.beginnings ↔ ∃ visits, Begins node offset text visits :=
  ⟨begins_of_mem node text offset, fun ⟨_, begins⟩ => begins.mem_beginnings⟩

-- A finished text breaks off at its end, and every text may break off before it begins.

theorem language_le_beginnings (node : Node) : node.language ≤ node.beginnings := by
  intro text member
  obtain ⟨visits, derives⟩ := (mem_language_iff 0).mp member
  exact (mem_beginnings_iff 0).mpr (derives.begins text [] (by simp))

theorem one_le_beginnings (node : Node) : 1 ≤ node.beginnings := by
  intro text member
  obtain rfl := (Language.mem_one _).mp member
  exact (begins_nil node 0).mem_beginnings

theorem one_le_beginningsAll (nodes : List Node) : 1 ≤ beginningsAll nodes := by
  cases nodes with
  | nil => exact le_rfl
  | cons node _ => exact (one_le_beginnings node).trans le_sup_left

theorem beginningsAll_append (a b : List Node) :
    beginningsAll (a ++ b) = beginningsAll a + languageAll a * beginningsAll b := by
  induction a with
  | nil =>
    rw [List.nil_append, beginningsAll, languageAll, one_mul,
      add_eq_right_iff_le.mpr (one_le_beginningsAll b)]
  | cons node a ih =>
    rw [List.cons_append, beginningsAll, ih, beginningsAll, languageAll, mul_add, add_assoc, mul_assoc]

theorem beginningsAny_append (a b : List Node) :
    beginningsAny (a ++ b) = beginningsAny a + beginningsAny b := by
  induction a with
  | nil => rw [List.nil_append, beginningsAny, zero_add]
  | cons node a ih => rw [List.cons_append, beginningsAny, ih, beginningsAny, add_assoc]

theorem languageAny_append (a b : List Node) :
    languageAny (a ++ b) = languageAny a + languageAny b := by
  induction a with
  | nil => rw [List.nil_append, languageAny, zero_add]
  | cons node a ih => rw [List.cons_append, languageAny, ih, languageAny, add_assoc]

theorem languageAll_one (node : Node) : languageAll [node] = node.language := by
  rw [languageAll, languageAll, mul_one]

theorem languageAny_one (node : Node) : languageAny [node] = node.language := by
  rw [languageAny, languageAny, add_zero]

theorem beginningsAll_one (node : Node) : beginningsAll [node] = node.beginnings := by
  rw [beginningsAll, beginningsAll, mul_one, add_eq_left_iff_le.mpr (language_le_beginnings node)]

theorem beginningsAny_one (node : Node) : beginningsAny [node] = node.beginnings := by
  rw [beginningsAny, beginningsAny, add_zero]

-- A list that is taken from the left operand accepts what the operand accepts.

theorem languageAll_openSequence (node : Node) : languageAll node.openSequence = node.language := by
  unfold openSequence
  split
  · rw [language]
  · exact languageAll_one _

theorem beginningsAll_openSequence (node : Node) : beginningsAll node.openSequence = node.beginnings := by
  unfold openSequence
  split
  · rw [beginnings]
  · exact beginningsAll_one _

theorem languageAny_openChoice (node : Node) : languageAny node.openChoice = node.language := by
  unfold openChoice
  split
  · rw [language]
  · exact languageAny_one _

theorem beginningsAny_openChoice (node : Node) : 1 + beginningsAny node.openChoice = node.beginnings := by
  unfold openChoice
  split
  · rw [beginnings]
  · rw [beginningsAny_one, add_eq_right_iff_le.mpr (one_le_beginnings _)]

theorem language_followedBy (a b : Node) (n : Nat) :
    ((followedBy a b).run n).1.language = a.language * b.language := by
  show languageAll (openSequence a ++ [b]) = _
  rw [languageAll_append, languageAll_openSequence, languageAll_one]

theorem beginnings_followedBy (a b : Node) (n : Nat) :
    ((followedBy a b).run n).1.beginnings = a.beginnings + a.language * b.beginnings := by
  show beginningsAll (openSequence a ++ [b]) = _
  rw [beginningsAll_append, beginningsAll_openSequence, languageAll_openSequence, beginningsAll_one]

theorem language_or (a b : Node) (n : Nat) :
    ((or a b).run n).1.language = a.language + b.language := by
  show languageAny (openChoice a ++ [b]) = _
  rw [languageAny_append, languageAny_openChoice, languageAny_one]

theorem beginnings_or (a b : Node) (n : Nat) :
    ((or a b).run n).1.beginnings = a.beginnings + b.beginnings := by
  show 1 + beginningsAny (openChoice a ++ [b]) = _
  rw [beginningsAny_append, ← add_assoc, beginningsAny_openChoice, beginningsAny_one]

theorem language_pair (i : Nat) (written : Option Text) (a b : Node) :
    (Node.sequence i written [a, b]).language = a.language * b.language := by
  rw [language, languageAll, languageAll_one]

theorem beginnings_pair (i : Nat) (written : Option Text) (a b : Node) :
    (Node.sequence i written [a, b]).beginnings = a.beginnings + a.language * b.beginnings := by
  rw [beginnings, beginningsAll, beginningsAll_one]

theorem language_either (i : Nat) (a b : Node) :
    (Node.any i [a, b]).language = a.language + b.language := by
  rw [language, languageAny, languageAny_one]

theorem beginnings_either (i : Nat) (a b : Node) :
    (Node.any i [a, b]).beginnings = a.beginnings + b.beginnings := by
  rw [beginnings, beginningsAny, beginningsAny_one, add_eq_right_iff_le.mpr]
  exact (one_le_beginnings a).trans le_sup_left

end Typeahead.Node
