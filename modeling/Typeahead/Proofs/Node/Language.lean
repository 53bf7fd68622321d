import Mathlib.Computability.Language
import Typeahead.Node.Basic
import Typeahead.Proofs.Pattern.Atoms

namespace Typeahead

-- A variable and the part of the text it stood for.
structure Visit where
  node : Node
  span : Text.Span

namespace Node

mutual
def language : Node → Language Char
  | .sequence _ _ nodes => languageAll nodes
  | .any _ nodes => languageAny nodes
  | .single _ c => {text | ∃ s, c.set? = some s ∧ ∃ x ∈ s, text = [x]}
  | .var _ _ child => language child
  | .repetition _ child => KStar.kstar (language child)

def languageAll : List Node → Language Char
  | [] => 1
  | node :: rest => language node * languageAll rest

def languageAny : List Node → Language Char
  | [] => 0
  | node :: rest => language node + languageAny rest
end

inductive Derives : Node → Nat → Text → List Visit → Prop
  | single (known : c.set? = some s) (member : x ∈ s) : Derives (.single i c) offset [x] []
  | var (inner : Derives child offset text visits) :
      Derives (.var i info child) offset text
        (⟨.var i info child, ⟨offset, offset + Text.bytes text⟩⟩ :: visits)
  | any (branch : node ∈ nodes) (inner : Derives node offset text visits) :
      Derives (.any i nodes) offset text visits
  | sequenceNil : Derives (.sequence i written []) offset [] []
  | sequenceCons (first : Derives node offset a front)
      (others : Derives (.sequence i written nodes) (offset + Text.bytes a) b back) :
      Derives (.sequence i written (node :: nodes)) offset (a ++ b) (front ++ back)
  | repetitionNil : Derives (.repetition i child) offset [] []
  | repetitionCons (first : Derives child offset a front)
      (others : Derives (.repetition i child) (offset + Text.bytes a) b back) :
      Derives (.repetition i child) offset (a ++ b) (front ++ back)

inductive Begins : Node → Nat → Text → List Visit → Prop
  | singleNone : Begins (.single i c) offset [] []
  | single (known : c.set? = some s) (member : x ∈ s) : Begins (.single i c) offset [x] []
  | varNone : Begins (.var i info child) offset [] []
  | var (inner : Begins child offset text visits) :
      Begins (.var i info child) offset text
        (⟨.var i info child, ⟨offset, offset + Text.bytes text⟩⟩ :: visits)
  | anyNone : Begins (.any i nodes) offset [] []
  | any (branch : node ∈ nodes) (inner : Begins node offset text visits) :
      Begins (.any i nodes) offset text visits
  | sequenceNil : Begins (.sequence i written []) offset [] []
  -- the text ends inside the first child, or beyond it inside one of the others
  | inside (first : Begins node offset text visits) :
      Begins (.sequence i written (node :: nodes)) offset text visits
  | beyond (more : nodes ≠ []) (first : Derives node offset a front)
      (others : Begins (.sequence i written nodes) (offset + Text.bytes a) b back) :
      Begins (.sequence i written (node :: nodes)) offset (a ++ b) (front ++ back)
  | repetition (rounds : Derives (.repetition i child) offset a front)
      (last : Begins child (offset + Text.bytes a) b back) :
      Begins (.repetition i child) offset (a ++ b) (front ++ back)

section
variable {node child : Node} {nodes : List Node} {i offset : Nat} {written : Option Text} {a b text : Text}
  {visits : List Visit}

theorem mem_languageAny : text ∈ languageAny nodes ↔ ∃ node ∈ nodes, text ∈ node.language := by
  induction nodes with
  | nil => simp [languageAny]
  | cons node nodes ih => simp [languageAny, Language.mem_add, ih]

theorem languageAll_append (a b : List Node) : languageAll (a ++ b) = languageAll a * languageAll b := by
  induction a with
  | nil => rw [List.nil_append, languageAll, one_mul]
  | cons node a ih => rw [List.cons_append, languageAll, ih, languageAll, mul_assoc]

theorem kstar_append {language : Language Char} (left : a ∈ KStar.kstar language)
    (right : b ∈ KStar.kstar language) : a ++ b ∈ KStar.kstar language := by
  obtain ⟨as, rfl, eachA⟩ := left
  obtain ⟨bs, rfl, eachB⟩ := right
  refine ⟨as ++ bs, by simp, fun text member => ?_⟩
  cases List.mem_append.mp member with
  | inl member => exact eachA text member
  | inr member => exact eachB text member

theorem kstar_one {language : Language Char} (member : a ∈ language) : a ∈ KStar.kstar language :=
  ⟨[a], by simp, by simpa using member⟩

theorem Derives.mem_language (derives : Derives node offset text visits) :
    text ∈ node.language := by
  induction derives with
  | single known member => exact ⟨_, known, _, member, rfl⟩
  | var _ ih => exact ih
  | any branch _ ih => exact mem_languageAny.mpr ⟨_, branch, ih⟩
  | sequenceNil => exact Language.nil_mem_one
  | sequenceCons _ _ first others => exact Language.append_mem_mul first others
  | repetitionNil => exact Language.nil_mem_kstar _
  | repetitionCons _ _ first others => exact kstar_append (kstar_one first) others

theorem derives_repetition {texts : List Text}
    (each : ∀ text ∈ texts, ∀ offset, ∃ visits, Derives child offset text visits) :
    ∃ visits, Derives (.repetition i child) offset texts.flatten visits := by
  induction texts generalizing offset with
  | nil => exact ⟨[], .repetitionNil⟩
  | cons text texts ih =>
    obtain ⟨front, first⟩ := each text (by simp) offset
    obtain ⟨back, others⟩ := @ih (offset + Text.bytes text) fun text member =>
      each text (by simp [member])
    exact ⟨front ++ back, .repetitionCons first others⟩

mutual
theorem derives_of_mem : ∀ (node : Node) (text : Text) (offset : Nat), text ∈ node.language →
    ∃ visits, Derives node offset text visits
  | .sequence i written nodes, text, offset, member =>
    derives_of_mem_all i written nodes text offset member
  | .any i nodes, text, offset, member => derives_of_mem_any i nodes text offset member
  | .single _ _, _, _, ⟨_, known, _, member, rfl⟩ => ⟨[], .single known member⟩
  | .var _ _ child, text, offset, member => by
    obtain ⟨visits, inner⟩ := derives_of_mem child text offset member
    exact ⟨_, .var inner⟩
  | .repetition _ child, _, offset, ⟨texts, equal, each⟩ => by
    rw [equal]
    exact derives_repetition fun text member offset =>
      derives_of_mem child text offset (each text member)

theorem derives_of_mem_all (i : Nat) (written : Option Text) :
    ∀ (nodes : List Node) (text : Text) (offset : Nat), text ∈ languageAll nodes →
      ∃ visits, Derives (.sequence i written nodes) offset text visits
  | [], _, _, member => by
    obtain rfl := (Language.mem_one _).mp member
    exact ⟨[], .sequenceNil⟩
  | node :: nodes, text, offset, member => by
    obtain ⟨a, left, b, right, rfl⟩ := Language.mem_mul.mp member
    obtain ⟨front, first⟩ := derives_of_mem node a offset left
    obtain ⟨back, others⟩ := derives_of_mem_all i written nodes b (offset + Text.bytes a) right
    exact ⟨front ++ back, .sequenceCons first others⟩

theorem derives_of_mem_any (i : Nat) : ∀ (nodes : List Node) (text : Text) (offset : Nat),
    text ∈ languageAny nodes → ∃ visits, Derives (.any i nodes) offset text visits
  | node :: nodes, text, offset, .inl member => by
    obtain ⟨visits, inner⟩ := derives_of_mem node text offset member
    exact ⟨visits, .any (by simp) inner⟩
  | node :: nodes, text, offset, .inr member => by
    obtain ⟨visits, inner⟩ := derives_of_mem_any i nodes text offset member
    cases inner with
    | any branch inner => exact ⟨visits, .any (by simp [branch]) inner⟩
end

theorem mem_language_iff (offset : Nat) :
    text ∈ node.language ↔ ∃ visits, Derives node offset text visits :=
  ⟨derives_of_mem node text offset, fun ⟨_, derives⟩ => derives.mem_language⟩

end

section
variable {node child : Node} {nodes head tail : List Node} {i offset : Nat} {written : Option Text}
  {a b text : Text} {visits front back : List Visit}

theorem begins_round (last : Begins child offset text visits) :
    Begins (.repetition i child) offset text visits := by
  have none : Derives (.repetition i child) offset [] [] := .repetitionNil
  exact .repetition none last

mutual
theorem begins_nil : ∀ (node : Node) (offset : Nat), Begins node offset [] []
  | .sequence i written nodes, offset => begins_nil_sequence i written nodes offset
  | .any _ _, _ => .anyNone
  | .single _ _, _ => .singleNone
  | .var _ _ _, _ => .varNone
  | .repetition _ child, offset =>
    begins_round (begins_nil child offset)

theorem begins_nil_sequence (i : Nat) (written : Option Text) :
    ∀ (nodes : List Node) (offset : Nat), Begins (.sequence i written nodes) offset [] []
  | [], _ => .sequenceNil
  | node :: _, offset => .inside (begins_nil node offset)
end

theorem cut_append {p q : Text} (cut : a ++ b = p ++ q) :
    (∃ rest, a = p ++ rest) ∨ ∃ more, p = a ++ more ∧ b = more ++ q := by
  rcases List.append_eq_append_iff.mp cut with ⟨more, equal, rest⟩ | ⟨rest, equal, _⟩
  · exact .inr ⟨more, equal, rest⟩
  · exact .inl ⟨rest, equal⟩

theorem Derives.begins (derives : Derives node offset text visits) :
    ∀ a b, text = a ++ b → ∃ visits, Begins node offset a visits := by
  induction derives with
  | single known member =>
    intro either b cut
    rcases either with _ | ⟨c, a⟩
    · exact ⟨[], begins_nil _ _⟩
    · obtain ⟨rfl, rest⟩ := List.cons.inj cut
      obtain rfl := (List.append_eq_nil_iff.mp rest.symm).1
      exact ⟨[], .single known member⟩
  | var _ ih =>
    intro a b cut
    obtain ⟨visits, inner⟩ := ih a b cut
    exact ⟨_, .var inner⟩
  | any branch _ ih =>
    intro a b cut
    obtain ⟨visits, inner⟩ := ih a b cut
    exact ⟨visits, .any branch inner⟩
  | sequenceNil =>
    intro a b cut
    obtain rfl := (List.append_eq_nil_iff.mp cut.symm).1
    exact ⟨[], .sequenceNil⟩
  | sequenceCons first others ihFirst ihOthers =>
    rename_i node offset a front i written nodes b back
    intro p q cut
    rcases cut_append cut with ⟨rest, within⟩ | ⟨more, rfl, onward⟩
    · obtain ⟨visits, first⟩ := ihFirst p rest within
      exact ⟨visits, .inside first⟩
    · by_cases last : nodes = []
      · -- nothing comes after the first child: the text ends with it
        subst last
        cases others
        obtain ⟨visits, first⟩ := ihFirst a [] (by simp)
        obtain rfl := (List.append_eq_nil_iff.mp onward.symm).1
        exact ⟨visits, by rw [List.append_nil]; exact .inside first⟩
      · obtain ⟨visits, others⟩ := ihOthers more q onward
        exact ⟨_, .beyond last first others⟩
  | repetitionNil =>
    intro a b cut
    obtain rfl := (List.append_eq_nil_iff.mp cut.symm).1
    exact ⟨[], begins_nil _ _⟩
  | repetitionCons first others ihFirst ihOthers =>
    intro p q cut
    rcases cut_append cut with ⟨rest, within⟩ | ⟨more, rfl, onward⟩
    · obtain ⟨visits, last⟩ := ihFirst p rest within
      exact ⟨visits, begins_round last⟩
    · obtain ⟨visits, others⟩ := ihOthers more q onward
      cases others with
      | repetition rounds last =>
        rw [Nat.add_assoc, ← Text.bytes_append] at last
        rw [← List.append_assoc]
        exact ⟨_, .repetition (.repetitionCons first rounds) last⟩

theorem Begins.shortened (begins : Begins node offset text visits) :
    ∀ a b, text = a ++ b → ∃ visits, Begins node offset a visits := by
  induction begins with
  | singleNone | varNone | anyNone | sequenceNil =>
    intro a b cut
    obtain rfl := (List.append_eq_nil_iff.mp cut.symm).1
    exact ⟨[], begins_nil _ _⟩
  | single known member => exact (Derives.single known member).begins
  | var _ ih =>
    intro a b cut
    obtain ⟨visits, inner⟩ := ih a b cut
    exact ⟨_, .var inner⟩
  | any branch _ ih =>
    intro a b cut
    obtain ⟨visits, inner⟩ := ih a b cut
    exact ⟨visits, .any branch inner⟩
  | inside _ ih =>
    intro a b cut
    obtain ⟨visits, first⟩ := ih a b cut
    exact ⟨visits, .inside first⟩
  | beyond more first _ ih =>
    intro p q cut
    rcases cut_append cut with ⟨rest, within⟩ | ⟨extra, rfl, onward⟩
    · obtain ⟨visits, first⟩ := first.begins p rest within
      exact ⟨visits, .inside first⟩
    · obtain ⟨visits, others⟩ := ih extra q onward
      exact ⟨_, .beyond more first others⟩
  | repetition rounds _ ih =>
    intro p q cut
    rcases cut_append cut with ⟨rest, within⟩ | ⟨extra, rfl, onward⟩
    · exact rounds.begins p rest within
    · obtain ⟨visits, last⟩ := ih extra q onward
      exact ⟨_, .repetition rounds last⟩

-- Sequences cut in two, as the emission of a started sequence cuts them

theorem begins_append_left (begins : Begins (.sequence i written head) offset text visits) :
    Begins (.sequence i written (head ++ tail)) offset text visits := by
  induction head generalizing offset text visits with
  | nil =>
    cases begins
    exact begins_nil _ _
  | cons node head ih =>
    cases begins with
    | inside first => exact .inside first
    | beyond more first others => exact .beyond (by simp [more]) first (ih others)

theorem begins_append_right (some' : tail ≠ [])
    (finished : Derives (.sequence i written head) offset a front)
    (begins : Begins (.sequence i written tail) (offset + Text.bytes a) b back) :
    Begins (.sequence i written (head ++ tail)) offset (a ++ b) (front ++ back) := by
  induction head generalizing offset a front with
  | nil =>
    cases finished
    exact begins
  | cons node head ih =>
    cases finished with
    | sequenceCons first others =>
      rw [Text.bytes_append, ← Nat.add_assoc] at begins
      rw [List.append_assoc, List.append_assoc]
      exact .beyond (by simp [some']) first (ih others begins)

theorem begins_append_cases (some' : head ≠ [])
    (begins : Begins (.sequence i written (head ++ tail)) offset text visits) :
    Begins (.sequence i written head) offset text visits ∨
      ∃ a b front back, text = a ++ b ∧ visits = front ++ back ∧
        Derives (.sequence i written head) offset a front ∧
        Begins (.sequence i written tail) (offset + Text.bytes a) b back := by
  induction head generalizing offset text visits with
  | nil => exact absurd rfl some'
  | cons node head ih =>
    cases begins with
    | inside first => exact .inl (.inside first)
    | beyond more first others =>
      rename_i a front b back
      by_cases last : head = []
      · subst last
        have finished := Derives.sequenceCons first (.sequenceNil : Derives (.sequence i written []) _ [] [])
        rw [List.append_nil, List.append_nil] at finished
        exact .inr ⟨a, b, front, back, rfl, rfl, finished, others⟩
      · rcases ih last others with inside | ⟨c, d, middle, end', rfl, rfl, finished, begins⟩
        · exact .inl (.beyond last first inside)
        · rw [Nat.add_assoc, ← Text.bytes_append] at begins
          exact .inr ⟨a ++ c, d, front ++ middle, end', by simp, by simp,
            .sequenceCons first finished, begins⟩

end

section
variable {node child : Node} {nodes head tail : List Node} {i offset : Nat} {written : Option Text}
  {info : Variable} {c : CharClass} {text : Text} {visits : List Visit}

theorem derives_var_iff : Derives (.var i info child) offset text visits ↔
    ∃ below, Derives child offset text below ∧
      visits = ⟨.var i info child, ⟨offset, offset + Text.bytes text⟩⟩ :: below := by
  constructor
  · intro derives
    cases derives with
    | var inner => exact ⟨_, inner, rfl⟩
  · intro given
    obtain ⟨below, inner, rfl⟩ := given
    exact .var inner

theorem derives_sequence_nil_iff : Derives (.sequence i written []) offset text visits ↔
    text = [] ∧ visits = [] := by
  constructor
  · intro derives
    cases derives
    exact ⟨rfl, rfl⟩
  · intro given
    obtain ⟨rfl, rfl⟩ := given
    exact .sequenceNil

theorem derives_sequence_cons_iff : Derives
    (.sequence i written (node :: nodes)) offset text visits ↔
    ∃ a b front back, Derives node offset a front ∧
      Derives (.sequence i written nodes) (offset + Text.bytes a) b back ∧
      text = a ++ b ∧ visits = front ++ back := by
  constructor
  · intro derives
    cases derives with
    | sequenceCons first others => exact ⟨_, _, _, _, first, others, rfl, rfl⟩
  · intro given
    obtain ⟨a, b, front, back, first, others, rfl, rfl⟩ := given
    exact .sequenceCons first others

theorem derives_any_nil_iff : Derives (.any i []) offset text visits ↔ False := by
  constructor
  · intro derives
    cases derives with
    | any branch => cases branch
  · exact False.elim

theorem derives_any_cons_iff : Derives (.any i (node :: nodes)) offset text visits ↔
    Derives node offset text visits ∨ Derives (.any i nodes) offset text visits := by
  constructor
  · intro derives
    cases derives with
    | any branch inner =>
      rcases List.mem_cons.mp branch with rfl | branch
      · exact .inl inner
      · exact .inr (.any branch inner)
  · intro either
    cases either with
    | inl inner => exact .any (by simp) inner
    | inr others =>
      cases others with
      | any branch inner => exact .any (by simp [branch]) inner

theorem begins_single_iff : Begins (.single i c) offset text visits ↔
    Derives (.single i c) offset text visits ∨ text = [] ∧ visits = [] := by
  constructor
  · intro begins
    cases begins with
    | singleNone => exact .inr ⟨rfl, rfl⟩
    | single known member => exact .inl (.single known member)
  · intro either
    rcases either with derives | ⟨rfl, rfl⟩
    · cases derives with
      | single known member => exact .single known member
    · exact .singleNone

theorem begins_var_iff : Begins (.var i info child) offset text visits ↔
    (∃ below, Begins child offset text below ∧
      visits = ⟨.var i info child, ⟨offset, offset + Text.bytes text⟩⟩ :: below) ∨
    text = [] ∧ visits = [] := by
  constructor
  · intro begins
    cases begins with
    | varNone => exact .inr ⟨rfl, rfl⟩
    | var inner => exact .inl ⟨_, inner, rfl⟩
  · intro either
    rcases either with ⟨below, inner, rfl⟩ | ⟨rfl, rfl⟩
    · exact .var inner
    · exact .varNone

theorem begins_any_nil_iff : Begins (.any i []) offset text visits ↔
    False ∨ text = [] ∧ visits = [] := by
  constructor
  · intro begins
    cases begins with
    | anyNone => exact .inr ⟨rfl, rfl⟩
    | any branch => cases branch
  · intro either
    rcases either with never | ⟨rfl, rfl⟩
    · exact never.elim
    · exact .anyNone

theorem begins_any_cons_iff : Begins (.any i (node :: nodes)) offset text visits ↔
    Begins node offset text visits ∨ Begins (.any i nodes) offset text visits := by
  constructor
  · intro begins
    cases begins with
    | anyNone => exact .inr .anyNone
    | any branch inner =>
      rcases List.mem_cons.mp branch with rfl | branch
      · exact .inl inner
      · exact .inr (.any branch inner)
  · intro either
    cases either with
    | inl inner => exact .any (by simp) inner
    | inr others =>
      cases others with
      | anyNone => exact .anyNone
      | any branch inner => exact .any (by simp [branch]) inner

theorem begins_sequence_nil_iff : Begins (.sequence i written []) offset text visits ↔
    text = [] ∧ visits = [] := by
  constructor
  · intro begins
    cases begins
    exact ⟨rfl, rfl⟩
  · intro given
    obtain ⟨rfl, rfl⟩ := given
    exact .sequenceNil

theorem begins_sequence_one_iff : Begins (.sequence i written [node]) offset text visits ↔
    Begins node offset text visits := by
  constructor
  · intro begins
    cases begins with
    | inside first => exact first
    | beyond more => exact absurd rfl more
  · exact .inside

theorem begins_append_iff (someHead : head ≠ []) (someTail : tail ≠ []) :
    Begins (.sequence i written (head ++ tail)) offset text visits ↔
      (∃ a b front back, Derives (.sequence i written head) offset a front ∧
        Begins (.sequence i written tail) (offset + Text.bytes a) b back ∧
        text = a ++ b ∧ visits = front ++ back) ∨
      Begins (.sequence i written head) offset text visits := by
  constructor
  · intro begins
    rcases begins_append_cases someHead begins with inside | ⟨a, b, front, back, rfl, rfl, first, second⟩
    · exact .inr inside
    · exact .inl ⟨a, b, front, back, first, second, rfl, rfl⟩
  · intro either
    rcases either with ⟨a, b, front, back, first, second, rfl, rfl⟩ | inside
    · exact begins_append_right someTail first second
    · exact begins_append_left inside

theorem begins_repetition_iff : Begins (.repetition i child) offset text visits ↔
    ∃ a b front back, Derives (.repetition i child) offset a front ∧
      Begins child (offset + Text.bytes a) b back ∧ text = a ++ b ∧ visits = front ++ back := by
  constructor
  · intro begins
    cases begins with
    | repetition rounds last => exact ⟨_, _, _, _, rounds, last, rfl, rfl⟩
  · intro given
    obtain ⟨a, b, front, back, rounds, last, rfl, rfl⟩ := given
    exact .repetition rounds last

end

-- A leaf that has a character, and a choice that has a branch.
def IsLive : Node → Prop
  | .single _ c => ∃ s, c.set? = some s ∧ ∃ x, x ∈ s
  | .any _ nodes => nodes ≠ []
  | _ => True

def Live (root : Node) : Prop := ∀ node ∈ root.walk, node.IsLive

section
variable {node child : Node} {nodes : List Node} {i offset : Nat} {written : Option Text}
  {info : Variable} {text : Text} {visits : List Visit}

theorem self_mem_walk (node : Node) : node ∈ node.walk := by
  cases node <;> simp [walk]

theorem mem_walkAll : node ∈ walkAll nodes ↔ ∃ child ∈ nodes, node ∈ child.walk := by
  induction nodes with
  | nil => simp [walkAll]
  | cons child nodes ih => simp [walkAll, ih]

theorem mem_walk_child (below : child ∈ node.children) : child.walk ⊆ node.walk := by
  intro other member
  cases node with
  | sequence i written nodes =>
    exact List.mem_cons_of_mem _ (mem_walkAll.mpr ⟨child, below, member⟩)
  | any i nodes => exact List.mem_cons_of_mem _ (mem_walkAll.mpr ⟨child, below, member⟩)
  | single i c => cases below
  | var i info child' =>
    obtain rfl := List.mem_singleton.mp below
    exact List.mem_cons_of_mem _ member
  | repetition i child' =>
    obtain rfl := List.mem_singleton.mp below
    exact List.mem_cons_of_mem _ member

theorem Live.below (live : node.Live) (member : child ∈ node.children) : child.Live :=
  fun other inside => live other (mem_walk_child member inside)

mutual
theorem Live.productive : ∀ node : Node, node.Live → ∃ text, text ∈ node.language
  | .sequence i written nodes, live =>
    productiveAll nodes fun child below => live.below below
  | .any i [], live => absurd rfl (live _ (self_mem_walk _))
  | .any i (node :: nodes), live => by
    obtain ⟨text, member⟩ := Live.productive node (live.below (by simp [children]))
    exact ⟨text, .inl member⟩
  | .single i c, live => by
    obtain ⟨s, known, x, member⟩ := live _ (self_mem_walk _)
    exact ⟨[x], s, known, x, member, rfl⟩
  | .var i info child, live => Live.productive child (live.below (by simp [children]))
  | .repetition i child, _ => ⟨[], Language.nil_mem_kstar _⟩

theorem productiveAll : ∀ nodes : List Node, (∀ node ∈ nodes, node.Live) →
    ∃ text, text ∈ languageAll nodes
  | [], _ => ⟨[], Language.nil_mem_one⟩
  | node :: nodes, live => by
    obtain ⟨a, first⟩ := Live.productive node (live node (by simp))
    obtain ⟨b, others⟩ := productiveAll nodes fun other member => live other (by simp [member])
    exact ⟨a ++ b, Language.append_mem_mul first others⟩
end

theorem Live.sequence_tail (live : Live (.sequence i written (node :: nodes))) :
    Live (.sequence i written nodes) := by
  intro other member
  rcases List.mem_cons.mp member with rfl | member
  · trivial
  · obtain ⟨child, below, member⟩ := mem_walkAll.mp member
    exact live other (List.mem_cons_of_mem _ (mem_walkAll.mpr ⟨child, by simp [below], member⟩))

theorem Begins.finish (begins : Begins node offset text visits) (live : node.Live) :
    ∃ rest, text ++ rest ∈ node.language := by
  induction begins with
  | singleNone | varNone | anyNone | sequenceNil => exact Live.productive _ live
  | single known member => exact ⟨[], _, known, _, member, rfl⟩
  | var _ ih => exact ih (live.below (by simp [children]))
  | any branch _ ih =>
    obtain ⟨rest, member⟩ := ih (live.below branch)
    exact ⟨rest, mem_languageAny.mpr ⟨_, branch, member⟩⟩
  | inside _ ih =>
    rename_i node _ _ _ i written nodes _
    obtain ⟨rest, member⟩ := ih (live.below (by simp [children]))
    obtain ⟨others, member'⟩ := productiveAll nodes fun other among =>
      live.below (by simp [children, among])
    refine ⟨rest ++ others, ?_⟩
    rw [← List.append_assoc]
    exact Language.append_mem_mul member member'
  | beyond _ first _ ih =>
    obtain ⟨rest, member⟩ := ih live.sequence_tail
    refine ⟨rest, ?_⟩
    rw [List.append_assoc]
    exact Language.append_mem_mul first.mem_language member
  | repetition rounds _ ih =>
    obtain ⟨rest, member⟩ := ih (live.below (by simp [children]))
    refine ⟨rest, ?_⟩
    rw [List.append_assoc]
    exact kstar_append rounds.mem_language (kstar_one member)

-- Where a variable was visited, any other text of it could have been entered.
structure Reenters (node : Node) (offset : Nat) (text : Text) (visit : Visit) : Prop where
  variable' : visit.node.asVariable.isSome
  within : visit.node ∈ node.walk
  cut : ∃ before after, text = before ++ after ∧ visit.span.start = offset + Text.bytes before ∧
    ∀ other ∈ visit.node.language, ∃ rest, before ++ other ++ rest ∈ node.language

theorem reenters_self (text : Text) :
    Reenters (.var i info child) offset text
      ⟨.var i info child, ⟨offset, offset + Text.bytes text⟩⟩ :=
  ⟨rfl, self_mem_walk _, [], text, rfl, rfl, fun _ member => ⟨[], by simpa using member⟩⟩

namespace Reenters
variable {part : Node} {within after a b : Text} {visit : Visit}

-- From a part of a node to the node: what comes before the part is kept, and something can follow.
theorem lift (before : Text) (reenters : Reenters part (offset + Text.bytes before) within visit)
    (inside : visit.node.asVariable.isSome → visit.node ∈ part.walk → visit.node ∈ node.walk)
    (follow : ∀ own ∈ part.language, ∃ rest, before ++ own ++ rest ∈ node.language) :
    Reenters node offset (before ++ within) visit := by
  obtain ⟨variable', member, front, back, rfl, start, each⟩ := reenters
  refine ⟨variable', inside variable' member, before ++ front, back, by simp, ?_, ?_⟩
  · rw [start, Text.bytes_append, Nat.add_assoc]
  · intro other member
    obtain ⟨rest, whole⟩ := each other member
    obtain ⟨rest', whole'⟩ := follow _ whole
    exact ⟨rest ++ rest', by simpa using whole'⟩

theorem extend (reenters : Reenters node offset a visit) (b : Text) :
    Reenters node offset (a ++ b) visit := by
  obtain ⟨variable', member, front, back, rfl, start, each⟩ := reenters
  exact ⟨variable', member, front, back ++ b, by simp, start, each⟩

theorem of_child (below : child ∈ node.children)
    (follow : ∀ own ∈ child.language, ∃ rest, own ++ rest ∈ node.language)
    (reenters : Reenters child offset text visit) : Reenters node offset text visit :=
  lift [] reenters (fun _ member => mem_walk_child below member) follow

theorem var (reenters : Reenters child offset text visit) :
    Reenters (.var i info child) offset text visit := by
  refine reenters.of_child (by simp [children]) fun own member => ⟨[], ?_⟩
  rw [List.append_nil]
  exact member

theorem any (branch : child ∈ nodes) (reenters : Reenters child offset text visit) :
    Reenters (.any i nodes) offset text visit := by
  refine reenters.of_child branch fun own member => ⟨[], ?_⟩
  rw [List.append_nil]
  exact mem_languageAny.mpr ⟨child, branch, member⟩

theorem first (live : Live (.sequence i written (node :: nodes)))
    (reenters : Reenters node offset text visit) :
    Reenters (.sequence i written (node :: nodes)) offset text visit := by
  obtain ⟨rest, productive⟩ := productiveAll nodes fun other among =>
    live.below (by simp [children, among])
  exact reenters.of_child (by simp [children])
    fun own member => ⟨rest, Language.append_mem_mul member productive⟩

theorem others (finished : a ∈ node.language)
    (reenters : Reenters (.sequence i written nodes) (offset + Text.bytes a) b visit) :
    Reenters (.sequence i written (node :: nodes)) offset (a ++ b) visit := by
  refine reenters.lift a ?_ fun own member => ⟨[], ?_⟩
  · intro variable' member
    cases List.mem_cons.mp member with
    | inl equal =>
      rw [equal] at variable'
      cases variable'
    | inr member => exact List.mem_cons_of_mem _ (List.mem_append_right _ member)
  · rw [List.append_nil]
    exact Language.append_mem_mul finished member

theorem round (finished : a ∈ (Node.repetition i child).language)
    (reenters : Reenters child (offset + Text.bytes a) b visit) :
    Reenters (.repetition i child) offset (a ++ b) visit := by
  refine reenters.lift a (fun _ member => mem_walk_child (by simp [children]) member)
    fun own member => ⟨[], ?_⟩
  rw [List.append_nil]
  exact kstar_append finished (kstar_one member)

theorem rounds (finished : a ∈ child.language)
    (reenters : Reenters (.repetition i child) (offset + Text.bytes a) b visit) :
    Reenters (.repetition i child) offset (a ++ b) visit := by
  refine reenters.lift a (fun _ member => member) fun own member => ⟨[], ?_⟩
  rw [List.append_nil]
  exact kstar_append (kstar_one finished) member

end Reenters

theorem Derives.reenters {visit : Visit} (derives : Derives node offset text visits)
    (live : node.Live)
    (visited : visit ∈ visits) : Reenters node offset text visit := by
  induction derives with
  | single => cases visited
  | var inner ih =>
    rcases List.mem_cons.mp visited with rfl | visited
    · exact reenters_self _
    · exact (ih (live.below (by simp [children])) visited).var
  | any branch _ ih => exact (ih (live.below branch) visited).any branch
  | sequenceNil => cases visited
  | sequenceCons first others ihFirst ihOthers =>
    cases List.mem_append.mp visited with
    | inl visited => exact ((ihFirst (live.below (by simp [children])) visited).first live).extend _
    | inr visited => exact (ihOthers live.sequence_tail visited).others first.mem_language
  | repetitionNil => cases visited
  | repetitionCons first others ihFirst ihOthers =>
    cases List.mem_append.mp visited with
    | inl visited =>
      have inner := ihFirst (live.below (by simp [children])) visited
      exact (Reenters.round (Language.nil_mem_kstar _) (a := []) inner).extend _
    | inr visited => exact (ihOthers live visited).rounds first.mem_language

theorem Begins.reenters {visit : Visit} (begins : Begins node offset text visits) (live : node.Live)
    (visited : visit ∈ visits) : Reenters node offset text visit := by
  induction begins with
  | singleNone | single | varNone | anyNone | sequenceNil => cases visited
  | var inner ih =>
    rcases List.mem_cons.mp visited with rfl | visited
    · exact reenters_self _
    · exact (ih (live.below (by simp [children])) visited).var
  | any branch _ ih => exact (ih (live.below branch) visited).any branch
  | inside first ih => exact (ih (live.below (by simp [children])) visited).first live
  | beyond more first others ih =>
    cases List.mem_append.mp visited with
    | inl visited =>
      exact ((first.reenters (live.below (by simp [children])) visited).first live).extend _
    | inr visited => exact (ih live.sequence_tail visited).others first.mem_language
  | repetition rounds last ih =>
    cases List.mem_append.mp visited with
    | inl visited => exact (rounds.reenters live visited).extend _
    | inr visited => exact (ih (live.below (by simp [children])) visited).round rounds.mem_language

end
end Node
end Typeahead
