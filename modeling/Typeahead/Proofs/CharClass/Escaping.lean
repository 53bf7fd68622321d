import Typeahead.Proofs.CharSet.Complement
import Typeahead.Proofs.Pattern.Atoms

namespace Typeahead
open Pattern (isMeta readEscape readMember operator? opened dashesFirst JoinsRange Round Ranges
  ReadsClass OpenClass ClassTree)

namespace Pattern
variable {c : Char} {text : List Char}

theorem metaCharacters_lone : (metaCharacters.all fun c =>
    decide (c ∉ ['x', 'u', 'U', 'p', 'P']) && match loneEscape? c with
      | some (.char d) => decide (d = c)
      | _ => false) = true := by
  decide +kernel

theorem readEscape_meta (special : isMeta c = true) (text : List Char) :
    readEscape (c :: text) = .ok (.char c, text) := by
  have each := List.all_eq_true.mp metaCharacters_lone c (List.contains_iff_mem.mp special)
  obtain ⟨lone, alone⟩ := Bool.and_eq_true_iff.mp each
  rw [readEscape_lone (of_decide_eq_true lone)]
  split at alone
  · rename_i d escape
    rw [escape, of_decide_eq_true alone]
  · cases alone

theorem dashesFirst_plain (noDash : text.head? ≠ some '-') (noClosing : text.head? ≠ some ']')
    (negated : Bool) : dashesFirst negated text = (⟨negated, none, []⟩, text) := by
  cases text with
  | nil => rfl
  | cons c text =>
    have dash : ¬ c = '-' := by simpa using noDash
    unfold dashesFirst
    split
    · rename_i equal
      exact absurd (congrArg List.head? equal) noClosing
    · simp [dash]

end Pattern

namespace CharClass
variable {c d x : Char} {chars text rest : Text} {inner : OpenClass}

theorem escape_cases (c : Char) (text : Text) :
    isMeta c = true ∧ escape c ++ text = '\\' :: c :: text ∨
      isMeta c = false ∧ escape c ++ text = c :: text := by
  unfold escape
  cases special : isMeta c with
  | true => exact .inl ⟨rfl, rfl⟩
  | false => exact .inr ⟨rfl, rfl⟩

theorem readMember_escape (c : Char) (text : Text) :
    readMember .usual (escape c ++ text) = .ok (.char c, text) := by
  rcases escape_cases c text with ⟨special, written⟩ | ⟨bare, written⟩
  · rw [written]
    exact Pattern.readEscape_meta special text
  · have noSlash : c ≠ '\\' := by
      rintro rfl
      cases bare
    rw [written]
    unfold readMember
    split
    · rename_i equal
      cases equal
    · rename_i equal
      exact absurd (List.cons.inj equal).1 noSlash
    · rename_i equal
      obtain ⟨rfl, rfl⟩ := List.cons.inj equal
      rfl

-- What means something never stands alone in front.
theorem escape_head (special : isMeta d = true) (noSlash : d ≠ '\\') :
    (escape c ++ text).head? ≠ some d := by
  rcases escape_cases c text with ⟨_, written⟩ | ⟨bare, written⟩
  · rw [written]
    simpa using noSlash.symm
  · rw [written]
    rintro equal
    obtain rfl : c = d := by simpa using equal
    rw [bare] at special
    cases special

theorem escape_operator : operator? (escape c ++ text) = none := by
  rw [Option.eq_none_iff_forall_ne_some]
  rintro ⟨op, rest⟩ found
  obtain ⟨d, sign, equal⟩ := Pattern.operator?_eq found
  have signs : (['&', '-', '~'].all fun d => isMeta d && decide (d ≠ '\\')) = true := by decide
  obtain ⟨special, noSlash⟩ := Bool.and_eq_true_iff.mp (List.all_eq_true.mp signs d sign)
  exact escape_head special (of_decide_eq_true noSlash) (by rw [equal]; rfl)

theorem escapeAll_cons (c : Char) (chars text : Text) :
    escapeAll (c :: chars) ++ text = escape c ++ (escapeAll chars ++ text) := by
  rw [escapeAll, List.flatMap_cons, List.append_assoc]
  rfl

theorem escapeAll_lone (chars rest : Text) : ¬ JoinsRange (escapeAll chars ++ ']' :: rest) := by
  rintro ⟨after, equal, _⟩
  cases chars with
  | nil => cases equal
  | cons c chars =>
    rw [escapeAll_cons] at equal
    have head : (escape c ++ (escapeAll chars ++ ']' :: rest)).head? = some '-' := by rw [equal]; rfl
    exact escape_head (by decide) (by decide) head

def members (chars : Text) : List ClassTree := chars.map fun c => .leaf (.single c)

theorem reads_escapeAll (rest : Text) : ∀ (chars : Text) (inner : OpenClass), ReadsClass
    ⟨inner, [], escapeAll chars ++ ']' :: rest⟩
    (OpenClass.close { inner with items := inner.items ++ members chars }) rest
  | [], inner => by
    rw [members, List.map_nil, List.append_nil]
    exact .done
  | c :: chars, inner => by
    obtain ⟨next, more, behind⟩ :=
      List.exists_cons_of_ne_nil (l := escapeAll chars ++ ']' :: rest) (by simp)
    have member : Ranges (escape c ++ (escapeAll chars ++ ']' :: rest)) (.leaf (.single c))
        (escapeAll chars ++ ']' :: rest) := by
      have lone := escapeAll_lone chars rest
      have read := readMember_escape c (escapeAll chars ++ ']' :: rest)
      rw [behind] at lone read ⊢
      exact .lone read rfl lone
    have onward := reads_escapeAll rest chars (inner.push (.leaf (.single c)))
    rw [escapeAll_cons]
    refine .round (.member (escape_head (by decide) (by decide)) (escape_head (by decide) (by decide))
      escape_operator member) ?_
    simpa [OpenClass.push, members] using onward

def caretIf (negated : Bool) : Text := if negated then ['^'] else []

theorem opened_escapeAll (some' : chars ≠ []) (negated : Bool) (rest : Text) :
    opened (caretIf negated ++ (escapeAll chars ++ rest)) =
      (⟨negated, none, []⟩, escapeAll chars ++ rest) := by
  obtain ⟨c, chars, rfl⟩ := List.exists_cons_of_ne_nil some'
  rw [escapeAll_cons]
  have heads (d : Char) (special : isMeta d = true) (noSlash : d ≠ '\\') :
      (escape c ++ (escapeAll chars ++ rest)).head? ≠ some d := escape_head special noSlash
  have plain := Pattern.dashesFirst_plain (heads '-' (by decide) (by decide))
    (heads ']' (by decide) (by decide)) negated
  cases negated with
  | true => exact plain
  | false =>
    have noCaret := heads '^' (by decide) (by decide)
    cases written : escape c ++ (escapeAll chars ++ rest) with
    | nil => rw [written] at plain; exact plain
    | cons d text =>
      rw [written] at noCaret plain
      exact (Pattern.opened_bare (by simpa using noCaret) text).trans plain

theorem set?_of_reads {body : Text} {negated : Bool} {tree : ClassTree}
    (reads : ReadsClass ⟨(opened body).1, [], (opened body).2⟩ (.bracket negated tree) []) :
    CharClass.set? ⟨'[' :: body⟩ = some (tree.set.negateIf negated) := by
  have enough : body.length < ('[' :: body).length + 1 := by
    rw [List.length_cons]
    omega
  have read := (Pattern.readClass_iff enough).mpr reads
  simp only [CharClass.set?, Pattern.atom?, Pattern.readToken, read, Except.map, Pattern.Tree.oneChar?]

theorem setOfAll_members : ∀ (chars : Text) {found : CharSet}, found.Spaced →
    (ClassTree.setOfAll found (members chars)).Spaced ∧
      ∀ x, x ∈ ClassTree.setOfAll found (members chars) ↔ x ∈ found ∨ x ∈ chars
  | [], _, spaced => ⟨spaced, by simp [members, ClassTree.setOfAll]⟩
  | c :: chars, found, spaced => by
    obtain ⟨rest, mem⟩ := setOfAll_members chars (spaced.union (CharSet.spaced_single c))
    refine ⟨rest, fun x => (mem x).trans ?_⟩
    rw [CharSet.mem_union spaced.ordered (CharSet.spaced_single c).ordered, CharSet.mem_single,
      List.mem_cons, or_assoc]

theorem ofItems_members (chars : Text) : (ClassTree.ofItems (members chars)).set.Spaced ∧
    ∀ x, x ∈ (ClassTree.ofItems (members chars)).set ↔ x ∈ chars := by
  have none : ∀ x, x ∉ CharSet.empty := by simp [CharSet.mem_iff_covers, CharSet.Covers, CharSet.empty]
  rcases chars with _ | ⟨c, _ | ⟨d, chars⟩⟩
  · exact ⟨CharSet.spaced_empty, by simpa [members, ClassTree.ofItems, ClassTree.set] using none⟩
  · refine ⟨CharSet.spaced_single c, fun x => ?_⟩
    simpa [members, ClassTree.ofItems, ClassTree.set] using CharSet.mem_single
  · obtain ⟨spaced, mem⟩ := setOfAll_members (c :: d :: chars) CharSet.spaced_empty
    exact ⟨spaced, fun x => (mem x).trans (or_iff_right (none x))⟩

theorem escaped_set (some' : chars ≠ []) (negated : Bool) :
    ∃ s : CharSet, s.Spaced ∧ (∀ x, x ∈ s ↔ x ∈ chars) ∧
      CharClass.set? ⟨'[' :: (caretIf negated ++ (escapeAll chars ++ [']']))⟩ =
        some (s.negateIf negated) := by
  obtain ⟨spaced, mem⟩ := ofItems_members chars
  refine ⟨_, spaced, mem, set?_of_reads ?_⟩
  rw [opened_escapeAll some']
  exact reads_escapeAll [] chars ⟨negated, none, []⟩

theorem anyOf_set (some' : chars ≠ []) : ∃ made s, anyOf chars = .ok made ∧ made.set? = some s ∧
    ∀ x, x ∈ s ↔ x ∈ chars := by
  obtain ⟨s, _, mem, known⟩ := escaped_set some' false
  refine ⟨_, s, ?_, known, mem⟩
  rw [anyOf, if_neg (by simpa using some')]
  rfl

-- The characters on both sides of the surrogates are not excluded together.
def Astride (chars : Text) (x : Char) : Prop :=
  (CharSet.beforeSurrogates ∈ chars ∧ CharSet.behindSurrogates ∈ chars) ∧
    (x = CharSet.beforeSurrogates ∨ x = CharSet.behindSurrogates)

theorem noneOf_set (some' : chars ≠ []) : ∃ made s, noneOf chars = .ok made ∧ made.set? = some s ∧
    ∀ x, x ∈ s ↔ x ∉ chars ∨ Astride chars x := by
  obtain ⟨s, spaced, mem, known⟩ := escaped_set some' true
  refine ⟨_, s.complement, ?_, known, fun x => ?_⟩
  · rw [noneOf, if_neg (by simpa using some')]
    rfl
  · rw [CharSet.mem_complement spaced, mem, mem, mem, Astride]

theorem literal_set (c : Char) : ∃ s, (literal c).set? = some s ∧ ∀ x, x ∈ s ↔ x = c := by
  obtain ⟨s, _, mem, known⟩ := escaped_set (List.cons_ne_nil c []) false
  have text : '[' :: (caretIf false ++ (escapeAll [c] ++ [']'])) = (literal c).text := by
    simp [caretIf, escapeAll, literal]
  rw [text] at known
  exact ⟨s, known, fun x => (mem x).trans List.mem_singleton⟩

end CharClass
end Typeahead
