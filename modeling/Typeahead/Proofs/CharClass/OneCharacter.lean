import Typeahead.Proofs.CharClass.Straying
import Typeahead.Proofs.Pattern.Atoms

namespace Typeahead.CharClass
open Pattern (Atom Look Move Place Tree readToken readEscape readProperty readClass Item)

-- One item wherever it stands, which moves over exactly one character.
def OneCharacter (text : Text) : Prop :=
  ∃ tree s, (∀ more fuel, (text ++ more).length < fuel →
    readToken .usual fuel (text ++ more) = .ok (some (.item tree, more))) ∧
    (Pattern.ofTree tree).move = .step s

section
variable {text rest body : Text} {tree : Tree} {made : CharClass} {atom : Atom} {c : Char}

theorem look_ne_step (l : Look) (s : CharSet) : Move.look l ≠ .step s := by
  have somewhere : ∃ a : Place, l.holds a.before a.rest = true := by
    cases l with
    | textStart => exact ⟨⟨none, [], 0⟩, rfl⟩
    | textEnd => exact ⟨⟨none, [], 0⟩, rfl⟩
    | wordStart => exact ⟨⟨none, ['a'], 0⟩, by decide +kernel⟩
    | wordEnd => exact ⟨⟨some 'a', [], 0⟩, by decide +kernel⟩
    | wordEdge => exact ⟨⟨some 'a', [], 0⟩, by decide +kernel⟩
    | noWordEdge => exact ⟨⟨none, [], 0⟩, rfl⟩
  obtain ⟨a, holds⟩ := somewhere
  intro equal
  have stays : Move.look l a a [] := ⟨rfl, rfl, holds⟩
  rw [equal] at stays
  obtain ⟨_, x, rest, here, _, after⟩ := stays
  have shorter := congrArg (fun b : Place => b.rest.length) after
  simp only [Place.after, here, List.length_cons] at shorter
  omega

theorem oneCharacter_iff
    (read : readToken .usual (text.length + 1) text = .ok (some (.item tree, rest))) :
    OneCharacter text ↔ rest = [] ∧ tree.oneChar?.isSome := by
  have item := Pattern.readToken_item (Nat.lt_succ_self _) read
  constructor
  · intro given
    obtain ⟨other, s, reads, steps⟩ := given
    have again := reads [] (text.length + 1) (by simp)
    rw [List.append_nil, read] at again
    obtain ⟨equal, rfl⟩ : Pattern.Token.item tree = .item other ∧ rest = [] := by simpa using again
    obtain rfl := Pattern.Token.item.inj equal
    refine ⟨rfl, ?_⟩
    rcases item.kind with one | ⟨l, rfl⟩
    · exact one
    · exact absurd steps (look_ne_step l s)
  · intro given
    obtain ⟨rfl, one⟩ := given
    obtain ⟨s, one⟩ := Option.isSome_iff_exists.mp one
    have atom : Pattern.IsAtom text s tree := ⟨one, item.ordered s one, item.further⟩
    exact ⟨tree, s, item.further, atom.pattern_eq.1⟩

theorem Accepted.token {c : Char} (accepted : Accepted (c :: text) made) :
    ∃ found, readToken .usual ((c :: text).length + 1) (c :: text) = .ok found := by
  obtain ⟨parsed, read⟩ := accepted.reads
  obtain ⟨r, loop, _⟩ := Pattern.bind_eq_ok read
  obtain ⟨found, token, _⟩ := Pattern.bind_eq_ok loop
  exact ⟨found, token⟩

theorem Accepted.bracket (accepted : Accepted ('[' :: body) made) :
    OneCharacter ('[' :: body) ↔ strays .apart 0 ('[' :: body) = false := by
  obtain ⟨found, token⟩ := accepted.token
  obtain ⟨⟨tree, rest⟩, read, _⟩ := Pattern.map_eq_ok token
  have reads := (Pattern.readClass_iff (Nat.lt_succ_of_lt (Nat.lt_succ_self _))).mp read
  obtain ⟨negated, inner, rfl⟩ := reads.bracket
  have item : readToken .usual (('[' :: body).length + 1) ('[' :: body) =
      .ok (some (.item (.bracket negated inner), rest)) := by
    rw [readToken, read]
    rfl
  obtain ⟨spot, fits, onward⟩ := onward_opened body
  have level : Level spot ⟨(Pattern.opened body).1, [], (Pattern.opened body).2⟩ (some []) :=
    ⟨fits, accepted.scan.symm.trans (onward.scan 1)⟩
  rw [oneCharacter_iff item, (onward_opening (by decide) 0).1, onward.strays, ← level.reads reads]
  exact ⟨fun both => both.1, fun equal => ⟨equal, rfl⟩⟩

theorem readProperty_braced {negated : Bool} {name : Text} {s : CharSet} (without : '}' ∉ name)
    (read : readProperty negated ('{' :: (name ++ '}' :: body)) = .ok (s, rest)) : rest = body := by
  simp only [readProperty, Pattern.splitAt?_append without] at read
  split at read
  · exact (Prod.mk.inj (Except.ok.inj read)).2.symm
  · cases read

theorem readProperty_letter {negated : Bool} {s : CharSet} (noBrace : c ≠ '{')
    (read : readProperty negated (c :: body) = .ok (s, rest)) : rest = body := by
  unfold readProperty at read
  split at read
  · cases read
  · rename_i equal
    exact absurd (List.cons.inj equal).1 noBrace
  · rename_i d after _ equal
    obtain ⟨rfl, rfl⟩ := List.cons.inj equal
    split at read
    · cases read
    · simp only at read
      split at read
      · exact (Prod.mk.inj (Except.ok.inj read)).2.symm
      · cases read

-- What is measured as an escape of one character is a condition on a word only if that character is
-- an angle bracket.
theorem loneEscape_kind : ∀ n < 128, isLone (Char.ofNat n) →
    Char.ofNat n ∉ ['x', 'u', 'U', 'p', 'P'] ∧
      (Pattern.loneEscape? (Char.ofNat n)).all fun atom => (Pattern.atomTree atom).oneChar?.isSome =
        (Char.ofNat n ≠ '<' && Char.ofNat n ≠ '>') := by
  decide +kernel

theorem isLone_kind (lone : isLone c = true) : c ∉ ['x', 'u', 'U', 'p', 'P'] ∧
    ∀ atom, Pattern.loneEscape? c = some atom →
      ((Pattern.atomTree atom).oneChar?.isSome ↔ c ≠ '<' ∧ c ≠ '>') := by
  have kind := loneEscape_kind c.toNat (isLone_ascii lone)
  rw [Char.ofNat_toNat] at kind
  obtain ⟨others, all⟩ := kind lone
  refine ⟨others, fun atom escape => ?_⟩
  rw [escape] at all
  simp only [Option.all_some, decide_eq_true_eq] at all
  rw [all]
  simp

theorem readEscape_property {p : Char} (property : p ∈ ['p', 'P'])
    (read : readEscape (p :: body) = .ok (atom, rest)) :
    ∃ negated s, atom = .set s ∧ readProperty negated body = .ok (s, rest) := by
  simp only [List.mem_cons, List.not_mem_nil, or_false] at property
  rcases property with rfl | rfl
  · obtain ⟨⟨s, rest'⟩, inner, equal⟩ := Pattern.map_eq_ok read
    obtain ⟨rfl, rfl⟩ := Prod.mk.inj equal
    exact ⟨false, s, rfl, inner⟩
  · obtain ⟨⟨s, rest'⟩, inner, equal⟩ := Pattern.map_eq_ok read
    obtain ⟨rfl, rfl⟩ := Prod.mk.inj equal
    exact ⟨true, s, rfl, inner⟩

theorem Accepted.escape (accepted : Accepted ('\\' :: body) made) :
    ∃ atom, readEscape body = .ok (atom, []) ∧
      ((Pattern.atomTree atom).oneChar?.isSome ↔ body ≠ ['<'] ∧ body ≠ ['>']) := by
  obtain ⟨found, token⟩ := accepted.token
  obtain ⟨⟨atom, rest⟩, within, _⟩ := Pattern.map_eq_ok token
  have read : readEscape body = .ok (atom, rest) := within
  cases accepted.measured with
  | @lone c _ alone =>
    obtain ⟨others, kind⟩ := isLone_kind alone
    have known := read
    rw [Pattern.readEscape_lone others] at known
    cases escape : Pattern.loneEscape? c with
    | none =>
      rw [escape] at known
      cases known
    | some made =>
      rw [escape] at known
      obtain ⟨rfl, rfl⟩ : made = atom ∧ [] = rest := by simpa using known
      exact ⟨made, read, by rw [kind _ escape]; simp⟩
  | braced property without =>
    obtain ⟨negated, s, rfl, inner⟩ := readEscape_property property read
    obtain rfl := readProperty_braced without inner
    exact ⟨_, read, fun _ => ⟨nofun, nofun⟩, fun _ => rfl⟩
  | letter property noBrace =>
    obtain ⟨negated, s, rfl, inner⟩ := readEscape_property property read
    obtain rfl := readProperty_letter noBrace inner
    exact ⟨_, read, fun _ => ⟨nofun, nofun⟩, fun _ => rfl⟩

theorem Accepted.dot (accepted : Accepted (c :: body) made)
    (noBracket : c ≠ '[') (noSlash : c ≠ '\\') :
    c = '.' ∧ body = [] := by
  cases accepted.measured with
  | dot => exact ⟨rfl, rfl⟩
  | bracket => exact absurd rfl noBracket
  | lone | braced | letter => exact absurd rfl noSlash

-- Class text stands for one character unless it is a condition on a word or the scan for its closing
-- bracket strays: at a `]` after `[^^`, or at a range that ends in `[`.
theorem ofText_oneCharacter (accepted : ofText text = .ok made) :
    OneCharacter text ↔
      text ≠ "\\<".toList ∧ text ≠ "\\>".toList ∧ strays .apart 0 text = false := by
  have known := accepted_of_ofText accepted
  obtain ⟨_, _, measured, _⟩ := known.covers
  cases text with
  | nil => cases measured
  | cons c body =>
    by_cases bracket : c = '['
    · subst bracket
      rw [known.bracket]
      simp
    · by_cases slash : c = '\\'
      · subst slash
        obtain ⟨atom, read, kind⟩ := known.escape
        have item : readToken .usual (('\\' :: body).length + 1) ('\\' :: body) =
            .ok (some (.item (Pattern.atomTree atom), [])) := by
          show Except.map _ (readEscape body) = _
          rw [read]
          rfl
        rw [oneCharacter_iff item, kind, strays_escape read]
        simp [strays]
      · obtain ⟨rfl, rfl⟩ := known.dot bracket slash
        have item : readToken .usual (['.'].length + 1) ['.'] =
            .ok (some (.item (.set Pattern.dot), [])) := rfl
        rw [oneCharacter_iff item]
        simp [Tree.oneChar?, strays, Spot.parts]

-- Accepted, though the bracket is closed before the last character.
theorem carets_stray :
    ofText "[^^]]".toList = .ok ⟨"[^^]]".toList⟩ ∧ ¬ OneCharacter "[^^]]".toList := by
  have accepted : ofText "[^^]]".toList = .ok ⟨"[^^]]".toList⟩ := by
    have made : (ofText "[^^]]".toList).toOption = some ⟨"[^^]]".toList⟩ := by decide +kernel
    cases found : ofText "[^^]]".toList with
    | error cause => rw [found] at made; cases made
    | ok c => rw [found] at made; rw [Option.some.inj made]
  refine ⟨accepted, fun one => ?_⟩
  have straight := ((ofText_oneCharacter accepted).mp one).2.2
  revert straight
  decide +kernel

end

end Typeahead.CharClass
