import Mathlib.Data.List.Chain
import Typeahead.Pattern.Escape
import Typeahead.Proofs.CharSet.Operations

namespace Typeahead

namespace CharSet

-- Whether the runs are in order, in one pass: each begins where the one before it has ended.
def climbs : Nat → List (Nat × Nat) → Bool
  | _, [] => true
  | low, (lo, hi) :: runs =>
    low.ble lo && lo.ble hi && lo.isValidChar && hi.isValidChar && climbs (hi + 1) runs

theorem apart_of_climbs {low : Nat} {runs : List (Nat × Nat)} (checked : climbs low runs) :
    InOrder Apart runs ∧ ∀ run ∈ runs, low ≤ run.1 := by
  induction runs generalizing low with
  | nil => exact ⟨.nil, by simp⟩
  | cons run runs ih =>
    obtain ⟨lo, hi⟩ := run
    simp only [climbs, Bool.and_eq_true, Nat.ble_eq, decide_eq_true_eq] at checked
    obtain ⟨⟨⟨⟨lower, rises⟩, loValid⟩, hiValid⟩, onward⟩ := checked
    obtain ⟨later, above⟩ := ih onward
    refine ⟨InOrder.cons_iff.mpr ⟨⟨rises, loValid, hiValid⟩, above, later⟩, ?_⟩
    intro run member
    cases member with
    | head => exact lower
    | tail _ member =>
      have := above run member
      omega

theorem ordered_of_climbs {s : CharSet} (checked : climbs 0 s.runs) : s.Ordered :=
  Separate.ordered (apart_of_climbs checked).1

def tables : List CharSet :=
  [Unicode.word, Unicode.whiteSpace, Unicode.letters, Unicode.upperCaseLetters,
    Unicode.lowerCaseLetters, Unicode.numbers, Unicode.decimalDigits, Unicode.punctuation,
    Unicode.greek, Unicode.cyrillic, Unicode.alphabetic]

theorem tables_climb : ∀ s ∈ tables, climbs 0 s.runs := by decide +kernel

theorem table_ordered {s : CharSet} (table : s ∈ tables) : s.Ordered :=
  ordered_of_climbs (tables_climb s table)

theorem full_ordered : full.Ordered := ordered_of_climbs (by decide)

end CharSet

namespace Pattern
variable {text rest name digits more : List Char} {s : CharSet} {atom : Atom}

-- A character that neither opens nor closes a class, nor takes its meaning from the next one.
def Plain (c : Char) : Prop := c ≠ '[' ∧ c ≠ ']' ∧ c ≠ '\\'

instance (c : Char) : Decidable (Plain c) :=
  inferInstanceAs (Decidable (c ≠ '[' ∧ c ≠ ']' ∧ c ≠ '\\'))

theorem splitAt?_eq {sep : Char} {left right : List Char}
    (found : splitAt? sep text = some (left, right)) :
    text = left ++ sep :: right ∧ sep ∉ left := by
  induction text generalizing left with
  | nil => cases found
  | cons c text ih =>
    rw [splitAt?] at found
    split at found
    · rename_i here
      obtain ⟨rfl, rfl⟩ : [] = left ∧ text = right := by simpa using found
      exact ⟨by simp [here], by simp⟩
    · rename_i other
      obtain ⟨⟨front, back⟩, inner, equal⟩ := Option.map_eq_some_iff.mp found
      obtain ⟨rfl, rfl⟩ : c :: front = left ∧ back = right := by simpa using equal
      obtain ⟨rfl, without⟩ := ih inner
      exact ⟨rfl, by simp [without, Ne.symm other]⟩

theorem splitAt?_append {sep : Char} {left : List Char} (without : sep ∉ left) (right : List Char) :
    splitAt? sep (left ++ sep :: right) = some (left, right) := by
  induction left with
  | nil => simp [splitAt?]
  | cons c left ih =>
    obtain ⟨other, without⟩ : sep ≠ c ∧ sep ∉ left := by simpa using without
    simp [splitAt?, Ne.symm other, ih without]

theorem splitAtNotEqual?_eq {left right : List Char}
    (found : splitAtNotEqual? text = some (left, right)) : text = left ++ '!' :: '=' :: right := by
  induction text generalizing left with
  | nil => cases found
  | cons c text ih =>
    unfold splitAtNotEqual? at found
    split at found
    · cases found
    · rename_i equal
      obtain ⟨rfl, rfl⟩ := List.cons.inj equal
      obtain ⟨rfl, rfl⟩ : [] = left ∧ _ = right := by simpa using found
      rfl
    · rename_i equal
      obtain ⟨rfl, rfl⟩ := List.cons.inj equal
      obtain ⟨⟨front, back⟩, inner, equal⟩ := Option.map_eq_some_iff.mp found
      obtain ⟨rfl, rfl⟩ : _ :: front = left ∧ back = right := by simpa using equal
      rw [ih inner]
      rfl

theorem hexDigit?_plain {c : Char} (digit : (Text.hexDigit? c).isSome) : Plain c := by
  refine ⟨?_, ?_, ?_⟩
  all_goals
    intro equal
    subst equal
    simp [Text.hexDigit?] at digit

theorem hexValue?_plain {n : Nat} (valued : Text.hexValue? digits = some n) :
    ∀ c ∈ digits, Plain c := by
  have stuck : ∀ digits : List Char, digits.foldl
      (fun acc c => do return (← acc) * 16 + (← Text.hexDigit? c)) (none : Option Nat) = none := by
    intro digits
    induction digits with
    | nil => rfl
    | cons c digits ih => exact ih
  suffices general : ∀ start : Option Nat, digits.foldl
      (fun acc c => do return (← acc) * 16 + (← Text.hexDigit? c)) start = some n →
      ∀ c ∈ digits, Plain c from general _ valued
  clear valued
  intro start folded
  induction digits generalizing start with
  | nil => simp
  | cons c digits ih =>
    intro d member
    rcases List.mem_cons.mp member with rfl | member
    · refine hexDigit?_plain ?_
      rw [Option.isSome_iff_ne_none]
      intro nothing
      rw [List.foldl_cons, nothing] at folded
      cases start <;> exact nomatch (stuck _).symm.trans folded
    · exact ih _ folded d member

-- What a reader of the inside of an escape uses of the text.
def Uses (read : List Char → Except ReadError (α × List Char)) (text : List Char) (found : α)
    (rest : List Char) : Prop :=
  ∃ used, text = used ++ rest ∧ (∀ c ∈ used, Plain c) ∧
    ∀ more, read (used ++ more) = .ok (found, more)

-- The inside of an escape in braces: it ends at the first closing brace, whatever stands behind.
theorem Uses.braced {read : List Char → Except ReadError (α × List Char)} {body : List Char}
    {found : α} (split : splitAt? '}' body = some (name, rest)) (plain : ∀ c ∈ name, Plain c)
    (reads : ∀ {body more}, splitAt? '}' body = some (name, more) →
      read ('{' :: body) = .ok (found, more)) :
    Uses read ('{' :: body) found rest := by
  obtain ⟨rfl, without⟩ := splitAt?_eq split
  refine ⟨'{' :: name ++ ['}'], by simp, ?_, fun more => ?_⟩
  · intro c member
    simp only [List.cons_append, List.mem_cons, List.mem_append, List.not_mem_nil,
      or_false] at member
    rcases member with rfl | member | rfl
    · decide
    · exact plain c member
    · decide
  · simpa using reads (splitAt?_append without more)

theorem readHex_braced {count : Nat} {body : List Char} {c : Char}
    (split : splitAt? '}' body = some (digits, rest)) (some' : ¬ digits.isEmpty)
    (valued : (Text.hexValue? digits).bind Text.charOfCode? = some c) :
    readHex count ('{' :: body) = .ok (c, rest) := by
  simp [readHex, split, some', valued]

theorem readHex_counted {count : Nat} {c : Char} (counted : digits.length = count)
    (positive : 0 < count) (notBrace : ∀ body, digits ≠ '{' :: body)
    (valued : (Text.hexValue? digits).bind Text.charOfCode? = some c) (more : List Char) :
    readHex count (digits ++ more) = .ok (c, more) := by
  subst counted
  obtain ⟨d, digits, rfl⟩ := List.exists_cons_of_length_pos positive
  have other : d ≠ '{' := fun equal => notBrace digits (by rw [equal])
  unfold readHex
  simp [other, valued]

theorem readHex_uses {count : Nat} {c : Char} (positive : 0 < count)
    (found : readHex count text = .ok (c, rest)) : Uses (readHex count) text c rest := by
  have plain {digits : List Char} {d : Char}
      (valued : (Text.hexValue? digits).bind Text.charOfCode? = some d) :
      ∀ c ∈ digits, Plain c := by
    obtain ⟨n, value, -⟩ := Option.bind_eq_some_iff.mp valued
    exact hexValue?_plain value
  unfold readHex at found
  simp only at found
  split at found
  · split at found
    · cases found
    · rename_i digits rest' split'
      split at found
      · cases found
      · rename_i some'
        split at found
        · rename_i d valued
          obtain ⟨rfl, rfl⟩ : d = c ∧ rest' = rest := by simpa using found
          exact .braced split' (plain valued) fun split => readHex_braced split some' valued
        · cases found
  · rename_i notBrace
    split at found
    · cases found
    · rename_i long
      split at found
      · rename_i d valued
        obtain ⟨rfl, rfl⟩ : d = c ∧ text.drop count = rest := by simpa using found
        have counted : (text.take count).length = count := by
          rw [List.length_take] at long ⊢
          omega
        have unbraced (body : List Char) : text.take count ≠ '{' :: body := by
          intro equal
          apply notBrace (body ++ text.drop count)
          rw [← List.cons_append, ← equal, List.take_append_drop]
        exact ⟨text.take count, (List.take_append_drop count text).symm, plain valued,
          readHex_counted counted positive unbraced valued⟩
      · cases found

-- A name is compared without some of its characters, but never without these.
theorem looseName_keeps {c : Char} (special : ¬ Plain c) (member : c ∈ name) :
    c ∈ looseName name := by
  have which : c = '[' ∨ c = ']' ∨ c = '\\' := by
    unfold Plain at special
    tauto
  have kept : (c.toNat ≤ 0x7f && c ≠ ' ' && c ≠ '_' && c ≠ '-') = true ∧ c.toLower = c ∧
      c.toLower ≠ 'i' ∧ c.toLower ≠ 's' := by
    rcases which with rfl | rfl | rfl <;> decide
  obtain ⟨kept, lower, notI, notS⟩ := kept
  unfold looseName
  refine List.mem_map.mpr ⟨c, List.mem_filter.mpr ⟨?_, kept⟩, lower⟩
  split
  · rename_i a b rest
    split
    · rename_i both
      simp only [List.mem_cons] at member
      rcases member with rfl | rfl | member
      · exact absurd both.1 notI
      · exact absurd both.2 notS
      · exact member
    · exact member
  · exact member

theorem plain_of_looseName {known : String} (equal : String.ofList (looseName name) = known)
    (plain : known.toList.all (Plain ·)) : ∀ c ∈ name, Plain c := by
  intro c member
  by_contra special
  have kept := looseName_keeps special member
  rw [← String.toList_ofList (l := looseName name), equal] at kept
  exact special (of_decide_eq_true (List.all_eq_true.mp plain c kept))

-- A named set, with a name that is plain.
def Named (found : Option CharSet) (name : List Char) : Prop :=
  ∀ s, found = some s → s.Ordered ∧ ∀ c ∈ name, Plain c

theorem Named.unknown (name : List Char) : Named none name :=
  nofun

theorem Named.table {known : String} (equal : String.ofList (looseName name) = known)
    (plain : known.toList.all (Plain ·)) (ordered : s.Ordered) : Named (some s) name := by
  intro found same
  obtain rfl := Option.some.inj same
  exact ⟨ordered, plain_of_looseName equal plain⟩

theorem category?_named (name : List Char) : Named (category? name) name := by
  unfold category?
  split
  all_goals first
    | exact .unknown name
    | (rename_i equal
       refine .table equal (by decide) ?_)
  · exact CharSet.full_ordered
  · exact (CharSet.range_separate _ _ (by decide)).ordered
  all_goals exact CharSet.table_ordered (by simp [CharSet.tables])

theorem script?_named (name : List Char) : Named (script? name) name := by
  unfold script?
  split
  all_goals first
    | exact .unknown name
    | (rename_i equal
       exact .table equal (by decide) (CharSet.table_ordered (by simp [CharSet.tables])))

theorem binary?_named (name : List Char) : Named (binary? name) name := by
  unfold binary?
  split
  all_goals first
    | exact .unknown name
    | (rename_i equal
       exact .table equal (by decide) (CharSet.table_ordered (by simp [CharSet.tables])))

theorem property?_named (name : List Char) : Named (property? name) name := by
  intro s found
  simp only [property?, Option.orElse_eq_orElse, Option.orElse_eq_or, Option.or_eq_some_iff] at found
  rcases found with found | ⟨_, found | ⟨_, found⟩⟩
  · exact binary?_named name s found
  · exact category?_named name s found
  · exact script?_named name s found

theorem propertyValue?_named {value : List Char} (found : propertyValue? name value = some s) :
    s.Ordered ∧ (∀ c ∈ name, Plain c) ∧ ∀ c ∈ value, Plain c := by
  unfold propertyValue? at found
  split at found
  · rename_i equal
    obtain ⟨ordered, plain⟩ := category?_named value s found
    exact ⟨ordered, plain_of_looseName equal (by decide), plain⟩
  · rename_i equal
    obtain ⟨ordered, plain⟩ := category?_named value s found
    exact ⟨ordered, plain_of_looseName equal (by decide), plain⟩
  · rename_i equal
    obtain ⟨ordered, plain⟩ := script?_named value s found
    exact ⟨ordered, plain_of_looseName equal (by decide), plain⟩
  · rename_i equal
    obtain ⟨ordered, plain⟩ := script?_named value s found
    exact ⟨ordered, plain_of_looseName equal (by decide), plain⟩
  · cases found

theorem plain_around (between : List Char) {value : List Char} (left : ∀ c ∈ name, Plain c)
    (middle : ∀ c ∈ between, Plain c) (right : ∀ c ∈ value, Plain c) :
    ∀ c ∈ name ++ (between ++ value), Plain c := by
  intro c member
  cases List.mem_append.mp member with
  | inl member => exact left c member
  | inr member =>
    cases List.mem_append.mp member with
    | inl member => exact middle c member
    | inr member => exact right c member

theorem bracedProperty?_named (name : List Char) : Named (bracedProperty? name) name := by
  intro s found
  unfold bracedProperty? at found
  split at found
  · rename_i left right split'
    obtain ⟨inner, known, rfl⟩ := Option.map_eq_some_iff.mp found
    obtain ⟨ordered, plainLeft, plainRight⟩ := propertyValue?_named known
    rw [splitAtNotEqual?_eq split']
    exact ⟨CharSet.complement_ordered ordered,
      plain_around ['!', '='] plainLeft (by simp [Plain]) plainRight⟩
  · split at found
    · rename_i left right split'
      obtain ⟨ordered, plainLeft, plainRight⟩ := propertyValue?_named found
      rw [(splitAt?_eq split').1]
      exact ⟨ordered, plain_around [':'] plainLeft (by simp [Plain]) plainRight⟩
    · split at found
      · rename_i left right split'
        obtain ⟨ordered, plainLeft, plainRight⟩ := propertyValue?_named found
        rw [(splitAt?_eq split').1]
        exact ⟨ordered, plain_around ['='] plainLeft (by simp [Plain]) plainRight⟩
      · exact property?_named name s found

theorem readProperty_uses {negated : Bool} (found : readProperty negated text = .ok (s, rest)) :
    s.Ordered ∧ Uses (readProperty negated) text s rest := by
  unfold readProperty at found
  simp only at found
  split at found
  · cases found
  · rename_i body
    split at found
    · cases found
    · rename_i name rest' split'
      split at found
      · rename_i inner known
        obtain ⟨rfl, rfl⟩ : inner.negateIf negated = s ∧ rest' = rest := by simpa using found
        obtain ⟨ordered, plain⟩ := bracedProperty?_named name inner known
        exact ⟨CharSet.negateIf_ordered negated ordered,
          .braced split' plain fun split => by simp [readProperty, split, known]⟩
      · cases found
  · rename_i c rest' notBrace
    split at found
    · cases found
    · rename_i notSlash
      split at found
      · rename_i inner known
        obtain ⟨rfl, rfl⟩ : inner.negateIf negated = s ∧ rest' = rest := by simpa using found
        obtain ⟨ordered, plain⟩ := category?_named [c] inner known
        refine ⟨CharSet.negateIf_ordered negated ordered, [c], rfl, plain, fun more => ?_⟩
        unfold readProperty
        simp [notSlash, known]
      · cases found

def Atom.Ordered : Atom → Prop
  | .set s => s.Ordered
  | _ => True

theorem letterEscape?_ordered {c : Char} (found : letterEscape? c = some s) : s.Ordered := by
  unfold letterEscape? at found
  split at found
  all_goals first
    | obtain rfl := Option.some.inj found
    | cases found
  · exact CharSet.table_ordered (by simp [CharSet.tables])
  · exact CharSet.complement_ordered (CharSet.table_ordered (by simp [CharSet.tables]))
  · exact CharSet.table_ordered (by simp [CharSet.tables])
  · exact CharSet.complement_ordered (CharSet.table_ordered (by simp [CharSet.tables]))
  · exact CharSet.table_ordered (by simp [CharSet.tables])
  · exact CharSet.complement_ordered (CharSet.table_ordered (by simp [CharSet.tables]))

-- What an escape uses: one character after the backslash, and then plain ones.
structure Escaped (text : List Char) (atom : Atom) (rest : List Char) : Prop where
  ordered : atom.Ordered
  uses : ∃ c tail, text = c :: tail ++ rest ∧ (∀ d ∈ tail, Plain d) ∧
    ∀ more, readEscape (c :: tail ++ more) = .ok (atom, more)

theorem escaped_of_uses {read : List Char → Except ReadError (α × List Char)} {c : Char}
    {make : α → Atom}
    {found : α}
    (head : ∀ text, readEscape (c :: text) = (read text).map fun (x, rest) => (make x, rest))
    (ordered : (make found).Ordered) (uses : Uses read text found rest) :
    Escaped (c :: text) (make found) rest := by
  obtain ⟨used, rfl, plain, reads⟩ := uses
  refine ⟨ordered, c, used, rfl, plain, fun more => ?_⟩
  rw [List.cons_append, head, reads]
  rfl

theorem map_eq_ok {read : Except ReadError α} {f : α → β} {y : β} (found : read.map f = .ok y) :
    ∃ x, read = .ok x ∧ f x = y := by
  cases read with
  | error e => cases found
  | ok x => exact ⟨x, rfl, by simpa [Except.map] using found⟩

def loneEscape? (c : Char) : Option Atom :=
  match letterEscape? c with
  | some s => some (.set s)
  | none =>
    if isEscapable c then some (.char c)
    else
      match controlEscape? c with
      | some d => some (.char d)
      | none => (lookEscape? c).map .look

theorem readEscape_lone {c : Char} (lone : c ∉ ['x', 'u', 'U', 'p', 'P']) (text : List Char) :
    readEscape (c :: text) =
      match loneEscape? c with
      | some atom => .ok (atom, text)
      | none => .error .badEscape := by
  simp only [List.mem_cons, List.not_mem_nil, or_false, not_or] at lone
  unfold readEscape loneEscape?
  split <;> simp_all only [List.cons.injEq, reduceCtorEq, false_and]
  rename_i c' text' _ _ _ _ _ equal
  obtain ⟨rfl, rfl⟩ := equal
  cases letterEscape? c with
  | some s => rfl
  | none =>
    by_cases escapable : isEscapable c = true
    · simp [escapable]
    · cases controlEscape? c with
      | some d => simp [escapable]
      | none => cases lookEscape? c <;> simp [escapable]

theorem loneEscape?_ordered {c : Char} (found : loneEscape? c = some atom) : atom.Ordered := by
  unfold loneEscape? at found
  split at found
  · rename_i s known
    obtain rfl := Option.some.inj found
    exact letterEscape?_ordered known
  · split at found
    · obtain rfl := Option.some.inj found
      trivial
    · split at found
      · obtain rfl := Option.some.inj found
        trivial
      · obtain ⟨l, _, rfl⟩ := Option.map_eq_some_iff.mp found
        trivial

theorem readEscape_escaped (found : readEscape text = .ok (atom, rest)) :
    Escaped text atom rest := by
  cases text with
  | nil => cases found
  | cons c text =>
    by_cases lone : c ∉ ['x', 'u', 'U', 'p', 'P']
    · rw [readEscape_lone lone] at found
      split at found
      · rename_i atom' known
        obtain ⟨rfl, rfl⟩ : atom' = atom ∧ text = rest := by simpa using found
        exact ⟨loneEscape?_ordered known, c, [], rfl, by simp, fun more => by
          rw [List.cons_append, readEscape_lone lone, known]
          rfl⟩
      · cases found
    · simp only [List.mem_cons, List.not_mem_nil, or_false, not_not] at lone
      rcases lone with rfl | rfl | rfl | rfl | rfl
      all_goals
        obtain ⟨⟨found', rest'⟩, inner, equal⟩ := map_eq_ok found
        obtain ⟨rfl, rfl⟩ := Prod.mk.inj equal
      · exact escaped_of_uses (fun _ => rfl) trivial (readHex_uses (by decide) inner)
      · exact escaped_of_uses (fun _ => rfl) trivial (readHex_uses (by decide) inner)
      · exact escaped_of_uses (fun _ => rfl) trivial (readHex_uses (by decide) inner)
      · obtain ⟨ordered, uses⟩ := readProperty_uses inner
        exact escaped_of_uses (fun _ => rfl) ordered uses
      · obtain ⟨ordered, uses⟩ := readProperty_uses inner
        exact escaped_of_uses (fun _ => rfl) ordered uses

end Pattern
end Typeahead
