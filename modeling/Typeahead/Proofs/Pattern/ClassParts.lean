import Typeahead.Pattern.ClassReader
import Typeahead.Proofs.Pattern.Escapes

namespace Typeahead.Pattern

-- A dash makes a range unless it stands before a bracket or another dash.
def JoinsRange (text : List Char) : Prop :=
  ∃ after, text = '-' :: after ∧ after.head? ≠ some ']' ∧ after.head? ≠ some '-'

inductive Ranges : List Char → ClassTree → List Char → Prop
  | lone (first : readMember .usual text = .ok (atom, c :: rest)) (set : memberSet atom = .ok s)
      (lone : ¬ JoinsRange (c :: rest)) : Ranges text (.leaf s) (c :: rest)
  | range (first : readMember .usual text = .ok (.char lo, '-' :: after))
      (joins : JoinsRange ('-' :: after)) (last : readMember .usual after = .ok (.char hi, rest))
      (rising : lo ≤ hi) : Ranges text (.leaf (.range lo hi)) rest

section Members
variable {text rest more : List Char} {atom : Atom} {item : ClassTree} {fuel : Nat}

theorem readMember_reads (found : readMember .usual text = .ok (atom, rest)) :
    atom.Ordered ∧ rest <:+ text ∧ rest.length < text.length ∧
      ∀ more, readMember .usual (text ++ more) = .ok (atom, rest ++ more) := by
  unfold readMember at found
  split at found
  · cases found
  · rename_i text
    obtain ⟨ordered, c, tail, rfl, _, reads⟩ := readEscape_escaped found
    refine ⟨ordered, ⟨'\\' :: c :: tail, by simp⟩, by simp; omega, fun more => ?_⟩
    have further := reads (rest ++ more)
    rw [← List.append_assoc] at further
    exact further
  · rename_i c text notSlash
    obtain ⟨rfl, rfl⟩ : Atom.char c = atom ∧ text = rest := by simpa using found
    exact ⟨trivial, ⟨[c], rfl⟩, by simp, fun more => by simp [readMember]⟩

theorem readMember_cases (found : readMember .usual text = .ok (atom, rest)) :
    (∃ after, text = '\\' :: after ∧ readEscape after = .ok (atom, rest)) ∨
      ∃ c, c ≠ '\\' ∧ text = c :: rest ∧ atom = .char c := by
  unfold readMember at found
  split at found
  · cases found
  · exact .inl ⟨_, rfl, found⟩
  · rename_i c text noEscape
    obtain ⟨rfl, rfl⟩ : Atom.char c = atom ∧ text = rest := by simpa using found
    exact .inr ⟨c, noEscape, rfl, rfl⟩

theorem memberChar_eq {c : Char} (found : memberChar atom = .ok c) : atom = .char c := by
  cases atom with
  | char d => rw [show d = c by simpa [memberChar] using found]
  | _ => cases found

theorem memberSet_ordered {s : CharSet} (ordered : atom.Ordered) (found : memberSet atom = .ok s) :
    s.Ordered := by
  cases atom with
  | char c =>
    obtain rfl : CharSet.single c = s := by simpa [memberSet] using found
    exact (CharSet.single_separate c).ordered
  | set t =>
    obtain rfl : t = s := by simpa [memberSet] using found
    exact ordered
  | look l => cases found

theorem bind_eq_ok {read : Except ε α} {next : α → Except ε β} {y : β}
    (found : read >>= next = .ok y) : ∃ x, read = .ok x ∧ next x = .ok y := by
  cases read with
  | error e => cases found
  | ok x => exact ⟨x, rfl, found⟩

theorem Ranges.of_lone {after : List Char} (first : readMember .usual text = .ok (atom, after))
    (some' : after ≠ []) (single : ¬ JoinsRange after)
    (bound : (do return (.leaf (← memberSet atom), after)) = Except.ok (item, rest)) :
    Ranges text item rest := by
  obtain ⟨s, set, equal⟩ := bind_eq_ok bound
  obtain ⟨rfl, rfl⟩ : ClassTree.leaf s = item ∧ after = rest := by
    simpa [pure, Except.pure] using equal
  cases after with
  | nil => exact absurd rfl some'
  | cons c after => exact .lone first set single

theorem ranges_of_readRange (found : readRange .usual text = .ok (item, rest)) :
    Ranges text item rest := by
  unfold readRange at found
  obtain ⟨⟨atom, after⟩, first, found⟩ := bind_eq_ok found
  simp only [Lexis.usual, id] at found
  split at found
  · cases found
  · rename_i after
    split at found
    · exact .of_lone first (by simp) (by simp [JoinsRange]) found
    · exact .of_lone first (by simp) (by simp [JoinsRange]) found
    · rename_i notBracket notDash
      obtain ⟨⟨atom', rest'⟩, last, compared⟩ := bind_eq_ok found
      obtain ⟨lo, low, compared⟩ := bind_eq_ok compared
      obtain ⟨hi, high, compared⟩ := bind_eq_ok compared
      have rising : lo ≤ hi := by
        by_contra falling
        simp [falling] at compared
      obtain ⟨rfl, rfl⟩ : ClassTree.leaf (.range lo hi) = item ∧ rest' = rest := by
        simpa [rising, pure, Except.pure] using compared
      obtain rfl := memberChar_eq low
      obtain rfl := memberChar_eq high
      refine .range first ⟨after, rfl, ?_, ?_⟩ last rising
      · intro bracket
        obtain ⟨c, rfl⟩ := List.head?_eq_some_iff.mp bracket
        exact notBracket _ rfl
      · intro dash
        obtain ⟨c, rfl⟩ := List.head?_eq_some_iff.mp dash
        exact notDash _ rfl
  · rename_i other notNil notDash
    refine .of_lone first notNil ?_ found
    intro joins
    obtain ⟨_, equal, _⟩ := joins
    exact notDash _ equal

theorem readRange_of_ranges (reads : Ranges text item rest) :
    readRange .usual text = .ok (item, rest) := by
  unfold readRange
  cases reads with
  | lone first set lone =>
    rename_i atom c rest s
    have rest_cases : c ≠ '-' ∨ ∃ after, rest = ']' :: after ∨ rest = '-' :: after := by
      by_contra none
      simp only [not_or, not_exists, ne_eq, not_not] at none
      obtain ⟨rfl, other⟩ := none
      refine lone ⟨rest, rfl, ?_, ?_⟩
      · intro bracket
        obtain ⟨after, rfl⟩ := List.head?_eq_some_iff.mp bracket
        exact (other after).1 rfl
      · intro dash
        obtain ⟨after, rfl⟩ := List.head?_eq_some_iff.mp dash
        exact (other after).2 rfl
    rw [first]
    rcases rest_cases with noDash | ⟨after, rfl | rfl⟩
    · simp [bind, Except.bind, Lexis.usual, noDash, set, pure, Except.pure]
    · by_cases dash : c = '-' <;>
        simp [bind, Except.bind, Lexis.usual, dash, set, pure, Except.pure]
    · by_cases dash : c = '-' <;>
        simp [bind, Except.bind, Lexis.usual, dash, set, pure, Except.pure]
  | range first joins last rising =>
    rename_i lo after hi
    obtain ⟨_, equal, notBracket, notDash⟩ := joins
    obtain rfl := (List.cons.inj equal).2
    rw [first]
    simp only [bind, Except.bind, Lexis.usual, id]
    split
    · exact absurd rfl notBracket
    · exact absurd rfl notDash
    · change readMember ⟨id, readEscape⟩ after = _ at last
      simp [last, memberChar, rising, pure, Except.pure]

theorem readRange_iff : readRange .usual text = .ok (item, rest) ↔ Ranges text item rest :=
  ⟨ranges_of_readRange, readRange_of_ranges⟩

-- What a reader found, and that it stays so whatever stands behind the text.
structure Found (reads : List Char → ClassTree → List Char → Prop) (text : List Char)
    (item : ClassTree) (rest : List Char) : Prop where
  ordered : item.LeavesOrdered
  suffix : rest <:+ text
  shorter : rest.length < text.length
  further : ∀ more, reads (text ++ more) item (rest ++ more)

theorem joinsRange_append (some' : text.tail ≠ [] ∨ text.head? ≠ some '-') (notNil : text ≠ [])
    (more : List Char) : JoinsRange (text ++ more) ↔ JoinsRange text := by
  cases text with
  | nil => exact absurd rfl notNil
  | cons c text =>
    cases text with
    | nil => simp_all [JoinsRange]
    | cons d text => simp [JoinsRange]

theorem Ranges.found (ranges : Ranges text item rest) : Found Ranges text item rest := by
  cases ranges with
  | lone first set lone =>
    rename_i atom c rest s
    obtain ⟨ordered, suffix, shorter, further⟩ := readMember_reads first
    refine ⟨memberSet_ordered ordered set, suffix, shorter, fun more => ?_⟩
    rw [List.cons_append]
    refine .lone (further more) set ?_
    rw [← List.cons_append, joinsRange_append ?_ (List.cons_ne_nil _ _)]
    · exact lone
    · by_contra neither
      simp only [List.tail_cons, List.head?_cons, ne_eq, not_or, not_not] at neither
      refine lone ⟨rest, by rw [Option.some.inj neither.2], ?_, ?_⟩ <;> simp [neither.1]
  | range first joins last rising =>
    rename_i lo after hi
    obtain ⟨_, suffix, shorter, further⟩ := readMember_reads first
    obtain ⟨_, suffix', shorter', further'⟩ := readMember_reads last
    rw [List.length_cons] at shorter
    refine ⟨(CharSet.range_separate lo hi rising).ordered,
      suffix'.trans ((List.suffix_cons ..).trans suffix), by omega, fun more => ?_⟩
    have first' : readMember .usual (text ++ more) = .ok (.char lo, '-' :: (after ++ more)) := further more
    refine .range first' ?_ (further' more) rising
    rw [← List.cons_append, joinsRange_append ?_ (List.cons_ne_nil _ _)]
    · exact joins
    · left
      cases after with
      | nil => cases last
      | cons c after => simp

theorem takeDashes_eq (enough : text.length ≤ fuel) : takeDashes .usual fuel text =
    ((text.takeWhile (· = '-')).map fun _ => .leaf (.single '-'), text.dropWhile (· = '-')) := by
  induction text generalizing fuel with
  | nil => cases fuel <;> rfl
  | cons c text ih =>
    obtain ⟨fuel, rfl⟩ : ∃ n, fuel = n + 1 := ⟨fuel - 1, by rw [List.length_cons] at enough; omega⟩
    have enough' : text.length ≤ fuel := by simpa using enough
    by_cases dash : c = '-'
    · subst dash
      have step : takeDashes .usual (fuel + 1) ('-' :: text) =
          (.leaf (.single '-') :: (takeDashes .usual fuel text).1, (takeDashes .usual fuel text).2) := rfl
      rw [step, ih enough']
      simp
    · simp [takeDashes, dash]

-- The class a bracket begins, from the dashes that follow it.
def begun (negated : Bool) : List ClassTree × List Char → OpenClass × List Char
  | ([], ']' :: rest) => (⟨negated, none, [.leaf (.single ']')]⟩, rest)
  | (dashes, rest) => (⟨negated, none, dashes⟩, rest)

-- What `openClass` makes of a text, without the fuel.
def dashesFirst (negated : Bool) : List Char → OpenClass × List Char
  | ']' :: rest => (⟨negated, none, [.leaf (.single ']')]⟩, rest)
  | text => (⟨negated, none, (text.takeWhile (· = '-')).map fun _ => .leaf (.single '-')⟩,
      text.dropWhile (· = '-'))

def opened : List Char → OpenClass × List Char
  | '^' :: rest => dashesFirst true rest
  | text => dashesFirst false text

theorem opened_bare {c : Char} (noCaret : c ≠ '^') (text : List Char) :
    opened (c :: text) = dashesFirst false (c :: text) := by
  unfold opened
  split
  · rename_i equal
    exact absurd (List.cons.inj equal).1 noCaret
  · rfl

theorem begun_takeDashes (negated : Bool) (enough : text.length ≤ fuel) :
    begun negated (takeDashes .usual fuel text) = dashesFirst negated text := by
  rw [takeDashes_eq enough]
  cases text with
  | nil => rfl
  | cons c text =>
    by_cases bracket : c = ']'
    · simp [begun, bracket, dashesFirst]
    · by_cases dash : c = '-'
      · simp [begun, dash, dashesFirst]
      · simp [begun, bracket, dash, dashesFirst]

theorem openClass_eq (fuel : Nat) (text : List Char) (enough : text.length ≤ fuel) :
    openClass .usual fuel text = opened text := by
  cases text with
  | nil => exact begun_takeDashes false enough
  | cons c text =>
    have enough' : text.length ≤ fuel := by
      rw [List.length_cons] at enough
      omega
    by_cases caret : c = '^'
    · subst caret
      exact begun_takeDashes true enough'
    · rw [opened_bare caret, ← begun_takeDashes false enough]
      simp [openClass, Lexis.usual, caret]
      all_goals rfl

structure Opens (open' : List Char → OpenClass × List Char) (text : List Char) : Prop where
  ordered : ∀ item ∈ (open' text).1.items, item.LeavesOrdered
  waiting : (open' text).1.waiting = none
  suffix : (open' text).2 <:+ text
  further : (open' text).2 ≠ [] → ∀ more, open' (text ++ more) =
    ((open' text).1, (open' text).2 ++ more)

theorem dropWhile_append {p : Char → Bool} (stops : text.dropWhile p ≠ []) (more : List Char) :
    (text ++ more).takeWhile p = text.takeWhile p ∧
      (text ++ more).dropWhile p = text.dropWhile p ++ more := by
  induction text with
  | nil => simp at stops
  | cons c text ih =>
    by_cases holds : p c = true
    · obtain ⟨taken, dropped⟩ := ih (by simpa [holds] using stops)
      simp [holds, taken, dropped]
    · simp [holds]

theorem dashesFirst_opens (negated : Bool) (text : List Char) : Opens
    (dashesFirst negated) text := by
  have dashes : ∀ text : List Char, ∀ item ∈ (text.takeWhile (· = '-')).map
      fun _ => ClassTree.leaf (.single '-'), item.LeavesOrdered := by
    intro text item member
    obtain ⟨_, _, rfl⟩ := List.mem_map.mp member
    exact (CharSet.single_separate '-').ordered
  by_cases bracket : ∃ rest, text = ']' :: rest
  · obtain ⟨rest, rfl⟩ := bracket
    refine ⟨?_, rfl, List.suffix_cons .., fun _ _ => rfl⟩
    intro item member
    obtain rfl := List.mem_singleton.mp member
    exact (CharSet.single_separate ']').ordered
  · have bare : ∀ text, (¬ ∃ rest, text = ']' :: rest) → dashesFirst negated text =
        (⟨negated, none, (text.takeWhile (· = '-')).map fun _ => .leaf (.single '-')⟩,
          text.dropWhile (· = '-')) := by
      intro text other
      unfold dashesFirst
      split
      · exact absurd ⟨_, rfl⟩ other
      · rfl
    constructor
    · rw [bare text bracket]
      exact dashes text
    · rw [bare text bracket]
    · rw [bare text bracket]
      exact List.dropWhile_suffix _
    · rw [bare text bracket]
      intro stops more
      obtain ⟨taken, dropped⟩ := dropWhile_append stops more
      rw [bare, taken, dropped]
      intro given
      obtain ⟨rest, equal⟩ := given
      cases text with
      | nil => simp at stops
      | cons c text =>
        obtain ⟨rfl, _⟩ := List.cons.inj equal
        exact bracket ⟨text, rfl⟩

theorem opened_opens (text : List Char) : Opens opened text := by
  cases text with
  | nil =>
    obtain ⟨ordered, waiting, suffix, _⟩ := dashesFirst_opens false []
    exact ⟨ordered, waiting, suffix, fun some' => absurd rfl some'⟩
  | cons c text =>
    by_cases caret : c = '^'
    · subst caret
      obtain ⟨ordered, waiting, suffix, further⟩ := dashesFirst_opens true text
      exact ⟨ordered, waiting, suffix.trans (List.suffix_cons ..), further⟩
    · obtain ⟨ordered, waiting, suffix, further⟩ := dashesFirst_opens false (c :: text)
      rw [← opened_bare caret] at *
      refine ⟨ordered, waiting, suffix, fun some' more => ?_⟩
      rw [List.cons_append, opened_bare caret]
      exact further some' more

-- A plain character that makes no range and no operator.
def Steady (c : Char) : Prop := Plain c ∧ c ≠ '-' ∧ c ≠ '&' ∧ c ≠ '~'

instance (c : Char) : Decidable (Steady c) :=
  inferInstanceAs (Decidable (Plain c ∧ c ≠ '-' ∧ c ≠ '&' ∧ c ≠ '~'))

theorem asciiClass?_named {s : CharSet} (found : asciiClass? name = some s) :
    s.Ordered ∧ ∀ c ∈ name, Steady c := by
  obtain ⟨runs, known, rfl⟩ := Option.map_eq_some_iff.mp found
  have steady : ∀ known : String, String.ofList name = known → known.toList.all (Steady ·) →
      ∀ c ∈ name, Steady c := by
    intro known equal steady c member
    rw [← equal, String.toList_ofList] at steady
    exact of_decide_eq_true (List.all_eq_true.mp steady c member)
  unfold asciiRuns at known
  split at known
  all_goals first
    | (rename_i equal
       obtain rfl := Option.some.inj known
       exact ⟨CharSet.ordered_of_climbs (by decide), steady _ equal (by decide)⟩)
    | cases known

-- What stands between `[:` and `:]`.
structure NamedClass (text : List Char) (s : CharSet) (rest : List Char) : Prop where
  ordered : s.Ordered
  uses : ∃ inside, text = ':' :: inside ++ ':' :: ']' :: rest ∧ (∀ c ∈ inside, Steady c) ∧
    ∀ more, posixClass? (':' :: inside ++ ':' :: ']' :: more) = some (s, more)

-- After the colon and the `^` that may follow it.
def namedAfter (negated : Bool) (text : List Char) : Option (CharSet × List Char) :=
  match splitAt? ':' text with
  | some (name, ']' :: rest) => (asciiClass? name).map fun s => (s.negateIf negated, rest)
  | _ => none

theorem posixClass?_bare (noCaret : text.head? ≠ some '^') :
    posixClass? (':' :: text) = namedAfter false text := by
  cases text with
  | nil => rfl
  | cons c text =>
    have marked : (match c :: text with
        | '^' :: rest => (true, rest)
        | _ => (false, c :: text)) = (false, c :: text) := by
      split
      · rename_i equal
        exact absurd (congrArg List.head? equal) noCaret
      · rfl
    exact congrArg (fun read : Bool × List Char => namedAfter read.1 read.2) marked

theorem namedAfter_eq (negated : Bool) {s : CharSet}
    (found : namedAfter negated text = some (s, rest)) :
    s.Ordered ∧ ∃ name, text = name ++ ':' :: ']' :: rest ∧ (∀ c ∈ name, Steady c) ∧
      ∀ more, namedAfter negated (name ++ ':' :: ']' :: more) = some (s, more) := by
  unfold namedAfter at found
  split at found
  · rename_i name rest' split'
    obtain ⟨inner, known, equal⟩ := Option.map_eq_some_iff.mp found
    obtain ⟨rfl, rfl⟩ := Prod.mk.inj equal
    obtain ⟨ordered, steady⟩ := asciiClass?_named known
    obtain ⟨rfl, without⟩ := splitAt?_eq split'
    refine ⟨CharSet.negateIf_ordered negated ordered, name, rfl, steady, fun more => ?_⟩
    simp [namedAfter, splitAt?_append without, known]
  · cases found

theorem posixClass?_named {s : CharSet} (found : posixClass? text = some (s, rest)) :
    NamedClass text s rest := by
  cases text with
  | nil => cases found
  | cons c text =>
    by_cases colon : c = ':'
    · subst colon
      by_cases caret : text.head? = some '^'
      · obtain ⟨text, rfl⟩ := List.head?_eq_some_iff.mp caret
        obtain ⟨ordered, name, rfl, steady, reads⟩ := namedAfter_eq true found
        refine ⟨ordered, '^' :: name, by simp, ?_, fun more => reads more⟩
        intro c member
        rcases List.mem_cons.mp member with rfl | member
        · decide
        · exact steady c member
      · rw [posixClass?_bare caret] at found
        obtain ⟨ordered, name, rfl, steady, reads⟩ := namedAfter_eq false found
        refine ⟨ordered, name, by simp, steady, fun more => ?_⟩
        rw [List.cons_append, posixClass?_bare, reads]
        cases name with
        | nil => simp
        | cons d name => simpa using caret
    · unfold posixClass? at found
      split at found
      · rename_i equal
        exact absurd (List.cons.inj equal).1 colon
      · cases found

-- The first closing bracket decides, so that more text behind it changes nothing.
theorem posixClass?_append_none (unnamed : posixClass? text = none) (closes : ']' ∈ text)
    (more : List Char) : posixClass? (text ++ more) = none := by
  rw [Option.eq_none_iff_forall_ne_some]
  intro given found
  obtain ⟨s, rest⟩ := given
  obtain ⟨_, inside, equal, steady, reads⟩ := posixClass?_named found
  have before : ':' :: inside ++ ':' :: ']' :: rest = (':' :: inside ++ [':']) ++ ']' :: rest := by
    simp
  rw [before] at equal
  rcases List.append_eq_append_iff.mp equal with ⟨extra, split', _⟩ | ⟨extra, split', rest'⟩
  · -- the text would end within what holds no closing bracket
    have without : ']' ∉ text ++ extra := by
      rw [← split']
      simp only [List.cons_append, List.mem_cons, List.mem_append, List.not_mem_nil, or_false,
        not_or]
      exact ⟨by decide, fun member => (steady _ member).1.2.1 rfl, by decide⟩
    exact without (List.mem_append_left _ closes)
  · cases extra with
    | nil =>
      have without : ']' ∉ text := by
        rw [split']
        simp only [List.append_nil, List.cons_append, List.mem_cons, List.mem_append,
          List.not_mem_nil, or_false, not_or]
        exact ⟨by decide, fun member => (steady _ member).1.2.1 rfl, by decide⟩
      exact without closes
    | cons c extra =>
      obtain ⟨rfl, _⟩ := List.cons.inj rest'
      have known := reads extra
      rw [split'] at unnamed
      simp only [List.append_assoc, List.cons_append, List.nil_append] at known unnamed
      rw [known] at unnamed
      cases unnamed

end Members

end Typeahead.Pattern
