import Typeahead.Proofs.GroupTable.Names
import Typeahead.Proofs.Node.Fragment

namespace Typeahead
open Pattern (Tree Reading OpenGroup Token IsItem IsAtom GroupName readToken readLoop)

def CharClass.tree (c : CharClass) : Tree := c.item?.getD .empty

def Times.apply : Times → Tree → Tree
  | .once, item => item
  | .optional, item => .repetition 0 (some 1) true item
  | .any, item => .repetition 0 none true item

namespace Fragment

-- The items of a fragment, each group with the number that its name has.
mutual
def items (index : Text → Nat) : Fragment → List Tree
  | .atom times c => [times.apply c.tree]
  | .group times name _ body => [times.apply (.group (index name) (Tree.ofItems (items index body)))]
  | .sequence parts => itemsOfAll index parts
  | .choice times branches => [times.apply (.plainGroup (Tree.ofBranches (trees index branches)))]

def itemsOfAll (index : Text → Nat) : List Fragment → List Tree
  | [] => []
  | f :: rest => items index f ++ itemsOfAll index rest

def trees (index : Text → Nat) : List Fragment → List Tree
  | [] => []
  | f :: rest => Tree.ofItems (items index f) :: trees index rest
end

theorem itemsOfAll_append (index : Text → Nat) (parts parts' : List Fragment) :
    itemsOfAll index (parts ++ parts') = itemsOfAll index parts ++ itemsOfAll index parts' := by
  induction parts with
  | nil => rfl
  | cons f parts ih => rw [List.cons_append, itemsOfAll, ih, itemsOfAll, List.append_assoc]

-- A choice without branches would read as the empty text.
mutual
def Readable (leaf : CharClass → Prop) : Fragment → Prop
  | .atom _ c => leaf c
  | .group _ name _ body => GroupName name ∧ Readable leaf body
  | .sequence parts => AllReadable leaf parts
  | .choice _ branches => branches ≠ [] ∧ AllReadable leaf branches

def AllReadable (leaf : CharClass → Prop) : List Fragment → Prop
  | [] => True
  | f :: rest => Readable leaf f ∧ AllReadable leaf rest
end

mutual
theorem readable_mono {leaf leaf' : CharClass → Prop} (weaker : ∀ c, leaf c → leaf' c) :
    ∀ f : Fragment, f.Readable leaf → f.Readable leaf'
  | .atom _ c, readable => weaker c readable
  | .group _ _ _ body, readable => ⟨readable.1, readable_mono weaker body readable.2⟩
  | .sequence parts, readable => allReadable_mono weaker parts readable
  | .choice _ branches, readable => ⟨readable.1, allReadable_mono weaker branches readable.2⟩

theorem allReadable_mono {leaf leaf' : CharClass → Prop} (weaker : ∀ c, leaf c → leaf' c) :
    ∀ parts : List Fragment, AllReadable leaf parts → AllReadable leaf' parts
  | [], _ => trivial
  | f :: parts, readable =>
    ⟨readable_mono weaker f readable.1, allReadable_mono weaker parts readable.2⟩
end

end Fragment

theorem CharClass.OneItem.isItem {c : CharClass} (one : c.OneItem) : IsItem c.text c.tree := by
  obtain ⟨tree, found⟩ := Option.isSome_iff_exists.mp one
  have same : c.tree = tree := by rw [CharClass.tree, found, Option.getD_some]
  exact same ▸ Pattern.isItem_of_item? found

theorem CharClass.isAtom {c : CharClass} {s : CharSet} (known : c.set? = some s) :
    IsAtom c.text s c.tree := by
  unfold CharClass.set? Pattern.atom? at known
  split at known
  · rename_i tree read
    obtain ⟨_, ordered, further⟩ := Pattern.readToken_item (Nat.lt_succ_self _) read
    have same : c.tree = tree := by
      rw [CharClass.tree, CharClass.item?, Pattern.item?_iff.mpr read, Option.getD_some]
    rw [same]
    exact ⟨known, ordered s known, further⟩
  · cases known

namespace Pattern

-- Tokens that are read whatever the fuel, and what feeding them comes to.
inductive Feeds : Reading → List Char → Reading → List Char → Prop
  | done : Feeds r text r text
  | token (read : ∀ fuel, text.length < fuel → readToken .usual fuel text = .ok (some (token, rest)))
      (shorter : rest.length < text.length) (fed : r.feed token = .ok r')
      (onward : Feeds r' rest r'' rest') : Feeds r text r'' rest'

section
variable {r r' r'' : Reading} {text rest rest' : List Char}

theorem Feeds.trans (first : Feeds r text r' rest) (second : Feeds r' rest r'' rest') :
    Feeds r text r'' rest' := by
  induction first with
  | done => exact second
  | token read shorter fed _ ih => exact .token read shorter fed (ih second)

theorem feeds_token (token : Token)
    (read : ∀ fuel, text.length < fuel → readToken .usual fuel text = .ok (some (token, rest)))
    (shorter : rest.length < text.length) (fed : r.feed token = .ok r') : Feeds r text r' rest :=
  .token read shorter fed .done

theorem Feeds.readLoop (feeds : Feeds r text r' rest) (finished : rest = []) {fuel : Nat}
    (enough : text.length < fuel) : readLoop fuel r text = .ok r' := by
  induction feeds generalizing fuel with
  | done =>
    obtain ⟨fuel, rfl⟩ : ∃ n, fuel = n + 1 := ⟨fuel - 1, by omega⟩
    subst finished
    rfl
  | token read shorter fed _ ih =>
    obtain ⟨fuel, rfl⟩ : ∃ n, fuel = n + 1 := ⟨fuel - 1, by omega⟩
    have onward := @ih finished fuel (by omega)
    rw [Pattern.readLoop, read _ enough]
    simp only [bind, Except.bind, fed]
    exact onward

theorem feeds_plainOpening (rest : List Char) : Feeds r ("(?:".toList ++ rest)
    ⟨[], [], ⟨none, r.branches, r.items⟩ :: r.outer, r.names⟩ rest :=
  feeds_token .plainOpening (fun _ _ => rfl) (by simp; omega) rfl

theorem feeds_opening {name : List Char} (rest : List Char) (valid : GroupName name)
    (fresh : some name ∉ r.names) :
    Feeds r ("(?P<".toList ++ name ++ ">".toList ++ rest)
      ⟨[], [], ⟨some r.names.length, r.branches, r.items⟩ :: r.outer, r.names ++ [some name]⟩ rest := by
  refine feeds_token (.opening (some name)) (fun fuel _ => ?_) (by simp; omega) ?_
  · show (readGroupName (name ++ ">".toList ++ rest)).map some = _
    have closed : readGroupName (name ++ ">".toList ++ rest) = .ok (.opening (some name), rest) := by
      simp [readGroupName, splitAt?_append valid.noEnd, valid.valid]
    rw [closed]
    rfl
  · simp [Reading.feed, fresh]

theorem feeds_closing (rest : List Char) {parent : OpenGroup} {outer : List OpenGroup}
    (inside : r.outer = parent :: outer) :
    Feeds r (')' :: rest)
      ⟨parent.branches,
        (match parent.index with
          | none => Tree.plainGroup r.inside
          | some index => Tree.group index r.inside) :: parent.items, outer, r.names⟩ rest :=
  feeds_token .closing (fun _ _ => rfl) (by simp) (by
    cases index : parent.index <;> simp [Reading.feed, inside, index])

theorem feeds_bar : Feeds r ('|' :: rest)
    ⟨Tree.ofItems r.items.reverse :: r.branches, [], r.outer, r.names⟩ rest :=
  feeds_token .bar (fun _ _ => rfl) (by simp) rfl

theorem feeds_atom {c : CharClass} (one : c.OneItem) :
    Feeds r (c.text ++ rest) (r.push c.tree) rest := by
  have item := one.isItem
  have some' := List.length_pos_of_ne_nil item.ne_nil
  exact feeds_token (.item c.tree) (fun fuel enough => item.further rest fuel enough)
    (by rw [List.length_append]; omega) rfl

-- A question mark behind a repetition would belong to it.
theorem feeds_times {item : Tree} {items : List Tree} (times : Times)
    (top : r.items = item :: items)
    (follow : rest.head? ≠ some '?') :
    Feeds r (times.mark ++ rest) { r with items := times.apply item :: items } rest := by
  have plain : ∀ least most, timesToken least most rest = (.times least most true, rest) := by
    intro least most
    cases rest with
    | nil => rfl
    | cons c rest =>
      have other : c ≠ '?' := by simpa using follow
      simp [timesToken, other]
  cases times with
  | once =>
    rw [Times.apply, ← top]
    exact .done
  | optional =>
    refine feeds_token (.times 0 (some 1) true) (fun fuel _ => ?_) (by simp [Times.mark]) ?_
    · show Except.ok (some (timesToken 0 (some 1) rest)) = _
      rw [plain]
    · simp [Reading.feed, top, Times.apply]
  | any =>
    refine feeds_token (.times 0 none true) (fun fuel _ => ?_) (by simp [Times.mark]) ?_
    · show Except.ok (some (timesToken 0 none rest)) = _
      rw [plain]
    · simp [Reading.feed, top, Times.apply]

end

def Reading.add (r : Reading) (items : List Tree) (names : List Text) : Reading :=
  { r with items := items.reverse ++ r.items, names := r.names ++ names.map some }

end Pattern

-- The names have consecutive numbers.
def Indexed (index : Text → Nat) (base : Nat) (names : List Text) : Prop :=
  ∀ i name, names[i]? = some name → index name = base + i

section
variable {index : Text → Nat} {base : Nat} {a b : List Text} {name : Text}

theorem Indexed.head (indexed : Indexed index base (name :: b)) : index name = base :=
  indexed 0 name rfl

theorem Indexed.tail (indexed : Indexed index base (name :: b)) : Indexed index (base + 1) b := by
  intro i other found
  have number := indexed (i + 1) other (by simpa using found)
  omega

theorem Indexed.left (indexed : Indexed index base (a ++ b)) : Indexed index base a := by
  intro i name found
  refine indexed i name ?_
  rw [List.getElem?_append_left (List.getElem?_eq_some_iff.mp found).1, found]

theorem Indexed.right (indexed : Indexed index base (a ++ b)) :
    Indexed index (base + a.length) b := by
  intro i name found
  have number := indexed (a.length + i) name (by
    rw [List.getElem?_append_right (by omega), Nat.add_sub_cancel_left, found])
  omega

end

namespace Fragment
open Pattern (Feeds feeds_atom feeds_bar feeds_closing feeds_opening feeds_plainOpening feeds_times)

def namesOfAll (parts : List Fragment) : List Text := (rowsOfAll parts).map Prod.fst

theorem namesOfAll_cons (f : Fragment) (parts : List Fragment) :
    namesOfAll (f :: parts) = f.names ++ namesOfAll parts := by
  simp [namesOfAll, names, rowsOfAll]

theorem render_group (times : Times) (name : Text) (node : Node) (body : Fragment) (rest : Text) :
    render (.group times name node body) ++ rest =
      "(?P<".toList ++ name ++ ">".toList ++ (body.render ++ ')' :: (times.mark ++ rest)) := by
  show "(?P<".toList ++ name ++ ">".toList ++ body.render ++ ")".toList ++ times.mark ++ rest = _
  simp

theorem render_choice (times : Times) (branches : List Fragment) (rest : Text) :
    render (.choice times branches) ++ rest = "(?:".toList ++
      (Node.joinBranches (renderAll branches) ++ ')' :: (times.mark ++ rest)) := by
  show "(?:".toList ++ Node.joinBranches (renderAll branches) ++ ")".toList ++ times.mark ++ rest = _
  simp

-- No fragment begins with what could belong to the item before it.
mutual
theorem render_head : ∀ f : Fragment, f.Readable CharClass.OneItem → ∀ rest : Text, rest.head? ≠ some '?' →
    (f.render ++ rest).head? ≠ some '?'
  | .atom times c, readable, rest, _ => by
    have item := CharClass.OneItem.isItem readable
    rw [render, List.append_assoc, Pattern.head?_append item.ne_nil]
    exact item.head_ne
  | .group _ _ _ _, _, _, _ => by simp [render_group]
  | .sequence parts, readable, rest, follow => renderAll_head parts readable rest follow
  | .choice _ _, _, _, _ => by simp [render_choice]

theorem renderAll_head : ∀ parts : List Fragment, AllReadable CharClass.OneItem parts → ∀ rest : Text,
    rest.head? ≠ some '?' → ((renderAll parts).flatten ++ rest).head? ≠ some '?'
  | [], _, rest, follow => by simpa [renderAll] using follow
  | f :: parts, readable, rest, follow => by
    rw [renderAll, List.flatten_cons, List.append_assoc]
    exact render_head f readable.1 _ (renderAll_head parts readable.2 rest follow)
end

-- What reading a fragment needs: names of its own, numbered as they are met.
structure Fits (index : Text → Nat) (known : List (Option Text)) (names : List Text) : Prop where
  fresh : (known ++ names.map some).Nodup
  indexed : Indexed index known.length names

section
variable {index : Text → Nat} {known : List (Option Text)} {r : Reading} {a b : List Text} {rest : Text}

theorem Fits.left (fits : Fits index known (a ++ b)) : Fits index known a := by
  refine ⟨fits.fresh.sublist ?_, fits.indexed.left⟩
  rw [List.map_append, ← List.append_assoc]
  exact List.sublist_append_left ..

theorem Fits.right (fits : Fits index known (a ++ b)) : Fits index (known ++ a.map some) b := by
  constructor
  · simpa [List.append_assoc] using fits.fresh
  · simpa using fits.indexed.right

mutual
theorem feeds : ∀ (f : Fragment) (r : Reading)
    (rest : Text), f.Readable CharClass.OneItem → Fits index r.names f.names →
    rest.head? ≠ some '?' → Feeds r (f.render ++ rest) (r.add (f.items index) f.names) rest
  | .atom times c, r, rest, readable, _, follow => by
    have item : Feeds r (c.text ++ (times.mark ++ rest)) (r.push c.tree) (times.mark ++ rest) :=
      feeds_atom readable
    have repeated := item.trans (feeds_times (r := r.push c.tree) times rfl follow)
    rw [render, List.append_assoc]
    simpa [Reading.add, Reading.push, items, names, rows] using repeated
  | .group times name node body, r, rest, readable, fits, follow => by
    have names_eq : names (.group times name node body) = name :: body.names := rfl
    rw [names_eq] at fits
    have fresh : some name ∉ r.names := fun member =>
      (List.nodup_append.mp fits.fresh).2.2 _ member (some name) (by simp) rfl
    have inner : Fits index (r.names ++ [some name]) body.names :=
      Fits.right (a := [name]) fits
    have opened := feeds_opening (r := r) (body.render ++ ')' :: (times.mark ++ rest)) readable.1 fresh
    have within := feeds body
      ⟨[], [], ⟨some r.names.length, r.branches, r.items⟩ :: r.outer, r.names ++ [some name]⟩
      (')' :: (times.mark ++ rest)) readable.2 inner (by simp)
    have closed := (opened.trans within).trans (feeds_closing (times.mark ++ rest) rfl)
    have whole := closed.trans (feeds_times times rfl follow)
    have number := fits.indexed.head
    rw [render_group, names_eq]
    simpa [Reading.add, Reading.inside, Tree.ofBranches, items, number] using whole
  | .sequence parts, r, rest, readable, fits, follow =>
    feeds_sequence parts r rest readable fits follow
  | .choice times branches, r, rest, readable, fits, follow => by
    have opened := feeds_plainOpening (r := r)
      (Node.joinBranches (renderAll branches) ++ ')' :: (times.mark ++ rest))
    obtain ⟨r', within, outer, found, inside⟩ := feeds_branches branches
      ⟨[], [], ⟨none, r.branches, r.items⟩ :: r.outer, r.names⟩ (')' :: (times.mark ++ rest))
      readable.1 readable.2 rfl fits (by simp)
    have closed := feeds_closing (times.mark ++ rest) outer
    have whole := ((opened.trans within).trans closed).trans (feeds_times times rfl follow)
    rw [render_choice]
    simpa [Reading.add, items, inside, found, names, rows, namesOfAll] using whole

theorem feeds_sequence : ∀ (parts : List Fragment) (r : Reading) (rest : Text),
    AllReadable CharClass.OneItem parts →
    Fits index r.names (namesOfAll parts) → rest.head? ≠ some '?' →
    Feeds r ((renderAll parts).flatten ++ rest)
      (r.add (itemsOfAll index parts) (namesOfAll parts)) rest
  | [], r, rest, _, _, _ => by
    simpa [renderAll, Reading.add, itemsOfAll, namesOfAll, rowsOfAll] using Feeds.done
  | f :: parts, r, rest, readable, fits, follow => by
    rw [namesOfAll_cons] at fits
    have first := feeds f r ((renderAll parts).flatten ++ rest) readable.1 fits.left
      (renderAll_head parts readable.2 rest follow)
    have others := feeds_sequence parts (r.add (f.items index) f.names) rest readable.2
      fits.right follow
    have both := first.trans others
    rw [renderAll, List.flatten_cons, List.append_assoc]
    simpa [Reading.add, itemsOfAll, namesOfAll_cons] using both

-- The last branch is still being read when the branches end.
theorem feeds_branches : ∀ (branches : List Fragment) (r : Reading) (rest : Text),
    branches ≠ [] → AllReadable CharClass.OneItem branches → r.items = [] →
    Fits index r.names (namesOfAll branches) →
    rest.head? ≠ some '?' →
    ∃ r', Feeds r (Node.joinBranches (renderAll branches) ++ rest) r' rest ∧ r'.outer = r.outer ∧
      r'.names = r.names ++ (namesOfAll branches).map some ∧
      r'.inside = Tree.ofBranches (r.branches.reverse ++ trees index branches)
  | [f], r, rest, _, readable, empty, fits, follow => by
    have one : namesOfAll [f] = f.names := by simp [namesOfAll, rowsOfAll, names]
    rw [one] at fits ⊢
    have only := feeds f r rest readable.1 fits follow
    refine ⟨_, only, rfl, rfl, ?_⟩
    · simp [Reading.inside, Reading.add, empty, trees]
  | f :: g :: branches, r, rest, _, readable, empty, fits, follow => by
    rw [namesOfAll_cons] at fits ⊢
    have first := feeds f r ('|' :: (Node.joinBranches (renderAll (g :: branches)) ++ rest))
      readable.1 fits.left (by simp)
    have barred := first.trans feeds_bar
    obtain ⟨r', others, outer, found, inside⟩ := feeds_branches (g :: branches)
      ⟨Tree.ofItems (r.add (f.items index) f.names).items.reverse :: r.branches, [], r.outer,
        (r.add (f.items index) f.names).names⟩ rest (by simp) readable.2 rfl fits.right follow
    refine ⟨r', ?_, outer, ?_, ?_⟩
    · have text : Node.joinBranches (renderAll (f :: g :: branches)) ++ rest =
          f.render ++ '|' :: (Node.joinBranches (renderAll (g :: branches)) ++ rest) := by
        simp [renderAll, Node.joinBranches]
      rw [text]
      exact barred.trans others
    · simpa [Reading.add, List.append_assoc] using found
    · simpa [Reading.add, empty, trees] using inside
end

end

def number (f : Fragment) (name : Text) : Nat := f.names.idxOf name

theorem indexed_number {f : Fragment} (distinct : f.names.Nodup) : Indexed f.number 0 f.names := by
  intro i name found
  obtain ⟨inside, rfl⟩ := List.getElem?_eq_some_iff.mp found
  rw [number, distinct.idxOf_getElem i inside, Nat.zero_add]

def anchoredTree (f : Fragment) : Tree :=
  .concat [.look .textStart, .plainGroup (Tree.ofItems (f.items f.number)), .look .textEnd]

theorem fits_number {f : Fragment} (distinct : f.names.Nodup) : Fits f.number [] f.names := by
  refine ⟨?_, indexed_number distinct⟩
  rw [List.nil_append]
  exact distinct.map (Option.some_injective _)

theorem read_render {f : Fragment} (readable : f.Readable CharClass.OneItem) (distinct : f.names.Nodup) :
    Pattern.read f.render = .ok ⟨Tree.ofItems (f.items f.number), f.names.map some⟩ := by
  have within := feeds f .start [] readable (fits_number distinct) (by simp)
  rw [List.append_nil] at within
  have loop := within.readLoop rfl (Nat.lt_succ_self _)
  rw [Pattern.read, loop]
  simp [bind, Except.bind, Reading.start, Reading.add, Reading.inside, Tree.ofBranches, pure,
    Except.pure]

theorem read_anchored {f : Fragment} (readable : f.Readable CharClass.OneItem) (distinct : f.names.Nodup) :
    Pattern.read (Node.anchored f.render) = .ok ⟨f.anchoredTree, f.names.map some⟩ := by
  have start : Feeds .start (Node.anchored f.render)
      (Reading.start.push (.look .textStart)) ("(?:".toList ++ (f.render ++ [')', '$'])) :=
    Pattern.feeds_token (.item (.look .textStart)) (fun _ _ => rfl)
      (by simp [Node.anchored]) rfl
  have opened := start.trans (feeds_plainOpening _)
  have within := opened.trans (feeds f _ [')', '$'] readable (fits_number distinct) (by simp))
  have closed := within.trans (feeds_closing ['$'] rfl)
  have finished := closed.trans (Pattern.feeds_token (.item (.look .textEnd))
    (fun _ _ => rfl) (by simp) rfl)
  have loop := finished.readLoop rfl (Nat.lt_succ_self _)
  rw [Pattern.read, loop]
  simp [bind, Except.bind, Reading.start, Reading.push, Reading.add, Reading.inside, Tree.ofBranches,
    Tree.ofItems, anchoredTree, pure, Except.pure]

end Fragment
end Typeahead
