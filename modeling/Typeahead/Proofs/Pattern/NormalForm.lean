import Typeahead.Pattern.Basic
import Typeahead.Proofs.CharSet.Operations
import Typeahead.Proofs.Pattern.Move

namespace Typeahead.Pattern
open Move (step)
variable {a b : Place} {ms : List Mark}

def literalMove (chars : List Char) : Move := (chars.map fun c => step (.single c)).prod

mutual
def move : Pattern → Move
  | .empty => 1
  | .literal chars => literalMove chars
  | .set s => step s
  | .look l => .look l
  | .repetition least most _ body => (move body).rounds least most
  | .group index body => .mark (.opens index) * move body * .mark (.closes index)
  | .concat items => moveAll items
  | .choice branches => moveAny branches

def moveAll : List Pattern → Move
  | [] => 1
  | p :: rest => move p * moveAll rest

def moveAny : List Pattern → Move
  | [] => 0
  | p :: rest => move p + moveAny rest
end

theorem moveAll_eq (ps : List Pattern) : moveAll ps = (ps.map move).prod := by
  induction ps with
  | nil => rfl
  | cons p ps ih => rw [moveAll, ih, List.map_cons, List.prod_cons]

theorem moveAny_eq (ps : List Pattern) : moveAny ps = (ps.map move).sum := by
  induction ps with
  | nil => rfl
  | cons p ps ih => rw [moveAny, ih, List.map_cons, List.sum_cons]

theorem move_concat (ps : List Pattern) : (concat ps).move = (ps.map move).prod := moveAll_eq ps

theorem move_choice (ps : List Pattern) : (choice ps).move = (ps.map move).sum := moveAny_eq ps

theorem literalMove_append (a b : List Char) :
    literalMove (a ++ b) = literalMove a * literalMove b := by
  simp [literalMove]

-- All sets have their runs in order, which `union` relies on, no repetition asks for more rounds than
-- it allows, and every choice has a branch.
mutual
def Tidy : Pattern → Prop
  | .set s => s.Ordered
  | .repetition least most _ body => (∀ k ∈ most, least ≤ k) ∧ Tidy body
  | .group _ body => Tidy body
  | .concat items => AllTidy items
  | .choice branches => branches ≠ [] ∧ AllTidy branches
  | .empty => True
  | .literal _ => True
  | .look _ => True

def AllTidy : List Pattern → Prop
  | [] => True
  | p :: rest => Tidy p ∧ AllTidy rest
end

theorem allTidy_iff {ps : List Pattern} : AllTidy ps ↔ ∀ p ∈ ps, p.Tidy := by
  induction ps with
  | nil => simp [AllTidy]
  | cons p ps ih => simp [AllTidy, ih]

theorem ofSet_move {s : CharSet} (ordered : s.Ordered) : (ofSet s).move = step s := by
  unfold ofSet
  split
  · rename_i c found
    simp only [move, literalMove, List.map_cons, List.map_nil, List.prod_cons, List.prod_nil, mul_one]
    exact Move.step_congr fun d => by
      rw [CharSet.mem_single, CharSet.only?_mem ordered found]
  · rfl

theorem ofSet_tidy {s : CharSet} (ordered : s.Ordered) : (ofSet s).Tidy := by
  unfold ofSet
  split
  · trivial
  · exact ordered

theorem parts_move (p : Pattern) : (p.parts.map move).prod = p.move := by
  cases p with
  | empty => rfl
  | concat items => exact (move_concat items).symm
  | _ => simp [parts]

theorem joinLiterals_move (ps : List Pattern) :
    ((joinLiterals ps).map move).prod = (ps.map move).prod := by
  induction ps with
  | nil => rfl
  | cons p ps ih =>
    cases p with
    | literal chars =>
      rw [joinLiterals, List.map_cons, List.prod_cons, ← ih]
      split
      · rename_i more rest joined
        rw [joined]
        simp only [List.map_cons, List.prod_cons, move, literalMove_append, mul_assoc]
      · simp
    | _ => simp [joinLiterals, ih]

theorem joined_move (ps : List Pattern) :
    ((joinLiterals (ps.flatMap parts)).map move).prod = (ps.map move).prod := by
  rw [joinLiterals_move]
  induction ps with
  | nil => rfl
  | cons p ps ih => simp [ih, parts_move]

theorem ofParts_move (ps : List Pattern) : (ofParts ps).move = (ps.map move).prod := by
  rw [← joined_move, ofParts]
  split
  · rename_i none
    simp [none, move]
  · rename_i p one
    simp [one]
  · exact move_concat _

theorem joinLiterals_tidy {ps : List Pattern} (tidy : AllTidy ps) :
    AllTidy (joinLiterals ps) := by
  induction ps with
  | nil => trivial
  | cons p ps ih =>
    have rest := ih tidy.2
    cases p with
    | literal chars =>
      rw [joinLiterals]
      split
      · rename_i joined
        rw [joined] at rest
        exact ⟨trivial, rest.2⟩
      · exact ⟨trivial, rest⟩
    | _ => exact ⟨tidy.1, rest⟩

theorem parts_tidy {p : Pattern} (tidy : p.Tidy) : AllTidy p.parts := by
  cases p with
  | empty => trivial
  | concat items => exact tidy
  | _ => exact ⟨tidy, trivial⟩

theorem ofParts_tidy {ps : List Pattern} (tidy : AllTidy ps) :
    (ofParts ps).Tidy := by
  have flat : AllTidy (ps.flatMap parts) := by
    rw [allTidy_iff] at *
    intro p member
    obtain ⟨q, old, part⟩ := List.mem_flatMap.mp member
    exact allTidy_iff.mp (parts_tidy (tidy q old)) p part
  have joined := joinLiterals_tidy flat
  rw [ofParts]
  split
  · trivial
  · rename_i p one
    rw [one] at joined
    exact joined.1
  · exact joined

theorem alternatives_move (p : Pattern) : (p.alternatives.map move).sum = p.move := by
  cases p with
  | choice branches => exact (move_choice branches).symm
  | _ => simp [alternatives]

theorem alternatives_tidy {p : Pattern} (tidy : p.Tidy) :
    AllTidy p.alternatives := by
  cases p with
  | choice branches => exact tidy.2
  | _ => exact ⟨tidy, trivial⟩

theorem alternatives_ne_nil {p : Pattern} (tidy : p.Tidy) : p.alternatives ≠ [] := by
  cases p with
  | choice branches => exact tidy.1
  | _ => exact List.cons_ne_nil _ _

theorem unionOf?_move {view : Pattern → Option CharSet} {ps : List Pattern} {s : CharSet}
    (viewed : ∀ p ∈ ps, ∀ t, view p = some t → p.move = step t ∧ t.Ordered)
    (found : unionOf? view ps = some s) : (ps.map move).sum = step s ∧ s.Ordered := by
  suffices general : ∀ before : CharSet, before.Ordered →
      ps.foldlM (fun found p => (view p).map found.union) before = some s →
      step before + (ps.map move).sum = step s ∧ s.Ordered by
    have result := general .empty .nil found
    rwa [Move.step_empty, zero_add] at result
  clear found
  induction ps with
  | nil =>
    intro before ordered found
    obtain rfl : before = s := by simpa using found
    simp [ordered]
  | cons p ps ih =>
    intro before ordered found
    rw [List.foldlM_cons] at found
    obtain ⟨next, here, rest⟩ := Option.bind_eq_some_iff.mp found
    obtain ⟨t, seen, rfl⟩ := Option.map_eq_some_iff.mp here
    obtain ⟨same, ordered'⟩ := viewed p (by simp) t seen
    have result := ih (fun q m => viewed q (by simp [m])) (before.union t)
      (CharSet.union_ordered ordered ordered') rest
    have joined : step (before.union t) = step before + step t :=
      Move.step_add fun c => CharSet.mem_union ordered ordered'
    rw [List.map_cons, List.sum_cons, same, ← add_assoc, ← joined]
    exact result

theorem singleChar?_move {p : Pattern} {s : CharSet} (seen : singleChar? p = some s) :
    p.move = step s ∧ s.Ordered := by
  unfold singleChar? at seen
  split at seen
  · cases seen
    refine ⟨?_, (CharSet.single_separate _).ordered⟩
    simp [move, literalMove]
  · cases seen

theorem set?_move {p : Pattern} {s : CharSet} (tidy : p.Tidy) (seen : set? p = some s) :
    p.move = step s ∧ s.Ordered := by
  unfold set? at seen
  split at seen
  · cases seen
    exact ⟨rfl, tidy⟩
  · cases seen

mutual
theorem eq_of_same : ∀ p q : Pattern, same p q = true → p = q := by
  intro p q equal
  cases p <;> cases q <;> simp only [same, Bool.and_eq_true, beq_iff_eq, Bool.false_eq_true] at equal
  case empty.empty => rfl
  case literal.literal => rw [equal]
  case set.set => rw [equal]
  case look.look => rw [equal]
  case repetition.repetition =>
    obtain ⟨⟨⟨rfl, rfl⟩, rfl⟩, body⟩ := equal
    rw [eq_of_same _ _ body]
  case group.group =>
    obtain ⟨rfl, body⟩ := equal
    rw [eq_of_same _ _ body]
  case concat.concat => rw [eq_of_sameAll _ _ equal]
  case choice.choice => rw [eq_of_sameAll _ _ equal]

theorem eq_of_sameAll : ∀ ps qs : List Pattern, sameAll ps qs = true → ps = qs := by
  intro ps qs equal
  cases ps <;> cases qs <;> simp only [sameAll, Bool.and_eq_true, Bool.false_eq_true] at equal
  case nil.nil => rfl
  case cons.cons => rw [eq_of_same _ _ equal.1, eq_of_sameAll _ _ equal.2]
end

theorem take_sharedLength {n : Nat} {ps qs : List Pattern} (short : n ≤ sharedLength ps qs) :
    qs.take n = ps.take n := by
  induction ps generalizing qs n with
  | nil =>
    obtain rfl : n = 0 := by simpa [sharedLength] using short
    simp
  | cons p ps ih =>
    cases qs with
    | nil =>
      obtain rfl : n = 0 := by simpa [sharedLength] using short
      simp
    | cons q qs =>
      cases n with
      | zero => simp
      | succ n =>
        rw [sharedLength] at short
        split at short
        · rename_i equal
          rw [List.take_succ_cons, List.take_succ_cons, eq_of_same p q equal, ih (by omega)]
        · omega

theorem foldl_min_le (f : α → Nat) (items : List α) (n : Nat) :
    items.foldl (fun n x => min n (f x)) n ≤ n ∧
      ∀ x ∈ items, items.foldl (fun n x => min n (f x)) n ≤ f x := by
  induction items generalizing n with
  | nil => simp
  | cons x items ih =>
    obtain ⟨first, rest⟩ := ih (min n (f x))
    simp only [List.foldl_cons]
    refine ⟨by omega, ?_⟩
    intro y member
    rcases List.mem_cons.mp member with rfl | old
    · omega
    · exact rest y old

theorem items?_eq {p : Pattern} {items : List Pattern} (seen : items? p = some items) :
    p = .concat items := by
  unfold items? at seen
  split at seen
  · cases seen
    rfl
  · cases seen

theorem mapM_items? {ps : List Pattern} {lists : List (List Pattern)}
    (seen : ps.mapM items? = some lists) : ps = lists.map .concat := by
  induction ps generalizing lists with
  | nil =>
    obtain rfl : lists = [] := by simpa using seen.symm
    rfl
  | cons p ps ih =>
    rw [List.mapM_cons] at seen
    obtain ⟨items, here, seen⟩ := Option.bind_eq_some_iff.mp seen
    obtain ⟨rest, tail, seen⟩ := Option.bind_eq_some_iff.mp seen
    cases seen
    rw [List.map_cons, items?_eq here, ih tail]

theorem shared?_eq {ps : List Pattern} {n : Nat} {lists : List (List Pattern)}
    (seen : shared? ps = some (n, lists)) :
    ps = lists.map .concat ∧ ∀ items ∈ lists, items.take n = (lists.headD []).take n := by
  unfold shared? at seen
  split at seen
  · rename_i first rest all
    simp only [Option.ite_none_left_eq_some, Option.some.injEq, Prod.mk.injEq] at seen
    obtain ⟨_, rfl, rfl⟩ := seen
    refine ⟨mapM_items? all, ?_⟩
    intro items member
    obtain ⟨_, bound⟩ := foldl_min_le (sharedLength first) rest first.length
    rcases List.mem_cons.mp member with rfl | old
    · rfl
    · exact take_sharedLength (bound items old)
  · cases seen

-- What all branches begin with comes before the choice: the product distributes over the sum.
theorem shared_move {n : Nat} {lists : List (List Pattern)} {shared : List Pattern}
    (begins : ∀ items ∈ lists, items.take n = shared) :
    ((lists.map Pattern.concat).map move).sum =
      (shared.map move).prod * ((lists.map fun items => ofParts (items.drop n)).map move).sum := by
  rw [List.map_map, List.map_map, ← List.sum_map_mul_left]
  refine congrArg List.sum (List.map_congr_left fun items member => ?_)
  rw [Function.comp_apply, Function.comp_apply, move_concat, ofParts_move, ← begins items member,
    ← List.prod_append, ← List.map_append, List.take_append_drop]

theorem flatten_choice {ps : List Pattern} (tidy : AllTidy ps) :
    ((ps.flatMap alternatives).map move).sum = (ps.map move).sum ∧
      AllTidy (ps.flatMap alternatives) := by
  induction ps with
  | nil => exact ⟨rfl, trivial⟩
  | cons p ps ih =>
    obtain ⟨same, rest⟩ := ih tidy.2
    refine ⟨by simp [same, alternatives_move], ?_⟩
    rw [allTidy_iff] at *
    intro q member
    rw [List.flatMap_cons] at member
    cases List.mem_append.mp member with
    | inl first => exact allTidy_iff.mp (alternatives_tidy (tidy p (by simp))) q first
    | inr later => exact rest q later

theorem shared_tidy {n : Nat} {lists : List (List Pattern)}
    (tidy : AllTidy (lists.map .concat)) :
    AllTidy ((lists.headD []).take n) ∧
      AllTidy (lists.map fun items => ofParts (items.drop n)) := by
  have each : ∀ items ∈ lists, ∀ p ∈ items, p.Tidy := fun items member =>
    allTidy_iff.mp (allTidy_iff.mp tidy (.concat items) (List.mem_map_of_mem member))
  constructor
  · refine allTidy_iff.mpr fun p member => ?_
    cases lists with
    | nil => simp at member
    | cons first rest => exact each first (by simp) p (List.mem_of_mem_take member)
  · refine allTidy_iff.mpr fun p member => ?_
    obtain ⟨items, old, rfl⟩ := List.mem_map.mp member
    exact ofParts_tidy (allTidy_iff.mpr fun q here =>
      each items old q (List.mem_of_mem_drop here))

theorem ofBranchesLoop_move {ps : List Pattern} (tidy : AllTidy ps) (fuel : Nat) :
    (ofBranchesLoop fuel ps).move = (ps.map move).sum ∧ (ofBranchesLoop fuel ps).Tidy := by
  induction fuel using Nat.strong_induction_on generalizing ps with
  | _ fuel ih =>
    obtain ⟨same, flat⟩ := flatten_choice tidy
    rw [← same, ofBranchesLoop.eq_def]
    simp only
    split
    · rename_i none
      rw [none]
      exact ⟨Move.step_empty, .nil⟩
    · rename_i p one
      rw [one] at flat ⊢
      exact ⟨by simp, flat.1⟩
    · rename_i some' _
      split
      · rename_i s found
        obtain ⟨union, inOrder⟩ := unionOf?_move (fun _ _ _ => singleChar?_move) found
        exact ⟨by rw [union, ofSet_move inOrder], ofSet_tidy inOrder⟩
      · split
        · rename_i s found
          obtain ⟨union, inOrder⟩ := unionOf?_move
            (fun p member t => set?_move (allTidy_iff.mp flat p member)) found
          exact ⟨by rw [union, ofSet_move inOrder], ofSet_tidy inOrder⟩
        · split
          · rename_i fuel n lists seen
            obtain ⟨all, begins⟩ := shared?_eq seen
            rw [all] at flat ⊢
            obtain ⟨front, back⟩ := shared_tidy (n := n) flat
            obtain ⟨rest, restTidy⟩ := ih fuel (by omega) back
            constructor
            · rw [ofParts_move, List.map_append, List.prod_append, List.map_singleton,
                List.prod_singleton, rest]
              exact (shared_move begins).symm
            · refine ofParts_tidy (allTidy_iff.mpr fun p member => ?_)
              cases List.mem_append.mp member with
              | inl first => exact allTidy_iff.mp front p first
              | inr last => rwa [List.mem_singleton.mp last]
          · exact ⟨move_choice _, some', flat⟩

theorem ofBranches_move {ps : List Pattern} (tidy : AllTidy ps) :
    (ofBranches ps).move = (ps.map move).sum := (ofBranchesLoop_move tidy _).1

theorem ofBranches_tidy {ps : List Pattern} (tidy : AllTidy ps) :
    (ofBranches ps).Tidy := (ofBranchesLoop_move tidy _).2

theorem upTo_stays {m : Move} (stays : ∀ a b ms, m a b ms → a = b) (n : Nat) :
    ∀ a b ms, m.upTo n a b ms → a = b := by
  induction n with
  | zero => exact fun _ _ _ way => way.1
  | succ n ih =>
    intro a b ms either
    rcases either with ⟨_, _, _, left, right, _⟩ | ⟨rfl, _⟩
    · exact (stays _ _ _ left).trans (ih _ _ _ right)
    · rfl

theorem pow_stays {m : Move} (stays : ∀ a b ms, m a b ms → a = b) (n : Nat) :
    ∀ a b ms, (m ^ n) a b ms → a = b := by
  induction n with
  | zero => exact fun _ _ _ way => way.1
  | succ n ih =>
    intro a b ms given
    obtain ⟨_, _, _, left, right, _⟩ := given
    exact (ih _ _ _ left).trans (stays _ _ _ right)

theorem rounds_stays {m : Move} (stays : ∀ a b ms, m a b ms → a = b) :
    ∀ a b ms, m.rounds least most a b ms → a = b := by
  intro a b ms given
  obtain ⟨_, _, _, left, right, _⟩ := given
  refine (pow_stays stays least _ _ _ left).trans ?_
  cases most with
  | none =>
    obtain ⟨n, way⟩ := right
    exact pow_stays stays n _ _ _ way
  | some k => exact upTo_stays stays _ _ _ _ right

theorem rounds_zero {m : Move} : m.rounds 0 (some 0) = 1 := by
  simp [Move.rounds, Move.upTo]

mutual
theorem stays_of_onlyEmpty : ∀ p : Pattern, p.Tidy → p.onlyEmpty = true →
    ∀ a b ms, p.move a b ms → a = b
  | .empty, _, _, _, _, _, way => way.1
  | .literal [], _, _, _, _, _, way => way.1
  | .literal (_ :: _), _, only, _, _, _, _ => by simp [onlyEmpty] at only
  | .set _, _, only, _, _, _, _ => by simp [onlyEmpty] at only
  | .look _, _, _, _, _, _, way => way.1
  | .repetition least most _ body, tidy, only, a, b, ms, way => by
    simp only [onlyEmpty, Bool.or_eq_true, beq_iff_eq] at only
    rcases only with rfl | inside
    · obtain rfl : least = 0 := by simpa using tidy.1 0 rfl
      rw [move, rounds_zero] at way
      exact way.1
    · exact rounds_stays (stays_of_onlyEmpty body tidy.2 inside) _ _ _ way
  | .group _ body, tidy, only, _, _, _, way => by
    obtain ⟨_, _, _, ⟨_, _, _, ⟨rfl, _⟩, inside, _⟩, ⟨rfl, _⟩, _⟩ := way
    exact stays_of_onlyEmpty body tidy only _ _ _ inside
  | .concat items, tidy, only, _, _, _, way => concat_stays items tidy only _ _ _ way
  | .choice branches, tidy, only, _, _, _, way => choice_stays branches tidy.2 only _ _ _ way

theorem concat_stays : ∀ ps : List Pattern, AllTidy ps → allOnlyEmpty ps = true →
    ∀ a b ms, moveAll ps a b ms → a = b
  | [], _, _, _, _, _, way => way.1
  | p :: rest, tidy, only, _, _, _, way => by
    simp only [allOnlyEmpty, Bool.and_eq_true] at only
    obtain ⟨_, _, _, left, right, _⟩ := way
    exact (stays_of_onlyEmpty p tidy.1 only.1 _ _ _ left).trans
      (concat_stays rest tidy.2 only.2 _ _ _ right)

theorem choice_stays : ∀ ps : List Pattern, AllTidy ps → allOnlyEmpty ps = true →
    ∀ a b ms, moveAny ps a b ms → a = b
  | p :: rest, tidy, only, _, _, _, way => by
    simp only [allOnlyEmpty, Bool.and_eq_true] at only
    cases way with
    | inl left => exact stays_of_onlyEmpty p tidy.1 only.1 _ _ _ left
    | inr right => exact choice_stays rest tidy.2 only.2 _ _ _ right
end

-- What stays in place is done with after one round: more rounds of it lead nowhere else. Here `n` is
-- what may come after the first round.
theorem once_refines {m n : Move} {most : Option Nat} (stays : ∀ a b ms, m a b ms → a = b)
    (idle : ∀ a, n a a []) (unfolds : m.rounds 0 most = m * n + 1) :
    Move.Refines (m.rounds 0 (some 1)) (m.rounds 0 most) := by
  have one : m.rounds 0 (some 1) = m + 1 := by simp [Move.rounds, Move.upTo]
  refine ⟨fun a b ms way => ?_, fun a b ms way => ?_⟩
  · rw [one] at way
    rw [unfolds]
    cases way with
    | inl left =>
      have onward := Move.mul_intro left (idle b)
      rw [List.append_nil] at onward
      exact .inl onward
    | inr nothing => exact .inr nothing
  · obtain rfl := rounds_stays stays a b ms way
    rw [one]
    exact ⟨[], .inr Move.one_intro⟩

-- For a repetition that may be left out. Nothing is lost but rounds that stay in place.
theorem ofRepetition_refines {body : Pattern} (tidy : body.Tidy) (most : Option Nat)
    (greedy : Bool) :
    Move.Refines (ofRepetition 0 most greedy body).move (body.move.rounds 0 most) := by
  by_cases once : body.onlyEmpty = true
  · have stays := stays_of_onlyEmpty body tidy once
    match most with
    | none =>
      have any : Move.Refines (body.move.rounds 0 (some 1)) (body.move.rounds 0 none) := by
        refine once_refines stays (n := body.move.star) ?_ ?_
        · exact fun a => ⟨0, by rw [pow_zero]; exact Move.one_intro⟩
        · rw [Move.rounds, pow_zero, one_mul]
          exact Move.star_unfold body.move
      simpa [ofRepetition, once, move] using any
    | some 0 =>
      refine .of_eq ?_
      rw [rounds_zero]
      simp [ofRepetition, once, move]
    | some (k + 1) =>
      have upTo : Move.Refines (body.move.rounds 0 (some 1)) (body.move.rounds 0 (some (k + 1))) := by
        refine once_refines stays (n := body.move.upTo k) (fun a => ?_) ?_
        · cases k with
          | zero => exact Move.one_intro
          | succ k => exact .inr Move.one_intro
        · simp [Move.rounds, Move.upTo]
      simpa [ofRepetition, once, move] using upTo
  · refine .of_eq ?_
    simp only [ofRepetition, once]
    by_cases nothing : most = some 0
    · subst nothing
      rw [rounds_zero]
      simp [move]
    · simp [nothing, move]

theorem ofRepetition_tidy {body : Pattern} (tidy : body.Tidy) (most : Option Nat) (greedy : Bool) :
    (ofRepetition 0 most greedy body).Tidy := by
  have least : (if body.onlyEmpty = true then min 0 1 else 0) = 0 := by split <;> rfl
  simp only [ofRepetition, least]
  generalize (if body.onlyEmpty = true then _ else most) = most
  split
  · trivial
  · rw [if_neg (by simp)]
    exact ⟨by simp, tidy⟩

end Typeahead.Pattern
