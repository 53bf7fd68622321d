import Mathlib.Data.Nat.Log
import Mathlib.Tactic.Ring
import Typeahead.Proofs.Node.Outline

namespace Typeahead

namespace Node

-- How often a child is in the first half, as so many children are halved again and again.
def halvings (count index : Nat) : Nat :=
  if count < 2 then 0
  else if index < count / 2 then halvings (count / 2) index + 1
  else halvings (count - count / 2) (index - count / 2)
termination_by count

theorem halvings_head {count index : Nat} (long : 2 ≤ count) (head : index < count / 2) :
    halvings count index = halvings (count / 2) index + 1 := by
  rw [halvings, if_neg (by omega), if_pos head]

theorem halvings_tail {count : Nat} (long : 2 ≤ count) (index : Nat) :
    halvings count (count / 2 + index) = halvings (count - count / 2) index := by
  rw [halvings, if_neg (by omega), if_neg (by omega), Nat.add_sub_cancel_left]

theorem halvings_le_log (count index : Nat) : halvings count index ≤ Nat.log 2 count := by
  induction count, index using halvings.induct with
  | case1 count index short =>
    rw [halvings, if_pos short]
    exact Nat.zero_le _
  | case2 count index long head ih =>
    rw [halvings_head (by omega) head, Nat.log_of_one_lt_of_le Nat.one_lt_two (by omega)]
    exact Nat.succ_le_succ ih
  | case3 count index long tail ih =>
    rw [halvings, if_neg long, if_neg tail]
    exact ih.trans (Nat.log_mono_right (Nat.sub_le _ _))

end Node

namespace Outline
open Node (halvings halvings_head halvings_tail)

-- The fuel does not run out, for either half is shorter than the list.
theorem halve_induct {M : List Part → Outline → Prop} (nothing : M [] .nothing)
    (only : ∀ part, M [part] part.begun)
    (cut : ∀ head tail inside beyond, 2 ≤ (head ++ tail).length →
      head.length = (head ++ tail).length / 2 → M head inside → M tail beyond →
      M (head ++ tail) (cut head inside beyond))
    (fuel : Nat) (parts : List Part) (enough : parts.length ≤ fuel) : M parts (halve fuel parts) := by
  induction parts using Node.halves_induct generalizing fuel with
  | nothing => cases fuel <;> exact nothing
  | only part => cases fuel <;> exact only part
  | both parts long head tail =>
    obtain ⟨fuel, rfl⟩ : ∃ n, fuel = n + 1 := ⟨fuel - 1, by omega⟩
    have headLength : (parts.take (parts.length / 2)).length = parts.length / 2 := by
      rw [List.length_take]
      omega
    have tailLength := List.length_drop (i := parts.length / 2) (l := parts)
    have halves := cut _ _ _ _ (by rwa [List.take_append_drop]) (by rwa [List.take_append_drop])
      (head fuel (by omega)) (tail fuel (by omega))
    rwa [List.take_append_drop, ← halve_cut parts long] at halves

structure Closed (P : Outline → Prop) : Prop where
  nothing : P .nothing
  pair : ∀ joint first second, P first → P second → P (.pair joint first second)
  plain : ∀ times body, P body → P (.plain times body)

namespace Closed
variable {P : Outline → Prop}

theorem inRow (closed : Closed P) {outlines : List Outline} (each : ∀ o ∈ outlines, P o) :
    P (inRow outlines) := by
  induction outlines with
  | nil => exact closed.nothing
  | cons o rest ih =>
    obtain ⟨first, others⟩ := List.forall_mem_cons.mp each
    exact closed.pair _ _ _ first (ih others)

theorem branches (closed : Closed P) {outlines : List Outline} (each : ∀ o ∈ outlines, P o) :
    P (branches outlines) := by
  induction outlines with
  | nil => exact closed.nothing
  | cons branch rest ih =>
    obtain ⟨first, others⟩ := List.forall_mem_cons.mp each
    cases rest with
    | nil => exact first
    | cons next rest => exact closed.pair _ _ _ first (ih others)

theorem halve (closed : Closed P) {parts : List Part} {fuel : Nat} (enough : parts.length ≤ fuel)
    (each : ∀ part ∈ parts, P part.finished ∧ P part.begun) : P (halve fuel parts) := by
  refine halve_induct (M := fun parts o => (∀ part ∈ parts, P part.finished ∧ P part.begun) → P o)
    (fun _ => closed.nothing) (fun part each => (each part (List.mem_singleton_self _)).2) ?_
    fuel parts enough each
  intro head tail inside beyond _ _ ihInside ihBeyond each
  obtain ⟨first, second⟩ := List.forall_mem_append.mp each
  have finished : P (Outline.inRow (head.map Part.finished)) :=
    closed.inRow (List.forall_mem_map.mpr fun part member => (first part member).1)
  exact closed.plain _ _ (closed.pair _ _ _ (ihInside first)
    (closed.pair _ _ _ finished (ihBeyond second)))

end Closed

section
variable {α : Type} (f g : α → Nat)

-- A sum in which the finished copies of each child are counted too.
def tally (count k : Nat) (parts : List α) : Nat :=
  ((parts.zipIdx k).map fun (part, j) => f part + halvings count j * g part).sum

theorem tally_cons (count k : Nat) (part : α) (parts : List α) :
    tally f g count k (part :: parts) =
      f part + halvings count k * g part + tally f g count (k + 1) parts := by
  rw [tally, List.zipIdx_cons, List.map_cons, List.sum_cons, tally]

-- Each child of the first half has one finished copy more than it has as a child of that half alone.
theorem tally_cut (head tail : List α) (long : 2 ≤ (head ++ tail).length)
    (half : head.length = (head ++ tail).length / 2) :
    tally f g (head ++ tail).length 0 (head ++ tail) =
      tally f g head.length 0 head + (head.map g).sum + tally f g tail.length 0 tail := by
  have rest : (head ++ tail).length - head.length = tail.length := by
    rw [List.length_append, Nat.add_sub_cancel_left]
  have copies : (head.map g).sum = ((head.zipIdx 0).map fun (part, _) => g part).sum := by
    conv_lhs => rw [← List.zipIdx_map_fst 0 head, List.map_map]
    rfl
  unfold tally
  rw [List.zipIdx_append, List.map_append, List.sum_append, copies, ← List.sum_map_add]
  congr 1
  · refine congrArg List.sum (List.map_congr_left fun ⟨part, j⟩ member => ?_)
    have inside : j < (head ++ tail).length / 2 := half ▸ List.snd_lt_of_mem_zipIdx member
    simp only [halvings_head long inside, ← half]
    ring
  · rw [Nat.zero_add, List.zipIdx_eq_map_add, List.map_map]
    refine congrArg List.sum (List.map_congr_left fun ⟨part, j⟩ _ => ?_)
    have later := halvings_tail long j
    rw [← half, rest] at later
    simp only [Function.comp, later]

end

theorem nesting_inRow_le {leaf : CharClass → Nat} {deepest : Nat} {outlines : List Outline}
    (each : ∀ o ∈ outlines, o.nesting leaf ≤ deepest) : (inRow outlines).nesting leaf ≤ deepest := by
  induction outlines with
  | nil => exact Nat.zero_le _
  | cons o rest ih =>
    obtain ⟨first, others⟩ := List.forall_mem_cons.mp each
    exact max_le first (ih others)

-- A cut puts one group around two halves, of which the longer has half of the children, rounded up.
theorem nesting_halve_le {leaf : CharClass → Nat} {deepest fuel : Nat} {parts : List Part}
    (enough : parts.length ≤ fuel)
    (each : ∀ part ∈ parts, part.finished.nesting leaf ≤ deepest ∧ part.begun.nesting leaf ≤ deepest) :
    (halve fuel parts).nesting leaf ≤ deepest + Nat.clog 2 parts.length := by
  refine halve_induct (M := fun parts o =>
    (∀ part ∈ parts, part.finished.nesting leaf ≤ deepest ∧ part.begun.nesting leaf ≤ deepest) →
      o.nesting leaf ≤ deepest + Nat.clog 2 parts.length)
    (fun _ => Nat.zero_le _)
    (fun part each => Nat.le_add_right_of_le (each part (List.mem_singleton_self _)).2) ?_
    fuel parts enough each
  intro head tail inside beyond long half ihInside ihBeyond each
  obtain ⟨first, second⟩ := List.forall_mem_append.mp each
  have one := ihInside first
  have other := ihBeyond second
  have finished : (inRow (head.map Part.finished)).nesting leaf ≤ deepest :=
    nesting_inRow_le (List.forall_mem_map.mpr fun part member => (first part member).1)
  have level : Nat.clog 2 (head ++ tail).length = Nat.clog 2 (((head ++ tail).length + 1) / 2) + 1 :=
    Nat.clog_of_two_le Nat.one_lt_two long
  rw [List.length_append] at half level
  have shorter : Nat.clog 2 head.length ≤ Nat.clog 2 ((head.length + tail.length + 1) / 2) :=
    Nat.clog_mono_right 2 (by omega)
  have longer : Nat.clog 2 tail.length ≤ Nat.clog 2 ((head.length + tail.length + 1) / 2) :=
    Nat.clog_mono_right 2 (by omega)
  rw [List.length_append, level]
  simp only [cut, nesting]
  omega

end Outline
end Typeahead
