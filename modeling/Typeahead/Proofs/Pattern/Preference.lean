import Typeahead.Proofs.Pattern.Search

namespace Typeahead.Pattern
open Relation (ReflTransGen)

namespace Thread

-- Comes to its end and meets none of these threads, up to marks.
inductive Escapes (barred : List Thread) : Thread → Prop
  | done (free : ∀ w ∈ barred, w.bare ≠ t.bare) (finished : t.todo = []) : Escapes barred t
  | step (free : ∀ w ∈ barred, w.bare ≠ t.bare) (leads : t.Leads u) (onward : Escapes barred u) :
      Escapes barred t

-- A way to the marks that are found, while these threads wait. What was tried before each thread on
-- this way escapes neither that thread nor those that wait.
inductive Preferred : List Thread → Thread → List Mark → Prop
  | done (finished : t.todo = []) : Preferred pending t t.marks
  | step (split : t.step = earlier ++ u :: later)
      (failed : ∀ w ∈ earlier, ¬ Escapes (u :: (later ++ pending)) w)
      (onward : Preferred (later ++ pending) u found) : Preferred pending t found

end Thread

open Thread (Escapes Preferred Leads running)
variable {t u : Thread} {code x y : Code} {k todo : List Code} {a b : Place} {marks found ms : List Mark}
  {barred pending : List Thread} {input : List Char} {root : Code} {v : Visited}

namespace Thread

theorem Escapes.free (escapes : Escapes barred t) : ∀ w ∈ barred, w.bare ≠ t.bare := by
  cases escapes with
  | done free _ => exact free
  | step free _ _ => exact free

theorem Escapes.of_bare (escapes : Escapes barred t) (same : t.bare = u.bare) : Escapes barred u := by
  induction escapes generalizing u with
  | done free finished => exact .done (same ▸ free) ((label_of_bare same).1 ▸ finished)
  | step free leads _ ih =>
    obtain ⟨u', leads', equal⟩ := leads_of_bare same leads
    exact .step (same ▸ free) leads' (ih equal)

theorem Preferred.ends (preferred : Preferred pending t found) : t.EndsWith found := by
  induction preferred with
  | done finished => exact ends_nil finished
  | step split _ _ ih =>
    refine ends_of_step ?_ ih
    rw [Leads, split]
    exact List.mem_append_right _ (List.mem_cons_self ..)

-- What comes after the code a thread is in does not matter to its next step.
theorem leads_before {front : List Code} (leads : t.Leads u) (split : t.todo = code :: front ++ k) :
    ∃ front', u.todo = front' ++ k ∧
      Leads (running (code :: front) t.place t.marks) (running front' u.place u.marks) := by
  cases leads_iff.mp leads with
  | pass =>
    obtain ⟨rfl, rfl⟩ := List.cons.inj split
    exact ⟨front, rfl, leads_iff.mpr .pass⟩
  | char here member =>
    obtain ⟨rfl, rfl⟩ := List.cons.inj split
    exact ⟨front, rfl, leads_iff.mpr (.char here member)⟩
  | look holds =>
    obtain ⟨rfl, rfl⟩ := List.cons.inj split
    exact ⟨front, rfl, leads_iff.mpr (.look holds)⟩
  | mark =>
    obtain ⟨rfl, rfl⟩ := List.cons.inj split
    exact ⟨front, rfl, leads_iff.mpr .mark⟩
  | seq =>
    obtain ⟨rfl, rfl⟩ := List.cons.inj split
    exact ⟨_ :: _ :: front, rfl, leads_iff.mpr .seq⟩
  | left =>
    obtain ⟨rfl, rfl⟩ := List.cons.inj split
    exact ⟨_ :: front, rfl, leads_iff.mpr .left⟩
  | right =>
    obtain ⟨rfl, rfl⟩ := List.cons.inj split
    exact ⟨_ :: front, rfl, leads_iff.mpr .right⟩
  | more =>
    obtain ⟨rfl, rfl⟩ := List.cons.inj split
    exact ⟨_ :: _ :: front, rfl, leads_iff.mpr .more⟩
  | fewer =>
    obtain ⟨rfl, rfl⟩ := List.cons.inj split
    exact ⟨front, rfl, leads_iff.mpr .fewer⟩
  | plus =>
    obtain ⟨rfl, rfl⟩ := List.cons.inj split
    exact ⟨_ :: _ :: front, rfl, leads_iff.mpr .plus⟩

theorem Preferred.branches (preferred : Preferred pending t found) (busy : t.todo ≠ []) :
    ∃ earlier u later, t.step = earlier ++ u :: later ∧
      (∀ w ∈ earlier, ¬ Escapes (u :: (later ++ pending)) w) ∧ Preferred (later ++ pending) u found := by
  cases preferred with
  | done finished => exact absurd finished busy
  | step split failed onward => exact ⟨_, _, _, split, failed, onward⟩

end Thread

theorem not_escapes_of_awaited {earlier later : List Thread}
    (closed : Closed root input v (earlier ++ u :: later))
    (failed : ∀ w ∈ earlier, ¬ Escapes (u :: later) w) (known : Known root input t)
    (awaited : Awaited v (earlier ++ u :: later) t) : ¬ Escapes (u :: later) t := by
  intro escapes
  -- a thread that waits cannot be met, one that was tried before does not escape
  have started : ∀ s, Awaited v (earlier ++ u :: later) s → Escapes (u :: later) s →
      s.todo ≠ [] ∧ v.has (firstLabel s.todo) s.offset = true := by
    intro s awaited escapes
    rcases awaited with started | ⟨w, member, same⟩
    · exact started
    · cases List.mem_append.mp member with
      | inl before => exact absurd (escapes.of_bare same.symm) (failed w before)
      | inr waits => exact absurd same (escapes.free w waits)
  induction escapes with
  | done free finished => exact (started _ awaited (.done free finished)).1 finished
  | step free leads onward ih =>
    obtain ⟨busy, seen⟩ := started _ awaited (.step free leads onward)
    exact ih (known.step leads) (closed _ known busy seen _ leads)

-- Once a thread is taken one step further, the search goes on with one of the threads it leads to, or
-- they were all tried and failed and so has the thread.
theorem preferred_of_step {stack earlier later : List Thread} (busy : t.todo ≠ [])
    (split : t.step ++ stack = earlier ++ u :: later)
    (failed : ∀ w ∈ earlier, ¬ Escapes (u :: later) w) (onward : Preferred later u found) :
    ∃ earlier u later, t :: stack = earlier ++ u :: later ∧
      (∀ w ∈ earlier, ¬ Escapes (u :: later) w) ∧ Preferred later u found := by
  have fails (all : ∀ w, t.Leads w → ¬ Escapes (u :: later) w) : ¬ Escapes (u :: later) t := by
    intro escapes
    cases escapes with
    | done _ finished => exact busy finished
    | step _ leads onward => exact all _ leads onward
  rcases List.append_eq_append_iff.mp split with ⟨between, rfl, rest⟩ | ⟨between, steps, rest⟩
  · refine ⟨t :: between, u, later, by rw [rest, List.cons_append], ?_, onward⟩
    exact List.forall_mem_cons.mpr ⟨fails fun w leads => failed w (List.mem_append_left _ leads),
      fun w member => failed w (List.mem_append_right _ member)⟩
  · cases between with
    | nil =>
      rw [List.append_nil] at steps
      refine ⟨[t], u, later, by rw [rest, List.nil_append, List.singleton_append], ?_, onward⟩
      exact List.forall_mem_singleton.mpr (fails fun w leads => failed w (steps ▸ leads : w ∈ earlier))
    | cons w between =>
      obtain ⟨rfl, rfl⟩ := List.cons.inj rest
      exact ⟨[], t, stack, rfl, by simp, .step steps failed onward⟩

theorem Searches.preferred {found' : Option (List Mark)} {stack : List Thread} {fuel : Nat}
    (searches : Searches fuel v stack found') (success : found' = some found)
    (distinct : root.labels.Nodup) (held : Held root input v stack) :
    ∃ earlier t later, stack = earlier ++ t :: later ∧
      (∀ w ∈ earlier, ¬ Escapes (t :: later) w) ∧ Preferred later t found := by
  induction searches with
  | spent | exhausted => cases success
  | done finished =>
    obtain rfl := Option.some.inj success
    exact ⟨[], _, _, rfl, by simp, .done finished⟩
  | drop busy seen _ ih =>
    have held' := held.drop busy seen
    obtain ⟨earlier, u, later, rfl, failed, onward⟩ := ih success held'
    refine ⟨_ :: earlier, u, later, rfl, List.forall_mem_cons.mpr ⟨?_, failed⟩, onward⟩
    exact not_escapes_of_awaited held'.closed failed held.first (.inl ⟨busy, seen⟩)
  | start busy _ _ ih =>
    obtain ⟨earlier, u, later, split, failed, onward⟩ := ih success (held.start distinct busy)
    exact preferred_of_step busy split failed onward

theorem run_preferred {p : Pattern} (searched : p.program.run input = some found) :
    Preferred [] (.start p.program.code input) found := by
  have laid := program_laid p
  obtain ⟨earlier, t, later, split, _, preferred⟩ := (searches _ _ _).preferred searched laid.nodup
    (held_start fun l member => (laid.within l member).2)
  obtain ⟨rfl, rfl, rfl⟩ : earlier = [] ∧ t = .start p.program.code input ∧ later = [] := by
    cases earlier with
    | nil => simpa [eq_comm] using split
    | cons first earlier => simp at split
  exact preferred

def spotsOf : List Code → List (List Code)
  | [] => []
  | code :: k => code.spots k ++ spotsOf k

theorem labels_spotsOf (todo : List Code) : (spotsOf todo).map firstLabel = todo.flatMap Code.labels := by
  induction todo with
  | nil => rfl
  | cons code k ih => rw [spotsOf, List.map_append, labels_spots, ih, List.flatMap_cons]

theorem self_mem_spotsOf (busy : todo ≠ []) : todo ∈ spotsOf todo := by
  cases todo with
  | nil => exact absurd rfl busy
  | cons code k => exact List.mem_append_left _ (self_mem_spots code k)

theorem step_spotsOf (member : t.todo ∈ spotsOf todo) (leads : t.Leads u) :
    u.todo ≠ [] → u.todo ∈ spotsOf todo := by
  induction todo with
  | nil => cases member
  | cons code k ih =>
    intro busy
    cases List.mem_append.mp member with
    | inl first =>
      cases step_spots first leads with
      | inl inside => exact List.mem_append_left _ inside
      | inr rest =>
        rw [rest] at busy ⊢
        exact List.mem_append_right _ (self_mem_spotsOf busy)
    | inr later => exact List.mem_append_right _ (ih later busy)

theorem path_of_moves (way : (todo.map Code.move).prod a b ms) (marks : List Mark) :
    ReflTransGen Leads (running todo a marks) (running [] b (ms.reverse ++ marks)) := by
  induction todo generalizing a ms marks with
  | nil =>
    obtain ⟨rfl, rfl⟩ := way
    exact .refl
  | cons code k ih =>
    obtain ⟨c, first, second, left, right, rfl⟩ := way
    rw [List.reverse_append, List.append_assoc]
    exact (Thread.path_of_move left k marks).trans (ih right _)

-- Threads with something else to do are not met.
def Elsewhere (labels : List Nat) (w : Thread) : Prop := w.todo ≠ [] ∧ firstLabel w.todo ∉ labels

theorem Elsewhere.mono {labels labels' : List Nat} {w : Thread} (elsewhere : Elsewhere labels w)
    (fewer : labels' ⊆ labels) : Elsewhere labels' w :=
  ⟨elsewhere.1, fun inside => elsewhere.2 (fewer inside)⟩

theorem escapes_of_move (apart : ∀ w ∈ barred, Elsewhere (todo.flatMap Code.labels) w)
    (way : (todo.map Code.move).prod a b ms) : Escapes barred (running todo a marks) := by
  have free : ∀ t : Thread, (t.todo ≠ [] → t.todo ∈ spotsOf todo) → ∀ w ∈ barred, w.bare ≠ t.bare := by
    intro t inside w member same
    obtain ⟨busy, label⟩ := apart w member
    rw [(label_of_bare same).1] at busy label
    rw [← labels_spotsOf] at label
    exact label (List.mem_map_of_mem (inside busy))
  have path := path_of_moves way marks
  generalize equal : running todo a marks = t at path
  have inside : t.todo ≠ [] → t.todo ∈ spotsOf todo := by
    subst equal
    exact self_mem_spotsOf
  clear equal
  induction path using ReflTransGen.head_induction_on with
  | refl => exact .done (free _ inside) rfl
  | head leads _ ih =>
    refine .step (free _ inside) leads (ih fun busy => step_spotsOf (inside ?_) leads busy)
    intro done
    simp [Leads, Thread.step, done] at leads

-- What remains to be done, each instruction once, while other threads wait. Of these only the first
-- instruction may wait too.
structure Clear (pending : List Thread) (todo : List Code) : Prop where
  nodup : (todo.flatMap Code.labels).Nodup
  apart : ∀ w ∈ pending, Elsewhere (todo.flatMap Code.labels).tail w

-- A search that finds these marks has come to this place with this to do.
def Stage (todo : List Code) (a : Place) (marks found : List Mark) : Prop :=
  ∃ pending, Clear pending todo ∧ Preferred pending (running todo a marks) found

theorem Code.labels_eq (code : Code) : code.labels = code.label :: code.labels.tail := by
  cases code <;> rfl

theorem Elsewhere.of_nodup {labels labels' : List Nat} (nodup : (labels ++ (y.labels ++ labels')).Nodup) :
    Elsewhere (labels ++ labels') (running (y :: k) a marks) := by
  rw [y.labels_eq, List.cons_append, List.nodup_middle, List.nodup_cons] at nodup
  refine ⟨List.cons_ne_nil _ _, fun inside => nodup.1 ?_⟩
  have label : y.label ∈ labels ++ labels' := inside
  simp only [List.mem_append] at label ⊢
  tauto

theorem elsewhere_of_spot {front : List Code} (nodup : (code.labels ++ k.flatMap Code.labels).Nodup)
    (more : k ≠ []) (split : t.todo = front ++ k) (spot : front ≠ [] → front ∈ code.spots []) :
    Elsewhere (k.flatMap Code.labels).tail t := by
  refine ⟨fun done => more (List.append_eq_nil_iff.mp (split.symm.trans done)).2, fun inside => ?_⟩
  obtain ⟨_, nodup', distinct⟩ := List.nodup_append.mp nodup
  cases front with
  | nil =>
    obtain ⟨next, rest, rfl⟩ := List.exists_cons_of_ne_nil more
    rw [List.flatMap_cons, next.labels_eq, List.cons_append, List.nodup_cons] at nodup'
    rw [split, List.flatMap_cons, next.labels_eq] at inside
    exact nodup'.1 inside
  | cons first front =>
    have label : firstLabel t.todo ∈ code.labels := by
      have first : firstLabel t.todo = firstLabel (first :: front) := by rw [split]; rfl
      rw [first, ← labels_spots code []]
      exact List.mem_map_of_mem (spot (List.cons_ne_nil _ _))
    exact distinct _ label _ (List.mem_of_mem_tail inside) rfl

namespace Stage

theorem of_run {p : Pattern} (searched : p.program.run input = some found) :
    Stage [p.program.code] (.start input) [] found := by
  refine ⟨[], ⟨?_, by simp⟩, run_preferred searched⟩
  simpa using (program_laid p).nodup

theorem ends (stage : Stage todo a marks found) :
    ∃ b ms, (todo.map Code.move).prod a b ms ∧ found = ms.reverse ++ marks := by
  obtain ⟨_, _, preferred⟩ := stage
  exact preferred.ends

theorem next (stage : Stage (code :: k) a marks found)
    (only : (running (code :: k) a marks).step = [running todo b ms])
    (labels : todo.flatMap Code.labels = ((code :: k).flatMap Code.labels).tail) :
    Stage todo b ms found := by
  obtain ⟨pending, clear, preferred⟩ := stage
  obtain ⟨earlier, u, later, split, _, onward⟩ := preferred.branches (List.cons_ne_nil _ _)
  rw [only] at split
  cases earlier with
  | cons w earlier => simp at split
  | nil =>
    obtain ⟨rfl, rfl⟩ := List.cons.inj split
    refine ⟨pending, ⟨labels ▸ clear.nodup.tail, fun w member => ?_⟩, onward⟩
    obtain ⟨busy, label⟩ := clear.apart w member
    exact ⟨busy, fun inside => label (labels ▸ List.mem_of_mem_tail inside)⟩

theorem seq (stage : Stage (.seq l x y :: k) a marks found) : Stage (x :: y :: k) a marks found :=
  stage.next rfl (by simp [Code.labels])

theorem pass (stage : Stage (.pass l :: k) a marks found) : Stage k a marks found :=
  stage.next rfl (by simp [Code.labels])

theorem alt (stage : Stage (.alt l x y :: k) a marks found) : Stage (x :: k) a marks found ∨
    (∀ b ms, ¬ ((x :: k).map Code.move).prod a b ms) ∧ Stage (y :: k) a marks found := by
  obtain ⟨pending, clear, preferred⟩ := stage
  obtain ⟨earlier, u, later, split, failed, onward⟩ := preferred.branches (List.cons_ne_nil _ _)
  have steps : [running (x :: k) a marks, running (y :: k) a marks] = earlier ++ u :: later := split
  have labels : ((Code.alt l x y :: k).flatMap Code.labels).tail =
      x.labels ++ (y.labels ++ k.flatMap Code.labels) := by simp [Code.labels]
  have nodup := labels ▸ clear.nodup.tail
  have apart : ∀ w ∈ pending, Elsewhere (x.labels ++ (y.labels ++ k.flatMap Code.labels)) w :=
    labels ▸ clear.apart
  cases earlier with
  | nil =>
    obtain ⟨rfl, rfl⟩ := List.cons.inj steps
    refine .inl ⟨_, ⟨?_, List.forall_mem_cons.mpr ⟨?_, fun w member => ?_⟩⟩, onward⟩
    · exact ((List.sublist_append_right _ _).append_left _).nodup nodup
    · exact (Elsewhere.of_nodup nodup).mono (List.tail_subset _)
    · exact (apart w member).mono (List.Subset.trans (List.tail_subset _) (by simp))
  | cons first earlier =>
    obtain ⟨rfl, rest⟩ := List.cons.inj steps
    cases earlier with
    | cons second earlier => simp at rest
    | nil =>
      obtain ⟨rfl, rfl⟩ := List.cons.inj rest
      refine .inr ⟨fun b ms way => failed _ (List.mem_singleton_self _) ?_, _, ⟨?_, fun w member => ?_⟩, onward⟩
      · refine escapes_of_move (List.forall_mem_cons.mpr ⟨.of_nodup nodup, fun w member => ?_⟩) way
        exact (apart w member).mono (by simp)
      · exact (List.sublist_append_right _ _).nodup nodup
      · refine (apart w member).mono (List.Subset.trans (List.tail_subset _) ?_)
        exact List.subset_append_right _ _

-- Induction on the way that is left: `front` is what is left of the code, and a thread that waits is
-- about to start some of the code or what remains after it.
theorem through_of_preferred (nodup : (code.labels ++ k.flatMap Code.labels).Nodup) (more : k ≠ [])
    (preferred : Preferred pending t found) (front : List Code) (split : t.todo = front ++ k)
    (spot : front ≠ [] → front ∈ code.spots [])
    (apart : ∀ w ∈ pending, Elsewhere (k.flatMap Code.labels).tail w) :
    ∃ b marks, (running front t.place t.marks).EndsAt b marks ∧ Stage k b marks found := by
  induction preferred generalizing front with
  | done finished =>
    rw [finished] at split
    exact absurd (List.append_eq_nil_iff.mp split.symm).2 more
  | step steps failed onward ih =>
    rename_i earlier u later pending _ t
    cases front with
    | nil =>
      have same : running k t.place t.marks = t := by rw [← show t.todo = k from split]; rfl
      refine ⟨t.place, t.marks, ⟨[], Move.one_intro, rfl⟩, pending, ⟨?_, apart⟩, ?_⟩
      · exact (List.sublist_append_right _ _).nodup nodup
      · rw [same]
        exact .step steps failed onward
    | cons first front =>
      have branch : ∀ w ∈ t.step, ∃ front', w.todo = front' ++ k ∧
          Leads (running (first :: front) t.place t.marks) (running front' w.place w.marks) ∧
          (front' ≠ [] → front' ∈ code.spots []) := by
        intro w leads
        obtain ⟨front', rest, leads'⟩ := Thread.leads_before leads split
        refine ⟨front', rest, leads', fun some' => ?_⟩
        have inside : (running (first :: front) t.place t.marks).todo ∈ code.spots [] :=
          spot (List.cons_ne_nil _ _)
        exact (step_spots inside leads').resolve_right some'
      obtain ⟨front', rest, leads, spot'⟩ := branch u (by rw [steps]; simp)
      obtain ⟨b, marks, ends, stage⟩ := ih front' rest spot' <| by
        intro w member
        rcases List.mem_append.mp member with waits | before
        · obtain ⟨front'', rest, _, spot''⟩ := branch w (by rw [steps]; simp [waits])
          exact elsewhere_of_spot nodup more rest spot''
        · exact apart w before
      exact ⟨b, marks, .of_step leads ends, stage⟩

-- Any piece of code comes to an end of its own, since something remains to be done after it.
theorem through (stage : Stage (code :: k) a marks found) (more : k ≠ []) :
    ∃ b ms, code.move a b ms ∧ Stage k b (ms.reverse ++ marks) found := by
  obtain ⟨pending, clear, preferred⟩ := stage
  have nodup : (code.labels ++ k.flatMap Code.labels).Nodup := clear.nodup
  obtain ⟨b, _, ⟨ms, way, rfl⟩, stage⟩ := through_of_preferred nodup more preferred [code] rfl
    (fun _ => self_mem_spots code [])
    (fun w member => (clear.apart w member).mono (by
      rw [List.flatMap_cons, code.labels_eq, List.cons_append, List.tail_cons]
      exact List.Subset.trans (List.tail_subset _) (List.subset_append_right _ _)))
  have alone : ([code].map Code.move).prod a b ms := way
  exact ⟨b, ms, by simpa using alone, stage⟩

end Stage

end Typeahead.Pattern
