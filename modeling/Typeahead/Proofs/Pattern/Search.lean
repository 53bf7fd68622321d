import Mathlib.Data.Finset.Prod
import Mathlib.Order.Interval.Finset.Nat
import Typeahead.Proofs.Pattern.Thread

namespace Typeahead.Pattern
open Relation (ReflTransGen)

def firstLabel (todo : List Code) : Nat := (todo.head?.map Code.label).getD 0

inductive Searches : Nat → Visited → List Thread → Option (List Mark) → Prop
  | spent : Searches 0 v stack none
  | exhausted : Searches (fuel + 1) v [] none
  | done (finished : t.todo = []) : Searches (fuel + 1) v (t :: stack) (some t.marks)
  | drop (busy : t.todo ≠ []) (seen : v.has (firstLabel t.todo) t.offset = true)
      (onward : Searches fuel v stack found) : Searches (fuel + 1) v (t :: stack) found
  | start (busy : t.todo ≠ []) (new : v.has (firstLabel t.todo) t.offset = false)
      (onward : Searches fuel (v.add (firstLabel t.todo) t.offset) (t.step ++ stack) found) :
      Searches (fuel + 1) v (t :: stack) found

variable {t u : Thread} {code : Code} {k todo : List Code} {input : List Char} {v : Visited}
  {stack : List Thread} {labels : Nat}

-- The code a thread may have left to do, each spot with the label of its first instruction in front
def Code.spots : Code → List Code → List (List Code)
  | .pass l, k => [.pass l :: k]
  | .char l s, k => [.char l s :: k]
  | .look l e, k => [.look l e :: k]
  | .mark l e, k => [.mark l e :: k]
  | .never l, k => [.never l :: k]
  | .seq l a b, k => (.seq l a b :: k) :: (spots a (b :: k) ++ spots b k)
  | .alt l a b, k => (.alt l a b :: k) :: (spots a k ++ spots b k)
  | .star l greedy a, k => (.star l greedy a :: k) :: spots a (.star l greedy a :: k)
  | .plus l again greedy a, k =>
    (.plus l again greedy a :: k) :: (.star again greedy a :: k) ::
      spots a (.star again greedy a :: k)

theorem labels_spots (code : Code) (k : List Code) :
    (code.spots k).map firstLabel = code.labels := by
  induction code generalizing k with
  | seq l a b first second => simp [Code.spots, Code.labels, first, second, firstLabel, Code.label]
  | alt l a b first second => simp [Code.spots, Code.labels, first, second, firstLabel, Code.label]
  | star l greedy a ih => simp [Code.spots, Code.labels, ih, firstLabel, Code.label]
  | plus l again greedy a ih => simp [Code.spots, Code.labels, ih, firstLabel, Code.label]
  | _ => rfl

theorem self_mem_spots (code : Code) (k : List Code) : code :: k ∈ code.spots k := by
  cases code <;> simp [Code.spots]

theorem step_spots (member : t.todo ∈ code.spots k) (leads : t.Leads u) :
    u.todo ∈ code.spots k ∨ u.todo = k := by
  have goes := Thread.leads_iff.mp leads
  induction code generalizing k with
  | pass l | char l s | look l e | mark l e =>
    have here := List.mem_singleton.mp member
    cases goes <;> cases here
    exact .inr rfl
  | never l =>
    have here := List.mem_singleton.mp member
    cases goes <;> cases here
  | seq l a b first second =>
    simp only [Code.spots, List.mem_cons, List.mem_append] at member ⊢
    rcases member with here | inA | inB
    · cases goes <;> cases here
      exact .inl (.inr (.inl (self_mem_spots a (b :: k))))
    · cases first inA with
      | inl inside => exact .inl (.inr (.inl inside))
      | inr rest => exact .inl (.inr (.inr (rest ▸ self_mem_spots b k)))
    · cases second inB with
      | inl inside => exact .inl (.inr (.inr inside))
      | inr rest => exact .inr rest
  | alt l a b first second =>
    simp only [Code.spots, List.mem_cons, List.mem_append] at member ⊢
    rcases member with here | inA | inB
    · cases goes <;> cases here
      · exact .inl (.inr (.inl (self_mem_spots a k)))
      · exact .inl (.inr (.inr (self_mem_spots b k)))
    · cases first inA with
      | inl inside => exact .inl (.inr (.inl inside))
      | inr rest => exact .inr rest
    · cases second inB with
      | inl inside => exact .inl (.inr (.inr inside))
      | inr rest => exact .inr rest
  | star l greedy a ih =>
    simp only [Code.spots, List.mem_cons] at member ⊢
    cases member with
    | inl here =>
      cases goes <;> cases here
      · exact .inl (.inr (self_mem_spots a _))
      · exact .inr rfl
    | inr inA =>
      cases ih inA with
      | inl inside => exact .inl (.inr inside)
      | inr rest => exact .inl (.inl rest)
  | plus l again greedy a ih =>
    simp only [Code.spots, List.mem_cons] at member ⊢
    rcases member with here | here | inA
    · cases goes <;> cases here
      exact .inl (.inr (.inr (self_mem_spots a _)))
    · cases goes <;> cases here
      · exact .inl (.inr (.inr (self_mem_spots a _)))
      · exact .inr rfl
    · cases ih inA with
      | inl inside => exact .inl (.inr (.inr inside))
      | inr rest => exact .inl (.inr (.inl rest))

theorem byteLength_eq (text : List Char) : byteLength text = Text.bytes text := by
  suffices general : ∀ n, text.foldl (fun n c => n + c.utf8Size) n = n + Text.bytes text by
    simpa [byteLength] using general 0
  induction text with
  | nil => simp [Text.bytes]
  | cons c rest ih =>
    intro n
    rw [List.foldl_cons, ih, Text.bytes]
    omega

def Place.On (input : List Char) (a : Place) : Prop :=
  ∃ read, input = read ++ a.rest ∧ a.offset = Text.bytes read ∧ a.before = read.getLast?

theorem Place.on_start (input : List Char) : (Place.start input).On input := ⟨[], rfl, rfl, rfl⟩

theorem Place.On.offset_le {a : Place} (on : a.On input) : a.offset ≤ byteLength input := by
  obtain ⟨read, rfl, offset, _⟩ := on
  rw [byteLength_eq, Text.bytes_append, offset]
  omega

theorem bytes_eq_zero {text : List Char} (nothing : Text.bytes text = 0) : text = [] := by
  cases text with
  | nil => rfl
  | cons c rest =>
    have := c.utf8Size_pos
    simp only [Text.bytes] at nothing
    omega

theorem Place.On.ext {a b : Place} (left : a.On input) (right : b.On input)
    (same : a.offset = b.offset) : a = b := by
  obtain ⟨before, rest, offset⟩ := a
  obtain ⟨before', rest', offset'⟩ := b
  obtain ⟨read, split, rfl, rfl⟩ := left
  obtain ⟨read', split', rfl, rfl⟩ := right
  simp only at same split split'
  have equal : read = read' ∧ rest = rest' := by
    rcases List.append_eq_append_iff.mp (split.symm.trans split') with ⟨x, rfl, rfl⟩ | ⟨x, rfl, rfl⟩
    all_goals
      rw [Text.bytes_append] at same
      obtain rfl : x = [] := bytes_eq_zero (by omega)
      simp
  obtain ⟨rfl, rfl⟩ := equal
  rfl

theorem Place.On.after {a : Place} {c : Char} {rest : List Char} (on : a.On input)
    (here : a.rest = c :: rest) : (a.after c rest).On input := by
  obtain ⟨read, whole, bytes, _⟩ := on
  refine ⟨read ++ [c], ?_, ?_, ?_⟩
  · simp [whole, here, Place.after]
  · simp [bytes, Place.after, Text.bytes_append, Text.bytes]
  · simp [Place.after]

theorem Thread.step_on (on : t.place.On input) (leads : t.Leads u) : u.place.On input := by
  cases leads_iff.mp leads with
  | char here => exact Place.On.after on here
  | _ => exact on

namespace Visited

theorem has_none {l o : Nat} (inside : l < labels) : (none labels).has l o = false := by
  unfold has none
  rw [Array.getElem?_replicate, if_pos inside]
  exact Nat.zero_testBit o

theorem has_add {l o : Nat} (inside : l < v.rows.size) (l' o' : Nat) :
    (v.add l o).has l' o' = true ↔ v.has l' o' = true ∨ (l' = l ∧ o' = o) := by
  simp only [has, add, Array.getElem?_modify]
  by_cases same : l = l'
  · subst same
    rw [if_pos rfl]
    simp [inside, Nat.testBit_or, Nat.one_shiftLeft, Nat.testBit_two_pow, @eq_comm _ o o']
  · have other : ¬ (l' = l ∧ o' = o) := fun both => same both.1.symm
    simp [same, other]

theorem size_add (v : Visited) (l o : Nat) : (v.add l o).rows.size = v.rows.size := by
  simp [add]

-- The places still to come.
def unvisited (v : Visited) (width : Nat) : Finset (Nat × Nat) :=
  (Finset.range v.rows.size ×ˢ Finset.range width).filter fun x => v.has x.1 x.2 = false

theorem unvisited_add {l o width : Nat} (label : l < v.rows.size) (offset : o < width)
    (new : v.has l o = false) :
    ((v.add l o).unvisited width).card + 1 ≤ (v.unvisited width).card := by
  refine Finset.card_lt_card ?_
  refine Finset.ssubset_iff_of_subset ?_ |>.mpr ⟨(l, o), ?_, ?_⟩
  · intro x member
    simp only [unvisited, Finset.mem_filter, Finset.mem_product, Finset.mem_range, size_add] at member ⊢
    refine ⟨member.1, ?_⟩
    have still := (has_add (o := o) label x.1 x.2).not.mp (by simp [member.2])
    simpa using (not_or.mp still).1
  · simp [unvisited, label, offset, new]
  · simp [unvisited, (has_add label l o).mpr (.inr ⟨rfl, rfl⟩)]

theorem unvisited_none (labels width : Nat) :
    ((none labels).unvisited width).card ≤ labels * width := by
  refine (Finset.card_filter_le _ _).trans ?_
  simp [none]

end Visited

-- The threads of one program on one text.
structure Known (root : Code) (input : List Char) (t : Thread) : Prop where
  todo : t.todo = [] ∨ t.todo ∈ root.spots []
  place : t.place.On input

namespace Known
variable {root : Code}

theorem step (known : Known root input t) (leads : t.Leads u) : Known root input u := by
  refine ⟨?_, Thread.step_on known.place leads⟩
  cases known.todo with
  | inl done => simp [Thread.Leads, Thread.step, done] at leads
  | inr spot => exact (step_spots spot leads).symm

theorem label_mem (known : Known root input t) (busy : t.todo ≠ []) :
    firstLabel t.todo ∈ root.labels := by
  rw [← labels_spots root []]
  exact List.mem_map_of_mem (known.todo.resolve_left busy)

-- The label and the offset tell everything but the marks.
theorem bare_eq (distinct : root.labels.Nodup) (left : Known root input t)
    (right : Known root input u) (busy : t.todo ≠ []) (busy' : u.todo ≠ [])
    (label : firstLabel t.todo = firstLabel u.todo) (offset : t.offset = u.offset) :
    t.bare = u.bare := by
  rw [← labels_spots root []] at distinct
  have todo : t.todo = u.todo := List.inj_on_of_nodup_map distinct
    (left.todo.resolve_left busy) (right.todo.resolve_left busy') label
  have place := left.place.ext right.place offset
  simp only [Thread.place, Place.mk.injEq] at place
  simp [Thread.bare, todo, place]

end Known

-- Started before, or still on the stack.
def Awaited (v : Visited) (stack : List Thread) (t : Thread) : Prop :=
  (t.todo ≠ [] ∧ v.has (firstLabel t.todo) t.offset = true) ∨ ∃ u ∈ stack, u.bare = t.bare

-- All that a started thread leads to is started or awaited.
def Closed (root : Code) (input : List Char) (v : Visited) (stack : List Thread) : Prop :=
  ∀ t, Known root input t → t.todo ≠ [] → v.has (firstLabel t.todo) t.offset = true →
    ∀ u, t.Leads u → Awaited v stack u

theorem label_of_bare (same : t.bare = u.bare) :
    t.todo = u.todo ∧ t.offset = u.offset := by
  simp only [Thread.bare, Thread.mk.injEq] at same
  exact ⟨same.1, same.2.2.2.1⟩

section Round
variable {root : Code} {fuel : Nat} {marks : List Mark} {found : Option (List Mark)}

theorem known_start (code : Code) (input : List Char) : Known code input (.start code input) :=
  ⟨.inr (self_mem_spots _ []), Place.on_start input⟩

theorem closed_none (inside : ∀ l ∈ root.labels, l < labels) :
    Closed root input (.none labels) stack := by
  intro t known busy started
  rw [Visited.has_none (inside _ (known.label_mem busy))] at started
  cases started

-- One round of the search. What is awaited stays awaited when a thread that was started before is
-- dropped, and when a thread is started and what it leads to takes its place.
theorem awaited_drop (busy : t.todo ≠ []) (seen : v.has (firstLabel t.todo) t.offset = true)
    (awaited : Awaited v (t :: stack) u) : Awaited v stack u := by
  rcases awaited with started | ⟨w, member, same⟩
  · exact .inl started
  · rcases List.mem_cons.mp member with rfl | member
    · obtain ⟨todo, offset⟩ := label_of_bare same
      exact .inl ⟨todo ▸ busy, by rwa [← todo, ← offset]⟩
    · exact .inr ⟨w, member, same⟩

theorem awaited_start (busy : t.todo ≠ []) (label : firstLabel t.todo < v.rows.size)
    (awaited : Awaited v (t :: stack) u) :
    Awaited (v.add (firstLabel t.todo) t.offset) (t.step ++ stack) u := by
  rcases awaited with ⟨busy', started⟩ | ⟨w, member, same⟩
  · exact .inl ⟨busy', (Visited.has_add label _ _).mpr (.inl started)⟩
  · rcases List.mem_cons.mp member with rfl | member
    · obtain ⟨todo, offset⟩ := label_of_bare same
      exact .inl ⟨todo ▸ busy, (Visited.has_add label _ _).mpr (.inr (by rw [todo, offset]; simp))⟩
    · exact .inr ⟨w, List.mem_append_right _ member, same⟩

theorem closed_start (distinct : root.labels.Nodup) (known : Known root input t)
    (busy : t.todo ≠ []) (label : firstLabel t.todo < v.rows.size)
    (closed : Closed root input v (t :: stack)) :
    Closed root input (v.add (firstLabel t.todo) t.offset) (t.step ++ stack) := by
  intro w knownW busyW started u leads
  rcases (Visited.has_add label _ _).mp started with before | ⟨sameLabel, sameOffset⟩
  · exact awaited_start busy label (closed w knownW busyW before u leads)
  · -- only `t` itself, up to its marks, has this label and this offset
    have same := knownW.bare_eq distinct known busyW busy sameLabel sameOffset
    obtain ⟨u', leads', equal⟩ := Thread.leads_of_bare same leads
    exact .inr ⟨u', List.mem_append_left _ leads', equal.symm⟩

-- What every round of a search keeps: no label is beyond those that are marked, the stack holds threads
-- of this code on this text, and all that a started thread leads to is started or awaited.
structure Held (root : Code) (input : List Char) (v : Visited) (stack : List Thread) : Prop where
  labels : ∀ l ∈ root.labels, l < v.rows.size
  known : ∀ t ∈ stack, Known root input t
  closed : Closed root input v stack

theorem held_start {labels : Nat} (inside : ∀ l ∈ root.labels, l < labels) :
    Held root input (.none labels) [.start root input] where
  labels l member := by simpa [Visited.none] using inside l member
  known t member := List.mem_singleton.mp member ▸ known_start root input
  closed := closed_none inside

theorem Held.first (held : Held root input v (t :: stack)) : Known root input t :=
  held.known t (List.mem_cons_self ..)

theorem Held.label (held : Held root input v (t :: stack)) (busy : t.todo ≠ []) :
    firstLabel t.todo < v.rows.size :=
  held.labels _ (held.first.label_mem busy)

theorem Held.drop (held : Held root input v (t :: stack)) (busy : t.todo ≠ [])
    (seen : v.has (firstLabel t.todo) t.offset = true) : Held root input v stack where
  labels := held.labels
  known u member := held.known u (List.mem_cons_of_mem _ member)
  closed w knownW busyW started u leads := awaited_drop busy seen (held.closed w knownW busyW started u leads)

theorem Held.start (held : Held root input v (t :: stack)) (distinct : root.labels.Nodup)
    (busy : t.todo ≠ []) :
    Held root input (v.add (firstLabel t.todo) t.offset) (t.step ++ stack) where
  labels := by simpa only [Visited.size_add] using held.labels
  known u member := by
    cases List.mem_append.mp member with
    | inl leads => exact held.first.step leads
    | inr waits => exact held.known u (List.mem_cons_of_mem _ waits)
  closed := closed_start distinct held.first busy (held.label busy) held.closed

theorem searches (fuel : Nat) (v : Visited) (stack : List Thread) :
    Searches fuel v stack (search fuel v stack) := by
  induction fuel generalizing v stack with
  | zero => exact .spent
  | succ fuel ih =>
    cases stack with
    | nil => exact .exhausted
    | cons t stack =>
      cases todo : t.todo with
      | nil =>
        have found : search (fuel + 1) v (t :: stack) = some t.marks := by simp [search, todo]
        exact found ▸ .done todo
      | cons code k =>
        have busy : t.todo ≠ [] := by simp [todo]
        have first : firstLabel t.todo = code.label := by simp [firstLabel, todo]
        simp only [search, todo]
        rw [← first]
        split
        · exact .drop busy ‹_› (ih v stack)
        · exact .start busy (Bool.eq_false_iff.mpr ‹_›) (ih _ _)

-- A search that finds nothing ends with nothing left on the stack: the fuel cannot run out first.
theorem Searches.explored (searches : Searches fuel v stack found) (nothing : found = none)
    (distinct : root.labels.Nodup) (held : Held root input v stack)
    (enough : 2 * (v.unvisited (byteLength input + 1)).card + stack.length < fuel) :
    ∃ v', Closed root input v' [] ∧ ∀ t, Awaited v stack t → Awaited v' [] t := by
  induction searches with
  | spent => omega
  | exhausted => exact ⟨_, held.closed, fun _ awaited => awaited⟩
  | done _ => cases nothing
  | drop busy seen _ ih =>
    rw [List.length_cons] at enough
    obtain ⟨v', closed, all⟩ := ih nothing (held.drop busy seen) (by omega)
    exact ⟨v', closed, fun u awaited => all u (awaited_drop busy seen awaited)⟩
  | start busy new onward ih =>
    rename_i t
    have offset : t.offset < byteLength input + 1 := Nat.lt_succ_of_le held.first.place.offset_le
    have fewer := Visited.unvisited_add (held.label busy) offset new
    have short := t.step_length
    rw [List.length_cons] at enough
    obtain ⟨v', closed, all⟩ := ih nothing (held.start distinct busy) (by rw [List.length_append]; omega)
    exact ⟨v', closed, fun u awaited => all u (awaited_start busy (held.label busy) awaited)⟩

theorem closed_path (closed : Closed root input v []) (known : Known root input t)
    (awaited : Awaited v [] t) (path : ReflTransGen Thread.Leads t u) : u.todo ≠ [] := by
  have reached : Known root input u ∧ Awaited v [] u := by
    induction path with
    | refl => exact ⟨known, awaited⟩
    | tail _ leads ih =>
      obtain ⟨known', awaited'⟩ := ih
      rcases awaited' with ⟨busy, started⟩ | ⟨_, member, _⟩
      · exact ⟨known'.step leads, closed _ known' busy started _ leads⟩
      · cases member
  rcases reached.2 with ⟨busy, _⟩ | ⟨_, member, _⟩
  · exact busy
  · cases member

theorem Searches.ends (searches : Searches fuel v stack found) (success : found = some marks) :
    ∃ t ∈ stack, t.EndsWith marks := by
  induction searches with
  | spent | exhausted => cases success
  | done finished =>
    obtain rfl := Option.some.inj success
    exact ⟨_, List.mem_cons_self .., Thread.ends_nil finished⟩
  | drop _ _ _ ih =>
    obtain ⟨u, member, ends⟩ := ih success
    exact ⟨u, List.mem_cons_of_mem _ member, ends⟩
  | start _ _ _ ih =>
    obtain ⟨u, member, ends⟩ := ih success
    cases List.mem_append.mp member with
    | inl leads => exact ⟨_, List.mem_cons_self .., Thread.ends_of_step leads ends⟩
    | inr waits => exact ⟨u, List.mem_cons_of_mem _ waits, ends⟩

end Round

theorem run_sound {p : Pattern} {marks : List Mark} (found : p.program.run input = some marks) :
    ∃ b ms, p.move (.start input) b ms ∧ marks = ms.reverse := by
  obtain ⟨t, member, b, ms, way, rfl⟩ := (searches _ _ _).ends found
  obtain rfl := List.mem_singleton.mp member
  refine ⟨b, ms, ?_, by simp [Thread.start]⟩
  rw [← (program_laid p).move]
  simpa [Thread.start, Thread.place, Place.start] using way

theorem run_complete {p : Pattern} {b : Place} {ms : List Mark} (way : p.move (.start input) b ms) :
    (p.program.run input).isSome := by
  have laid := program_laid p
  have inside : ∀ l ∈ p.program.code.labels, l < p.program.labels := fun l member => (laid.within l member).2
  rw [← laid.move] at way
  rw [Option.isSome_iff_ne_none]
  intro nothing
  have room := Visited.unvisited_none p.program.labels (byteLength input + 1)
  obtain ⟨v, closed, all⟩ := (searches _ _ _).explored nothing laid.nodup (held_start inside) <| by
    rw [List.length_singleton]
    exact Nat.lt_succ_of_le (Nat.add_le_add_right (Nat.mul_le_mul_left 2 room) 1)
  have path := Thread.path_of_move way [] []
  exact closed_path closed (known_start _ input) (all _ (.inr ⟨_, List.mem_singleton_self _, rfl⟩)) path rfl

end Typeahead.Pattern
