import Mathlib.Logic.Relation
import Typeahead.Proofs.Pattern.Layout
import Typeahead.Text.Basic

namespace Typeahead.Pattern
open Relation (ReflTransGen)

namespace Thread

def place (t : Thread) : Place := ⟨t.before, t.rest, t.offset⟩

def running (todo : List Code) (a : Place) (marks : List Mark) : Thread :=
  ⟨todo, a.before, a.rest, a.offset, marks⟩

def Leads (t u : Thread) : Prop := u ∈ t.step

-- All that an instruction can do, in whichever order it prefers it.
inductive Goes : Thread → Thread → Prop
  | pass : Goes (.running (.pass l :: k) a ms) (.running k a ms)
  | char {a : Place} {s : CharSet} (here : a.rest = c :: after) (member : c ∈ s) :
      Goes (.running (.char l s :: k) a ms) (.running k (a.after c after) ms)
  | look {a : Place} {e : Look} (holds : e.holds a.before a.rest = true) :
      Goes (.running (.look l e :: k) a ms) (.running k a ms)
  | mark {a : Place} : Goes (.running (.mark l e :: k) a ms) (.running k a (⟨e, a.offset⟩ :: ms))
  | seq : Goes (.running (.seq l x y :: k) a ms) (.running (x :: y :: k) a ms)
  | left : Goes (.running (.alt l x y :: k) a ms) (.running (x :: k) a ms)
  | right : Goes (.running (.alt l x y :: k) a ms) (.running (y :: k) a ms)
  | more : Goes (.running (.star l greedy x :: k) a ms)
      (.running (x :: .star l greedy x :: k) a ms)
  | fewer : Goes (.running (.star l greedy x :: k) a ms) (.running k a ms)
  | plus : Goes (.running (.plus l again greedy x :: k) a ms)
      (.running (x :: .star again greedy x :: k) a ms)

variable {t u : Thread} {code : Code} {k : List Code} {a b : Place} {ms marks : List Mark}

theorem leads_iff : t.Leads u ↔ Goes t u := by
  constructor
  · intro leads
    obtain ⟨todo, before, rest, offset, marks⟩ := t
    cases todo with
    | nil => cases leads
    | cons code k =>
      cases code with
      | pass l =>
        obtain rfl := List.mem_singleton.mp leads
        exact .pass (a := ⟨before, rest, offset⟩)
      | char l s =>
        cases rest with
        | nil => cases leads
        | cons c rest =>
          simp only [Leads, step] at leads
          split at leads
          · rename_i member
            obtain rfl := List.mem_singleton.mp leads
            exact .char (a := ⟨before, c :: rest, offset⟩) rfl member
          · cases leads
      | look l e =>
        simp only [Leads, step] at leads
        split at leads
        · rename_i holds
          obtain rfl := List.mem_singleton.mp leads
          exact .look (a := ⟨before, rest, offset⟩) holds
        · cases leads
      | mark l e =>
        obtain rfl := List.mem_singleton.mp leads
        exact .mark (a := ⟨before, rest, offset⟩)
      | seq l x y =>
        obtain rfl := List.mem_singleton.mp leads
        exact .seq (a := ⟨before, rest, offset⟩)
      | alt l x y =>
        simp only [Leads, step, List.mem_cons, List.not_mem_nil, or_false] at leads
        rcases leads with rfl | rfl
        · exact .left (a := ⟨before, rest, offset⟩)
        · exact .right (a := ⟨before, rest, offset⟩)
      | never l => cases leads
      | star l greedy x =>
        have either : u = ⟨x :: .star l greedy x :: k, before, rest, offset, marks⟩ ∨
            u = ⟨k, before, rest, offset, marks⟩ := by
          cases greedy <;> simpa [Leads, step, or_comm] using leads
        rcases either with rfl | rfl
        · exact .more (a := ⟨before, rest, offset⟩)
        · exact .fewer (a := ⟨before, rest, offset⟩)
      | plus l again greedy x =>
        obtain rfl := List.mem_singleton.mp leads
        exact .plus (a := ⟨before, rest, offset⟩)
  · intro goes
    cases goes with
    | char here member =>
      have holds : CharSet.contains _ _ = true := member
      simp [Leads, step, running, here, holds, Place.after]
    | look holds => simp [Leads, step, running, holds]
    | @more l greedy => cases greedy <;> simp [Leads, step, running]
    | @fewer l greedy => cases greedy <;> simp [Leads, step, running]
    | _ => simp [Leads, step, running]

-- The marks of a thread are kept with the latest in front.
def EndsAt (t : Thread) (b : Place) (marks : List Mark) : Prop :=
  ∃ ms, (t.todo.map Code.move).prod t.place b ms ∧ marks = ms.reverse ++ t.marks

def EndsWith (t : Thread) (marks : List Mark) : Prop := ∃ b, t.EndsAt b marks

theorem ends_nil (done : t.todo = []) : t.EndsWith t.marks :=
  ⟨t.place, [], by rw [done]; exact Move.one_intro, rfl⟩

theorem EndsAt.of_same (more : List Code) (ends : (running (more ++ k) a marks).EndsAt b found)
    (same : ∀ x y ms, (more.map Code.move).prod x y ms → code.move x y ms) :
    (running (code :: k) a marks).EndsAt b found := by
  obtain ⟨ms, way, rfl⟩ := ends
  have split : ((more ++ k).map Code.move).prod a b ms := way
  rw [List.map_append, List.prod_append] at split
  obtain ⟨x, first, second, left, right, rfl⟩ := split
  exact ⟨_, Move.mul_intro (same _ _ _ left) right, rfl⟩

theorem EndsAt.of_step (leads : t.Leads u) (ends : u.EndsAt b found) : t.EndsAt b found := by
  cases leads_iff.mp leads with
  | pass => exact .of_same [] ends fun _ _ _ way => way
  | char here member =>
    obtain ⟨ms, way, rfl⟩ := ends
    exact ⟨ms, ⟨_, [], ms, ⟨rfl, _, _, here, member, rfl⟩, way, rfl⟩, rfl⟩
  | look holds =>
    obtain ⟨ms, way, rfl⟩ := ends
    exact ⟨ms, ⟨_, [], ms, ⟨rfl, rfl, holds⟩, way, rfl⟩, rfl⟩
  | mark =>
    rename_i e _ marks a
    obtain ⟨ms, way, rfl⟩ := ends
    exact ⟨⟨e, a.offset⟩ :: ms, ⟨_, [⟨e, a.offset⟩], ms, ⟨rfl, rfl⟩, way, rfl⟩, by simp [running]⟩
  | seq => exact .of_same [_, _] ends fun _ _ _ way => by simpa [Code.move] using way
  | left => exact .of_same [_] ends fun _ _ _ way => .inl (by simpa using way)
  | right => exact .of_same [_] ends fun _ _ _ way => .inr (by simpa using way)
  | more =>
    refine .of_same [_, _] ends fun _ _ _ way => ?_
    rw [Code.move, Move.star_unfold]
    exact .inl (by simpa [Code.move] using way)
  | fewer =>
    refine .of_same [] ends fun _ _ _ way => ?_
    rw [Code.move, Move.star_unfold]
    exact .inr way
  | plus => exact .of_same [_, _] ends fun _ _ _ way => by simpa [Code.move] using way

theorem ends_of_step (leads : t.Leads u) (ends : u.EndsWith found) : t.EndsWith found := by
  obtain ⟨b, ends⟩ := ends
  exact ⟨b, .of_step leads ends⟩

theorem star_path {m : Move} {greedy : Bool}
    (body : ∀ a b ms, m a b ms → ∀ k marks,
      ReflTransGen Leads (.running (code :: k) a marks) (.running k b (ms.reverse ++ marks)))
    (way : m.star a b ms) : ∀ k marks, ReflTransGen Leads
      (.running (.star l greedy code :: k) a marks) (.running k b (ms.reverse ++ marks)) := by
  obtain ⟨n, way⟩ := way
  induction n generalizing a ms with
  | zero =>
    obtain ⟨rfl, rfl⟩ := way
    exact fun k marks => .single (leads_iff.mpr .fewer)
  | succ n ih =>
    rw [pow_succ'] at way
    obtain ⟨c, first, second, left, right, rfl⟩ := way
    intro k marks
    have around := body a c first left (.star l greedy code :: k) marks
    have rest := ih right k (first.reverse ++ marks)
    rw [List.reverse_append, List.append_assoc]
    exact .head (leads_iff.mpr .more) (around.trans rest)

-- Induction on the code: what remains after it is carried along untouched.
theorem path_of_move (way : code.move a b ms) : ∀ k marks,
    ReflTransGen Leads (.running (code :: k) a marks) (.running k b (ms.reverse ++ marks)) := by
  induction code generalizing a b ms with
  | pass l =>
    obtain ⟨rfl, rfl⟩ := way
    exact fun k marks => .single (leads_iff.mpr .pass)
  | char l s =>
    obtain ⟨rfl, c, rest, here, member, rfl⟩ := way
    exact fun k marks => .single (leads_iff.mpr (.char here member))
  | look l e =>
    obtain ⟨rfl, rfl, holds⟩ := way
    exact fun k marks => .single (leads_iff.mpr (.look holds))
  | mark l e =>
    obtain ⟨rfl, rfl⟩ := way
    exact fun k marks => .single (leads_iff.mpr .mark)
  | seq l x y first second =>
    obtain ⟨c, front, back, left, right, rfl⟩ := way
    intro k marks
    have both := (first left (y :: k) marks).trans (second right k (front.reverse ++ marks))
    rw [List.reverse_append, List.append_assoc]
    exact .head (leads_iff.mpr .seq) both
  | alt l x y first second =>
    intro k marks
    cases way with
    | inl left => exact .head (leads_iff.mpr .left) (first left k marks)
    | inr right => exact .head (leads_iff.mpr .right) (second right k marks)
  | never l => exact way.elim
  | star l greedy x body => exact star_path (fun _ _ _ left => body left) way
  | plus l again greedy x body =>
    obtain ⟨c, front, back, left, right, rfl⟩ := way
    intro k marks
    have around := body left (.star again greedy x :: k) marks
    rw [List.reverse_append, List.append_assoc]
    exact .head (leads_iff.mpr .plus) (around.trans
      (star_path (fun _ _ _ left => body left) right k (front.reverse ++ marks)))

theorem step_length (t : Thread) : t.step.length ≤ 2 := by
  unfold step
  split <;> try simp
  all_goals split <;> try simp
  split <;> simp

-- Marks are carried along and decide nothing.
def bare (t : Thread) : Thread := { t with marks := [] }

theorem bare_step (t : Thread) : t.step.map bare = t.bare.step.map bare := by
  obtain ⟨todo, before, rest, offset, marks⟩ := t
  cases todo with
  | nil => rfl
  | cons code k =>
    cases code with
    | look l e => by_cases holds : Look.holds before rest e = true <;> simp [step, bare, holds]
    | char l s =>
      cases rest with
      | nil => rfl
      | cons c rest => by_cases member : s.contains c <;> simp [step, bare, member]
    | star l greedy a => cases greedy <;> rfl
    | _ => rfl

theorem leads_of_bare (same : t.bare = u.bare) {t' : Thread} (leads : t.Leads t') :
    ∃ u', u.Leads u' ∧ t'.bare = u'.bare := by
  have member : t'.bare ∈ u.step.map bare := by
    rw [bare_step, ← same, ← bare_step]
    exact List.mem_map_of_mem leads
  obtain ⟨u', leads', equal⟩ := List.mem_map.mp member
  exact ⟨u', leads', equal.symm⟩

end Thread
end Typeahead.Pattern
