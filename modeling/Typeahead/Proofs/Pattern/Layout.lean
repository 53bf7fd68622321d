import Typeahead.Proofs.Pattern.NormalForm

namespace Typeahead.Pattern

namespace Code

def move : Code → Move
  | .pass _ => 1
  | .char _ s => .step s
  | .look _ l => .look l
  | .mark _ e => .mark e
  | .seq _ a b => move a * move b
  | .alt _ a b => move a + move b
  | .never _ => 0
  | .star _ _ a => (move a).star
  | .plus _ _ _ a => move a * (move a).star

def labels : Code → List Nat
  | .pass l => [l]
  | .char l _ => [l]
  | .look l _ => [l]
  | .mark l _ => [l]
  | .seq l a b => l :: (labels a ++ labels b)
  | .alt l a b => l :: (labels a ++ labels b)
  | .never l => [l]
  | .star l _ a => l :: labels a
  | .plus l again _ a => l :: again :: labels a

end Code

-- What a layout that began with the label `n` came to.
structure Laid (n : Nat) (result : Code × Nat) (m : Move) : Prop where
  le : n ≤ result.2
  within : ∀ l ∈ result.1.labels, n ≤ l ∧ l < result.2
  nodup : result.1.labels.Nodup
  move : result.1.move = m

def Lays (layout : Layout Code) (m : Move) : Prop := ∀ n, Laid n (layout.run n) m

theorem lays_leaf {make : Nat → Code} (labels : ∀ l, (make l).labels = [l])
    (moves : ∀ l, (make l).move = m) : Lays (do return make (← fresh)) m := by
  intro n
  show Laid n (make n, n + 1) m
  exact ⟨Nat.le_succ n, by simp [labels], by simp [labels], moves n⟩

theorem lays_pass : Lays (do return .pass (← fresh)) 1 := lays_leaf (fun _ => rfl) fun _ => rfl

theorem lays_both {make : Nat → Code → Code → Code} (op : Move → Move → Move)
    (labels : ∀ l a b, (make l a b).labels.Perm (l :: (a.labels ++ b.labels)))
    (moves : ∀ l a b, (make l a b).move = op a.move b.move)
    (left : Lays x m) (right : Lays y k) :
    Lays (do return make (← fresh) (← x) (← y)) (op m k) := by
  intro n
  have one := left (n + 1)
  have two := right (x.run (n + 1)).2
  show Laid n (make n (x.run (n + 1)).1 (y.run (x.run (n + 1)).2).1, (y.run (x.run (n + 1)).2).2) _
  generalize x.run (n + 1) = first at *
  generalize y.run first.2 = second at *
  have low := one.le
  have high := two.le
  refine ⟨by simp only; omega, ?_, ?_, by simp only [moves, one.move, two.move]⟩
  · intro l member
    rcases List.mem_cons.mp ((labels _ _ _).mem_iff.mp member) with rfl | member
    · exact ⟨Nat.le_refl _, by simp only; omega⟩
    · cases List.mem_append.mp member with
      | inl member =>
        have := one.within l member
        exact ⟨by omega, by simp only; omega⟩
      | inr member =>
        have := two.within l member
        exact ⟨by omega, by simp only; omega⟩
  · refine (labels _ _ _).nodup_iff.mpr (List.nodup_cons.mpr ⟨?_, ?_⟩)
    · intro member
      cases List.mem_append.mp member with
      | inl member =>
        have := one.within _ member
        omega
      | inr member =>
        have := two.within _ member
        omega
    · refine List.nodup_append.mpr ⟨one.nodup, two.nodup, ?_⟩
      intro l first' _ second' equal
      subst equal
      have := one.within l first'
      have := two.within l second'
      omega

theorem lays_seq (left : Lays x m) (right : Lays y k) :
    Lays (do return .seq (← fresh) (← x) (← y)) (m * k) :=
  lays_both (· * ·) (fun _ _ _ => .refl _) (fun _ _ _ => rfl) left right

theorem lays_alt (left : Lays x m) (right : Lays y k) :
    Lays (do return .alt (← fresh) (← x) (← y)) (m + k) :=
  lays_both (· + ·) (fun _ _ _ => .refl _) (fun _ _ _ => rfl) left right

theorem lays_prefer (greedy : Bool) (more : Lays x m) (fewer : Lays y k) :
    Lays (do return prefer greedy (← fresh) (← x) (← y)) (m + k) := by
  refine lays_both (· + ·) (fun l a b => ?_) (fun l a b => ?_) more fewer
  · cases greedy with
    | true => exact .refl _
    | false => exact List.Perm.cons l List.perm_append_comm
  · cases greedy with
    | true => rfl
    | false => exact add_comm _ _

theorem lays_star (greedy : Bool) (body : Lays x m) :
    Lays (do return .star (← fresh) greedy (← x)) m.star := by
  intro n
  have inner := body (n + 1)
  show Laid n (.star n greedy (x.run (n + 1)).1, (x.run (n + 1)).2) _
  generalize x.run (n + 1) = result at *
  have low := inner.le
  refine ⟨by simp only; omega, ?_, ?_, by simp only [Code.move, inner.move]⟩
  · intro l member
    rcases List.mem_cons.mp member with rfl | member
    · exact ⟨Nat.le_refl _, by simp only; omega⟩
    · have := inner.within l member
      exact ⟨by omega, by simp only; omega⟩
  · refine List.nodup_cons.mpr ⟨?_, inner.nodup⟩
    intro member
    have := inner.within _ member
    omega

theorem lays_plus (greedy : Bool) (body : Lays x m) : Lays (layPlus greedy x) (m * m.star) := by
  intro n
  have inner := body (n + 2)
  show Laid n (.plus n (n + 1) greedy (x.run (n + 2)).1, (x.run (n + 2)).2) _
  generalize x.run (n + 2) = result at *
  have low := inner.le
  refine ⟨by simp only; omega, ?_, ?_, by simp only [Code.move, inner.move]⟩
  · intro l member
    simp only [Code.labels, List.mem_cons] at member
    rcases member with rfl | rfl | member
    · exact ⟨Nat.le_refl _, by simp only; omega⟩
    · exact ⟨by omega, by simp only; omega⟩
    · have := inner.within l member
      exact ⟨by omega, by simp only; omega⟩
  · refine List.nodup_cons.mpr ⟨?_, List.nodup_cons.mpr ⟨?_, inner.nodup⟩⟩
    · intro member
      cases List.mem_cons.mp member with
      | inl equal => omega
      | inr member =>
        have := inner.within _ member
        omega
    · intro member
      have := inner.within _ member
      omega

theorem lays_literal : ∀ chars, Lays (layLiteral chars) (literalMove chars)
  | [] => lays_pass
  | [c] => by
    have one : literalMove [c] = .step (.single c) := by simp [literalMove]
    rw [one]
    exact lays_leaf (fun _ => rfl) fun _ => rfl
  | c :: d :: rest => by
    rw [literalMove, List.map_cons, List.prod_cons]
    exact lays_seq (x := do return .char (← fresh) (.single c)) (lays_leaf (fun _ => rfl) fun _ => rfl)
      (lays_literal (d :: rest))

theorem lays_times (body : Lays x m) (rest : Lays y k) : ∀ n, Lays (layTimes x y n) (m ^ n * k)
  | 0 => by
    rw [pow_zero, one_mul]
    exact rest
  | n + 1 => by
    rw [pow_succ', mul_assoc]
    exact lays_seq body (lays_times body rest n)

theorem lays_upTo (greedy : Bool) (body : Lays x m) : ∀ n, Lays (layUpTo greedy x n) (m.upTo n)
  | 0 => lays_pass
  | n + 1 => lays_prefer greedy (lays_seq body (lays_upTo greedy body n)) lays_pass

theorem lays_repetition (least : Nat) (most : Option Nat) (greedy nullable : Bool)
    (body : Lays x m) : Lays (layRepetition least most greedy nullable x)
    (m.rounds least most) := by
  cases most with
  | some most => exact lays_times body (lays_upTo greedy body _) least
  | none =>
    cases least with
    | zero =>
      simp only [Move.rounds, pow_zero, one_mul]
      cases nullable with
      | true =>
        rw [Move.star_unfold]
        exact lays_prefer greedy (lays_plus greedy body) lays_pass
      | false => exact lays_star greedy body
    | succ least =>
      -- the last of the rounds there must be and the rounds after it are one piece of code
      have last : m.rounds (least + 1) none = m ^ least * (m * m.star) := by
        rw [Move.rounds, pow_succ, mul_assoc]
      rw [last]
      exact lays_times body (lays_plus greedy body) least

mutual
theorem lays_pattern : ∀ p : Pattern, Lays (lay p) p.move
  | .empty => lays_pass
  | .literal chars => lays_literal chars
  | .set _ => lays_leaf (fun _ => rfl) fun _ => rfl
  | .look _ => lays_leaf (fun _ => rfl) fun _ => rfl
  | .repetition least most greedy body =>
    lays_repetition least most greedy body.nullable (lays_pattern body)
  | .group index body => by
    rw [move, mul_assoc]
    exact lays_seq (x := do return .mark (← fresh) (.opens index))
      (lays_leaf (fun _ => rfl) fun _ => rfl)
      (lays_seq (y := do return .mark (← fresh) (.closes index)) (lays_pattern body)
        (lays_leaf (fun _ => rfl) fun _ => rfl))
  | .concat items => lays_concat items
  | .choice branches => lays_choice branches

theorem lays_concat : ∀ ps : List Pattern, Lays (layAll ps) (moveAll ps)
  | [] => lays_pass
  | p :: rest => lays_seq (lays_pattern p) (lays_concat rest)

theorem lays_choice : ∀ ps : List Pattern, Lays (layChoice ps) (moveAny ps)
  | [] => lays_leaf (fun _ => rfl) fun _ => rfl
  | p :: rest => lays_alt (lays_pattern p) (lays_choice rest)
end

theorem program_laid (p : Pattern) : Laid 0 ((program p).code, (program p).labels) p.move :=
  lays_pattern p 0

end Typeahead.Pattern
