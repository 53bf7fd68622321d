namespace Typeahead

-- Runs of code points, the lowest first. Runs that meet across the surrogates are kept apart.
structure CharSet where
  runs : List (Nat × Nat)
  deriving DecidableEq, Repr

namespace CharSet

def lastCode : Nat := 0x10ffff

def nextCode (n : Nat) : Nat := if n = 0xd7ff then 0xe000 else n + 1

def previousCode (n : Nat) : Nat := if n = 0xe000 then 0xd7ff else n - 1

def empty : CharSet := ⟨[]⟩

def full : CharSet := ⟨[(0, lastCode)]⟩

def contains (s : CharSet) (c : Char) : Bool :=
  s.runs.any fun run => run.1 ≤ c.toNat && c.toNat ≤ run.2

instance : Membership Char CharSet := ⟨fun s c => s.contains c = true⟩

instance (c : Char) (s : CharSet) : Decidable (c ∈ s) :=
  inferInstanceAs (Decidable (s.contains c = true))

def range (lo hi : Char) : CharSet := ⟨[(lo.toNat, hi.toNat)]⟩

def single (c : Char) : CharSet := range c c

def joinFrom (lo hi : Nat) : List (Nat × Nat) → List (Nat × Nat)
  | [] => [(lo, hi)]
  | (a, b) :: rest =>
    if a ≤ hi + 1 then joinFrom lo (max hi b) rest else (lo, hi) :: joinFrom a b rest

def joinRuns : List (Nat × Nat) → List (Nat × Nat)
  | [] => []
  | (a, b) :: rest => joinFrom a b rest

def joined (s : CharSet) : CharSet := ⟨joinRuns s.runs⟩

def mergeRuns : List (Nat × Nat) → List (Nat × Nat) → List (Nat × Nat)
  | [], t => t
  | run :: s, t =>
    t.takeWhile (·.1 < run.1) ++ run :: mergeRuns s (t.dropWhile (·.1 < run.1))

-- To add nothing, or the same set, leaves the runs as they are.
def union (s t : CharSet) : CharSet :=
  if t.runs.isEmpty || s == t then s else ⟨joinRuns (mergeRuns s.runs t.runs)⟩

-- What lies between one run and the next. Of two runs that are neighbours across the surrogates
-- it is the two characters where they meet.
def gapsAfter (hi : Nat) : List (Nat × Nat) → List (Nat × Nat)
  | [] => if hi < lastCode then [(nextCode hi, lastCode)] else []
  | (a, b) :: rest =>
    (min (nextCode hi) (previousCode a), max (nextCode hi) (previousCode a)) :: gapsAfter b rest

def gaps : List (Nat × Nat) → List (Nat × Nat)
  | [] => [(0, lastCode)]
  | (a, b) :: rest => (if 0 < a then [(0, previousCode a)] else []) ++ gapsAfter b rest

def complement (s : CharSet) : CharSet := ⟨gaps s.runs⟩

def interRuns : List (Nat × Nat) → List (Nat × Nat) → List (Nat × Nat)
  | [], _ => []
  | (lo, hi) :: s, t =>
    let t := t.dropWhile (·.2 < lo)
    (t.takeWhile (·.1 ≤ hi)).map (fun (a, b) => (max lo a, min hi b)) ++ interRuns s t

def inter (s t : CharSet) : CharSet := ⟨interRuns s.runs t.runs⟩

def cutRun (lo hi : Nat) : List (Nat × Nat) → List (Nat × Nat)
  | [] => [(lo, hi)]
  | (a, b) :: rest =>
    (if lo < a then [(lo, previousCode a)] else [])
      ++ if b < hi then cutRun (nextCode b) hi rest else []

def diffRuns : List (Nat × Nat) → List (Nat × Nat) → List (Nat × Nat)
  | [], _ => []
  | (lo, hi) :: s, t =>
    let t := t.dropWhile (·.2 < lo)
    cutRun lo hi (t.takeWhile (·.1 ≤ hi)) ++ diffRuns s t

def sdiff (s t : CharSet) : CharSet := ⟨diffRuns s.runs t.runs⟩

def symmDiff (s t : CharSet) : CharSet := (s.union t).sdiff (s.inter t)

def negateIf (negated : Bool) (s : CharSet) : CharSet := if negated then s.complement else s

def isAscii (s : CharSet) : Bool := s.runs.all fun run => run.2 < 0x80

def only? (s : CharSet) : Option Char :=
  match s.runs with
  | [(a, b)] => if a = b then some (Char.ofNat a) else none
  | _ => none

theorem mem_iff (c : Char) (s : CharSet) : c ∈ s ↔ s.contains c = true := Iff.rfl

end CharSet
end Typeahead
