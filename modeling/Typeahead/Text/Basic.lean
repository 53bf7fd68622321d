namespace Typeahead

abbrev Text := List Char

namespace Text

def bytes : Text → Nat
  | [] => 0
  | c :: rest => c.utf8Size + bytes rest

-- The text before and after a place, if the place is a boundary between two characters.
def splitAtByte? : Nat → Text → Option (Text × Text)
  | 0, text => some ([], text)
  | _ + 1, [] => none
  | n + 1, c :: rest =>
    if c.utf8Size ≤ n + 1 then
      (splitAtByte? (n + 1 - c.utf8Size) rest).map fun (a, b) => (c :: a, b)
    else none

structure Span where
  start : Nat
  stop : Nat
  deriving DecidableEq, Repr

def Span.length (s : Span) : Nat := s.stop - s.start

-- Both ends belong to a span.
def Span.touches (s : Span) (offset : Nat) : Bool := s.start ≤ offset && offset ≤ s.stop

def slice? (s : Span) (text : Text) : Option Text := do
  let (_, rest) ← splitAtByte? s.start text
  let (inside, _) ← splitAtByte? (s.stop - s.start) rest
  return inside

def slice (s : Span) (text : Text) : Text := (slice? s text).getD []

-- Texts are ordered by their characters; the beginning of a text comes before it.
def atMost : Text → Text → Bool
  | [], _ => true
  | _ :: _, [] => false
  | a :: as, b :: bs => a < b || a = b && atMost as bs

def startsWith (beginning text : Text) : Bool := beginning.isPrefixOf text

theorem bytes_append (a b : Text) : bytes (a ++ b) = bytes a + bytes b := by
  induction a with
  | nil => simp [bytes]
  | cons c a ih => simp [bytes, ih]; omega

theorem splitAtByte?_bytes (a b : Text) : splitAtByte? (bytes a) (a ++ b) = some (a, b) := by
  induction a with
  | nil => simp [bytes, splitAtByte?]
  | cons c a ih =>
    have positive := c.utf8Size_pos
    obtain ⟨n, total⟩ : ∃ n, bytes (c :: a) = n + 1 := ⟨bytes (c :: a) - 1, by simp [bytes]; omega⟩
    have left : n + 1 - c.utf8Size = bytes a := by simp [bytes] at total; omega
    have fits : c.utf8Size ≤ n + 1 := by simp [bytes] at total; omega
    rw [total]
    simp [splitAtByte?, fits, left, ih]

theorem slice_append (a b c : Text) : slice ⟨bytes a, bytes a + bytes b⟩ (a ++ b ++ c) = b := by
  simp [slice, slice?, List.append_assoc, splitAtByte?_bytes]

end Text
end Typeahead
