/-!
# Sets of code points

A set of characters as ascending ranges of code points that neither meet nor touch.
-/

namespace Converge.Text

/-- A set of code points, as ranges with both ends included. -/
structure CodeSet where
  ranges : List (Nat × Nat)
deriving DecidableEq

namespace CodeSet

/-- The greatest code point. -/
def maxCode : Nat := 0x10FFFF

/-- The set without members. -/
def empty : CodeSet := ⟨[]⟩

/-- All code points. -/
def all : CodeSet := ⟨[(0, maxCode)]⟩

/-- Whether some range holds a code point; the ranges ascend. -/
def holds (n : Nat) : List (Nat × Nat) → Bool
  | [] => false
  | (a, b) :: rest => if n < a then false else if n ≤ b then true else holds n rest

/-- Whether a character is in the set. -/
def contains (s : CodeSet) (c : Char) : Bool := holds c.toNat s.ranges

/-- Joins the range from `a` to `b` with the ascending ranges after it that it meets or touches. -/
def joinFrom (a b : Nat) : List (Nat × Nat) → List (Nat × Nat)
  | [] => [(a, b)]
  | (c, d) :: rest =>
    if c ≤ b + 1 then joinFrom a (max b d) rest else (a, b) :: joinFrom c d rest

/-- Joins ascending ranges that meet or touch. -/
def join : List (Nat × Nat) → List (Nat × Nat)
  | [] => []
  | (a, b) :: rest => joinFrom a b rest

/-- The set that ranges in any order cover. -/
def ofRanges (rs : List (Nat × Nat)) : CodeSet :=
  ⟨join ((rs.filter fun r => r.1 ≤ r.2).mergeSort fun a b => decide (a.1 ≤ b.1))⟩

/-- The set of single characters. -/
def ofChars (cs : List Char) : CodeSet := ofRanges (cs.map fun c => (c.toNat, c.toNat))

/-- Members of either set. -/
def union (s t : CodeSet) : CodeSet := ofRanges (s.ranges ++ t.ranges)

/-- The gaps between ascending ranges from `start` on. -/
def gaps (start : Nat) : List (Nat × Nat) → List (Nat × Nat)
  | [] => if start ≤ maxCode then [(start, maxCode)] else []
  | (a, b) :: rest => if start < a then (start, a - 1) :: gaps (b + 1) rest else gaps (b + 1) rest

/-- The code points outside the set. -/
def complement (s : CodeSet) : CodeSet := ⟨gaps 0 s.ranges⟩

/-- Members of both sets. -/
def inter (s t : CodeSet) : CodeSet := (s.complement.union t.complement).complement

/-- Members of the first set alone. -/
def diff (s t : CodeSet) : CodeSet := s.inter t.complement

/-- Members of exactly one of the sets. -/
def symmDiff (s t : CodeSet) : CodeSet := (s.diff t).union (t.diff s)

end CodeSet

end Converge.Text
