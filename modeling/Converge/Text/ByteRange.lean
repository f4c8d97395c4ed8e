import Converge.Text.CodeSet

/-!
# Sets of characters as ranges of bytes

The UTF-8 texts of a range of characters, as sequences of byte ranges: a sequence stands for all
texts with one byte of each range. The sequences ascend, and each is as long as its texts are.
-/

namespace Converge.Text

/-- A range of bytes with both ends included. -/
abbrev ByteRange := Nat × Nat

/-- The sequences for numbers from `a` to `b` of which the low `6 * more` bits are in following
bytes, and the rest is added to `lead`. -/
def sequencesFrom : (more : Nat) → (lead a b : Nat) → List (List ByteRange)
  | 0, lead, a, b => [[(lead + a, lead + b)]]
  | more + 1, lead, a, b =>
    let block := Nat.pow 64 (more + 1)
    let first := a / block
    let last := b / block
    let within (n a b : Nat) : List (List ByteRange) :=
      (sequencesFrom more 0x80 a b).map fun s => (lead + n, lead + n) :: s
    if first = last then within first (a % block) (b % block)
    else
      let low := if a % block = 0 then first else first + 1
      let high := if b % block = block - 1 then last + 1 else last
      (if low = first then [] else within first (a % block) (block - 1)) ++
        (if low < high then
          [(lead + low, lead + (high - 1)) :: List.replicate (more + 1) (0x80, 0xBF)]
        else []) ++
        (if high = last then within last 0 (b % block) else [])

/-- The codes whose texts are of one length and, but for their first byte, of one form: the first
code and the last, how many bytes follow the first, and what marks the first. -/
def lengthBlocks : List (Nat × Nat × Nat × Nat) :=
  [(0, 0x7F, 0, 0), (0x80, 0x7FF, 1, 0xC0), (0x800, 0xD7FF, 2, 0xE0), (0xE000, 0xFFFF, 2, 0xE0),
    (0x10000, 0x10FFFF, 3, 0xF0)]

/-- The sequences of the texts of a range of characters. -/
def sequences (range : Nat × Nat) : List (List ByteRange) :=
  lengthBlocks.flatMap fun (first, last, more, lead) =>
    let a := max range.1 first
    let b := min range.2 last
    if a ≤ b then sequencesFrom more lead a b else []

/-- The bytes of a character. -/
def bytesOfChar (c : Char) : List Nat :=
  (sequences (c.toNat, c.toNat)).flatten.map Prod.fst

/-- The sequences of the texts of a set's members. -/
def CodeSet.sequences (s : CodeSet) : List (List ByteRange) := s.ranges.flatMap Text.sequences

/-- Whether all members are ASCII. -/
def CodeSet.isAscii (s : CodeSet) : Bool := s.ranges.all fun r => r.2 < 0x80

end Converge.Text
