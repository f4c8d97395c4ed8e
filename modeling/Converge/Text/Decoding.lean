/-!
# Texts from bytes

Bytes in UTF-8 are read one at a time. Bytes that are no text are cut into the longest pieces that
could have begun a character, or into single bytes, and each piece stands for one character that is
missing.
-/

namespace Converge.Text

/-- A character of which the first bytes have been read. -/
structure Begun where
  /-- The bits read so far. -/
  code : Nat
  /-- How many bytes must follow. -/
  missing : Nat
  /-- The range of the byte that comes next. -/
  least : UInt8
  most : UInt8

/-- What the first byte of a character says. -/
inductive FirstByte where
  | whole (c : Char)
  | begun (p : Begun)
  /-- No character begins with the byte. -/
  | none

/-- Reads the first byte of a character. The range of the second byte leaves out codes that have a
shorter form, halves of surrogate pairs, and codes that are too large. -/
def FirstByte.of (b : UInt8) : FirstByte :=
  if b < 0x80 then .whole (Char.ofNat b.toNat)
  else if b < 0xc2 then .none
  else if b < 0xe0 then .begun ⟨b.toNat - 0xc0, 1, 0x80, 0xbf⟩
  else if b < 0xf0 then
    .begun ⟨b.toNat - 0xe0, 2, if b = 0xe0 then 0xa0 else 0x80, if b = 0xed then 0x9f else 0xbf⟩
  else if b < 0xf5 then
    .begun ⟨b.toNat - 0xf0, 3, if b = 0xf0 then 0x90 else 0x80, if b = 0xf4 then 0x8f else 0xbf⟩
  else .none

/-- The characters that bytes write, behind what has begun; `none` stands for a piece that is no
character. -/
def decodeFrom : (begun : Option Begun) → List UInt8 → List (Option Char)
  | none, [] => []
  | some _, [] => [none]
  | none, b :: bytes =>
    match FirstByte.of b with
    | .whole c => some c :: decodeFrom none bytes
    | .begun p => decodeFrom (some p) bytes
    | .none => none :: decodeFrom none bytes
  | some p, b :: bytes =>
    if p.least ≤ b && b ≤ p.most then
      let code := p.code * 64 + (b.toNat - 0x80)
      if p.missing = 1 then some (Char.ofNat code) :: decodeFrom none bytes
      else decodeFrom (some ⟨code, p.missing - 1, 0x80, 0xbf⟩) bytes
    else
      match FirstByte.of b with
      | .whole c => none :: some c :: decodeFrom none bytes
      | .begun p => none :: decodeFrom (some p) bytes
      | .none => none :: none :: decodeFrom none bytes

/-- The characters that bytes write. -/
def decode (bytes : List UInt8) : List (Option Char) := decodeFrom none bytes

end Converge.Text
