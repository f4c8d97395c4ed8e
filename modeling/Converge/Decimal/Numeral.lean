import Converge.Decimal.Layout

/-!
# Reading numerals

Reading integers and floats from plain text. A sign may stand in front; blanks and digit separators
are not part of a numeral.
-/

namespace Converge.Numeral

/-- The value of a digit of some base up to 36. -/
def digitValue? (base : Nat) (c : Char) : Option Nat :=
  let n := c.toNat
  let v := if 48 ≤ n ∧ n ≤ 57 then n - 48
    else if 97 ≤ n ∧ n ≤ 122 then n - 87
    else if 65 ≤ n ∧ n ≤ 90 then n - 55
    else 36
  if v < base then some v else none

/-- Whether a character is a decimal digit. -/
def isDigit (c : Char) : Bool := (digitValue? 10 c).isSome

/-- The digits in front, and the rest. -/
def spanDigits : List Char → List Char × List Char
  | [] => ([], [])
  | c :: cs => if isDigit c then let (ds, rest) := spanDigits cs; (c :: ds, rest) else ([], c :: cs)

/-- Reads digits of a base after those whose value is `acc`. -/
def readFrom (base : Nat) : (acc : Nat) → List Char → Option Nat
  | acc, [] => some acc
  | acc, c :: cs => (digitValue? base c).bind fun d => readFrom base (acc * base + d) cs

/-- The number that one or more digits write. -/
def readNat? (base : Nat) (cs : List Char) : Option Nat :=
  if cs.isEmpty then none else readFrom base 0 cs

/-- The value of a run of decimal digits, an empty run being zero. -/
def valueOf (ds : List Char) : Nat := (readFrom 10 0 ds).getD 0

/-- An integer with an optional sign. -/
def readInt? : List Char → Option Int
  | '-' :: cs => (readNat? 10 cs).map fun n => -(n : Int)
  | '+' :: cs => (readNat? 10 cs).map fun n => (n : Int)
  | cs => (readNat? 10 cs).map fun n => (n : Int)

/-- The least and the greatest integer of 64 bits with a sign. -/
def int64Min : Int := -9223372036854775808

/-- The greatest integer of 64 bits with a sign. -/
def int64Max : Int := 9223372036854775807

/-- The greatest integer of 64 bits without a sign. -/
def uint64Max : Int := 18446744073709551615

/-- Whether an integer fits 64 bits with a sign. -/
def fitsInt64 (i : Int) : Bool := int64Min ≤ i && i ≤ int64Max

/-- An integer with an optional sign that fits 64 bits. -/
def readInt64? (cs : List Char) : Option Int :=
  (readInt? cs).filter fitsInt64

/-- A position in a sequence: digits, perhaps after a plus sign, that fit 64 bits. -/
def readIndex? (cs : List Char) : Option Nat :=
  let ds := match cs with
    | '+' :: ds => ds
    | ds => ds
  (readNat? 10 ds).filter fun n => (n : Int) ≤ uint64Max

/-- The parts of a decimal numeral: digits before and after the point, and the exponent. -/
structure Parts where
  whole : List Char
  fraction : List Char
  exponent : Int

/-- The part of a numeral from its exponent mark on, which may be empty. -/
def readExponent? : List Char → Option Int
  | [] => some 0
  | c :: cs => if c = 'e' ∨ c = 'E' then readInt? cs else none

/-- The parts of an unsigned decimal numeral: digits on at least one side of the point. -/
def readParts? (cs : List Char) : Option Parts :=
  let (whole, rest) := spanDigits cs
  let (fraction, rest) := match rest with
    | '.' :: more => spanDigits more
    | _ => ([], rest)
  if whole.isEmpty && fraction.isEmpty then none
  else (readExponent? rest).map fun e => ⟨whole, fraction, e⟩

/-- The lower case of an ASCII letter; any other character as it is. -/
def lowerAscii (c : Char) : Char :=
  if 65 ≤ c.toNat ∧ c.toNat ≤ 90 then Char.ofNat (c.toNat + 32) else c

/-- The float nearest to an unsigned decimal numeral, or an infinity or NaN by name. -/
def readMagnitude? (negative : Bool) (cs : List Char) : Option Binary64 :=
  let name := String.ofList (cs.map lowerAscii)
  if name = "inf" ∨ name = "infinity" then some (.infinity negative)
  else if name = "nan" then some .nan
  else (readParts? cs).map fun p =>
    .ofDecimal negative (valueOf (p.whole ++ p.fraction)) (p.exponent - p.fraction.length)

/-- The float nearest to a decimal numeral with an optional sign. -/
def readFloat? : List Char → Option Binary64
  | '-' :: cs => readMagnitude? true cs
  | '+' :: cs => readMagnitude? false cs
  | cs => readMagnitude? false cs

end Converge.Numeral
