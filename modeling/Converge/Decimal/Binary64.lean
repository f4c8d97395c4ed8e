/-!
# Binary floating point of 64 bits

A float is its sixty-four bits. A finite float is `± mantissa · 2 ^ exponent`, and rounding a
quotient of natural numbers gives the nearest float, of two equally near ones that with the even
mantissa.
-/

namespace Converge

/-- A float of the 64-bit binary format, as its bits. -/
structure Binary64 where
  bits : UInt64
deriving DecidableEq

namespace Binary64

instance : Inhabited Binary64 := ⟨⟨0⟩⟩

/-- The weight of the sign bit, two to the power of 63. -/
def signBit : Nat := 0x8000000000000000

/-- The count of fractions, two to the power of 52. -/
def fractions : Nat := 0x10000000000000

/-- Whether the sign bit is set. -/
def isNegative (x : Binary64) : Bool := signBit ≤ x.bits.toNat

/-- The eleven bits of the exponent field. -/
def field (x : Binary64) : Nat := x.bits.toNat / fractions % 2048

/-- The fifty-two bits after the exponent field. -/
def fraction (x : Binary64) : Nat := x.bits.toNat % fractions

/-- Neither infinite nor a NaN. -/
def isFinite (x : Binary64) : Bool := x.field ≠ 0x7ff

/-- An infinity. -/
def isInfinite (x : Binary64) : Bool := x.field = 0x7ff && x.fraction = 0

/-- Not a number. -/
def isNaN (x : Binary64) : Bool := x.field = 0x7ff && x.fraction ≠ 0

/-- A zero of either sign. -/
def isZero (x : Binary64) : Bool := x.field = 0 && x.fraction = 0

/-- The integer that `2 ^ exponent` scales. -/
def mantissa (x : Binary64) : Nat := if x.field = 0 then x.fraction else x.fraction + fractions

/-- The exponent of two of a finite float's last place. -/
def exponent (x : Binary64) : Int := (max x.field 1 : Nat) - 1075

/-- The infinity of a sign. -/
def infinity (negative : Bool) : Binary64 :=
  ⟨if negative then 0xfff0000000000000 else 0x7ff0000000000000⟩

/-- The NaN that computations give. -/
def nan : Binary64 := ⟨0x7ff8000000000000⟩

/-- The zero of a sign. -/
def zero (negative : Bool) : Binary64 := ⟨if negative then 0x8000000000000000 else 0⟩

/-- `num / den` to the nearest natural number, a tie to the even one. -/
def roundHalfEven (num den : Nat) : Nat :=
  let q := num / den
  let r := num % den
  if 2 * r < den then q else if den < 2 * r then q + 1 else if q % 2 = 0 then q else q + 1

/-- The quotient `num / den` divided by `2 ^ e`, as a quotient. -/
def scaleDown (num den : Nat) (e : Int) : Nat × Nat :=
  if 0 ≤ e then (num, den * Nat.pow 2 e.toNat) else (num * Nat.pow 2 (-e).toNat, den)

/-- The float with mantissa `m` and exponent `q`, where a mantissa of `2 ^ 53` carries. -/
def assemble (negative : Bool) (m : Nat) (q : Int) : Binary64 :=
  let magnitude := if m < fractions then m else (q + 1075).toNat * fractions + (m - fractions)
  if 0x7ff0000000000000 ≤ magnitude then infinity negative
  else ⟨UInt64.ofNat (if negative then magnitude + signBit else magnitude)⟩

/-- The float nearest to `± num / den`. -/
def ofQuotient (negative : Bool) (num den : Nat) : Binary64 :=
  if num = 0 ∨ den = 0 then zero negative
  else
    let e : Int := (Nat.log2 num : Int) - Nat.log2 den
    let (a, b) := scaleDown num den e
    let q := max (if b ≤ a then e - 52 else e - 53) (-1074)
    let (n, d) := scaleDown num den q
    assemble negative (roundHalfEven n d) q

/-- The float nearest to an integer. -/
def ofInt (i : Int) : Binary64 := ofQuotient (i < 0) i.natAbs 1

/-- A finite float as a quotient of natural numbers, without its sign. -/
def magnitude (x : Binary64) : Nat × Nat :=
  if 0 ≤ x.exponent then (x.mantissa * Nat.pow 2 x.exponent.toNat, 1)
  else (x.mantissa, Nat.pow 2 (-x.exponent).toNat)

/-- The product of two finite floats, rounded once. -/
def mul (x y : Binary64) : Binary64 :=
  let (a, b) := x.magnitude
  let (c, d) := y.magnitude
  ofQuotient (x.isNegative != y.isNegative) (a * c) (b * d)

/-- The quotient of two finite floats, rounded once; the divisor is not zero. -/
def div (x y : Binary64) : Binary64 :=
  let (a, b) := x.magnitude
  let (c, d) := y.magnitude
  ofQuotient (x.isNegative != y.isNegative) (a * d) (b * c)

/-- `± m · 10 ^ e` rounded once. Exponents far outside the format's range are cut short. -/
def ofDecimal (negative : Bool) (m : Nat) (e : Int) : Binary64 :=
  let size : Int := (Nat.log2 m * 30103 / 100000 : Nat) + e
  if m = 0 then zero negative
  else if 400 < size then infinity negative
  else if size < -400 then zero negative
  else if 0 ≤ e then ofQuotient negative (m * Nat.pow 10 e.toNat) 1
  else ofQuotient negative m (Nat.pow 10 (-e).toNat)

/-- The integer part of a finite float. -/
def truncate (x : Binary64) : Int :=
  let (a, b) := x.magnitude
  if x.isNegative then -((a / b : Nat) : Int) else ((a / b : Nat) : Int)

/-- The integer that a finite float is, when it is one. -/
def toInt? (x : Binary64) : Option Int :=
  let (a, b) := x.magnitude
  if x.isFinite && a % b == 0 then some x.truncate else none

/-- Numeric order of finite floats and infinities, with the two zeros alike, as an integer key. -/
def orderKey (x : Binary64) : Int :=
  let magnitude : Int := ((x.bits.toNat % signBit : Nat) : Int)
  if x.isNegative then -magnitude else magnitude

/-- Numeric equality: a NaN equals nothing, and the two zeros are equal. -/
def numEq (x y : Binary64) : Bool := !x.isNaN && !y.isNaN && x.orderKey == y.orderKey

/-- The machine's float with these bits. -/
def toFloat (x : Binary64) : Float := Float.ofBits x.bits

/-- The bits of a machine float. -/
def ofFloat (x : Float) : Binary64 := ⟨x.toBits⟩

end Binary64

end Converge
