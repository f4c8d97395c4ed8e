import Converge.Template.Operators

/-!
# Filters of numbers

Converting to numbers, rounding and adding up.
-/

namespace Converge.Template.Value

/-- The integer of 128 bits nearest to a float towards zero; a NaN becomes zero. -/
def saturated (x : Binary64) : Int :=
  let least : Int := -170141183460469231731687303715884105728
  let greatest : Int := 170141183460469231731687303715884105727
  if x.isNaN then 0
  else if x.isInfinite then if x.isNegative then least else greatest
  else max least (min greatest x.truncate)

/-- The integer that a value is converted to. -/
def toInteger : Value → Except Fault Value
  | undefined _ => .ok (int 0)
  | none => .ok (int 0)
  | bool b => .ok (int (if b then 1 else 0))
  | int i => .ok (int i)
  | float x => .ok (int (saturated x))
  | text s _ =>
    match (Numeral.readInt? s.toList).filter fits128 with
    | some i => .ok (int i)
    | Option.none =>
      match Numeral.readFloat? s.toList with
      | some x => .ok (int (saturated x))
      | Option.none => .error .invalidOperation
  | _ => .error .invalidOperation

/-- The float that a value is converted to. -/
def toFloating : Value → Except Fault Value
  | undefined _ => .ok (float (.zero false))
  | none => .ok (float (.zero false))
  | text s _ =>
    match Numeral.readFloat? s.toList with
    | some x => .ok (float x)
    | Option.none => .error .invalidOperation
  | v => match v.asFloat? true with
    | some x => .ok (float x)
    | Option.none => .error .invalidOperation

/-- The number without its sign. -/
def absolute : Value → Except Fault Value
  | int i => if 0 ≤ i then .ok (int i) else checked (-i)
  | float x => .ok (float ⟨UInt64.ofNat (x.bits.toNat % Binary64.signBit)⟩)
  | _ => .error .invalidOperation

/-- Repeated squares of `a` multiplied into `acc` where the exponent has a binary one; `fuel` is at
least the count of its binary digits. -/
def squarings (acc a : Float) : (fuel : Nat) → (exponent : Nat) → Float
  | 0, _ => acc
  | fuel + 1, n =>
    let acc := if n % 2 = 1 then acc * a else acc
    if n / 2 = 0 then acc else squarings acc (a * a) fuel (n / 2)

/-- A power of ten by repeated squaring. -/
def powerOfTen (exponent : Int) : Float :=
  let p := squarings 1 10 64 exponent.natAbs
  if exponent < 0 then 1 / p else p

/-- A number with so many digits behind its point; a half goes away from zero. -/
def rounded (places : Int) : Value → Except Fault Value
  | int i => .ok (int i)
  | float x =>
    let scale := powerOfTen places
    .ok (float (.ofFloat ((scale * x.toFloat).round / scale)))
  | _ => .error .invalidOperation

/-- The sum of numbers; undefined items do not count. -/
def total : List Value → Except Fault Value
  | vs => vs.foldlM (fun acc v =>
    if v.isUndefined then .ok acc
    else if v.kind = .number then add acc v else .error .invalidOperation) (int 0)

end Converge.Template.Value
