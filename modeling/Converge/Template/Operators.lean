import Converge.Template.Fault
import Converge.Template.Value.Order
import Converge.Template.Value.Printed
import Converge.Text.Find

/-!
# Operators on values

Arithmetic on integers is exact within 128 bits. Whole quotients and remainders of integers are
Euclidean: a remainder is never negative.
-/

namespace Converge.Template

namespace FloatOps

/-- The remainder of a division truncated toward zero; it has the sign of the dividend. -/
def rem (x y : Binary64) : Binary64 :=
  if !x.isFinite || y.isNaN || y.isZero then .nan
  else if y.isInfinite || x.isZero then x
  else
    let (a, b) := x.magnitude
    let (c, d) := y.magnitude
    .ofQuotient x.isNegative (a * d % (c * b)) (b * d)

/-- A float operation of the machine. -/
def lift (f : Float → Float → Float) (x y : Binary64) : Binary64 :=
  .ofFloat (f x.toFloat y.toFloat)

/-- The whole quotient whose remainder is not negative. -/
def floorDiv (x y : Binary64) : Binary64 :=
  let q := (x.toFloat / y.toFloat)
  let whole := if q < 0 then q.ceil else q.floor
  let r := rem x y
  if r.isNegative && !r.isZero then
    .ofFloat (if y.toFloat > 0 then whole - 1 else whole + 1)
  else .ofFloat whole

end FloatOps

namespace Value

/-- An integer result, which must fit 128 bits. -/
def checked (i : Int) : Except Fault Value :=
  if fits128 i then .ok (int i) else .error .invalidOperation

/-- Arithmetic on two integers or two floats. -/
def arithmetic (onInts : Int → Int → Except Fault Value) (onFloats : Binary64 → Binary64 → Binary64)
    (a b : Value) : Except Fault Value :=
  match operands? true a b with
  | some (.ints i j) => onInts i j
  | some (.floats x y) => .ok (float (onFloats x y))
  | _ => .error .invalidOperation

/-- The items of a sequence. -/
def sequence? : Value → Option (List Value)
  | list vs _ _ => some vs
  | _ => Option.none

/-- The sum of numbers, or two texts or sequences one after the other. -/
def add (a b : Value) : Except Fault Value :=
  match a.sequence?, b.sequence?, a, b with
  | some as, some bs, _, _ => .ok (derived (as ++ bs))
  | _, _, text s _, text t _ => .ok (ofText (s ++ t))
  | _, _, a, b => arithmetic (fun i j => checked (i + j)) (FloatOps.lift (· + ·)) a b

/-- The difference of numbers. -/
def sub (a b : Value) : Except Fault Value :=
  arithmetic (fun i j => checked (i - j)) (FloatOps.lift (· - ·)) a b

/-- How often a text or a sequence is repeated. -/
def repetitions (v : Value) : Except Fault Nat :=
  match v.toWord? with
  | some i => if 0 ≤ i then .ok i.toNat else .error .invalidOperation
  | Option.none => .error .invalidOperation

/-- The product of numbers, or a text or sequence repeated. -/
def mul (a b : Value) : Except Fault Value :=
  match a.asText?, b.asText?, a.sequence?, b.sequence? with
  | some s, _, _, _ => (repetitions b).map fun n => ofText (String.join (List.replicate n s))
  | _, some s, _, _ => (repetitions a).map fun n => ofText (String.join (List.replicate n s))
  | _, _, some vs, _ => (repetitions b).map fun n => derived (List.replicate n vs).flatten
  | _, _, _, some vs => (repetitions a).map fun n => derived (List.replicate n vs).flatten
  | _, _, _, _ => arithmetic (fun i j => checked (i * j)) (FloatOps.lift (· * ·)) a b

/-- The quotient of numbers as a float. -/
def div (a b : Value) : Except Fault Value :=
  match a.asFloat? true, b.asFloat? true with
  | some x, some y => .ok (float (FloatOps.lift (· / ·) x y))
  | _, _ => .error .invalidOperation

/-- The whole quotient. -/
def floorDiv (a b : Value) : Except Fault Value :=
  arithmetic (fun i j => if j = 0 then .error .invalidOperation else checked (Int.ediv i j))
    FloatOps.floorDiv a b

/-- The remainder. -/
def mod (a b : Value) : Except Fault Value :=
  arithmetic (fun i j => if j = 0 then .error .invalidOperation else checked (Int.emod i j))
    FloatOps.rem a b

/-- An integer power with a 32-bit exponent that is not negative. -/
def intPower (i j : Int) : Except Fault Value :=
  if j < 0 || 4294967295 < j then .error .invalidOperation
  else if i = 0 || i = 1 then .ok (int (if j = 0 then 1 else i))
  else if i = -1 then .ok (int (if j % 2 = 0 then 1 else -1))
  else if 127 < j then .error .invalidOperation
  else checked (Int.pow i j.toNat)

/-- The power of numbers. -/
def pow (a b : Value) : Except Fault Value :=
  arithmetic intPower (FloatOps.lift Float.pow) a b

/-- The number with the other sign. The greatest power of two that is a numeral of 128 bits is its
own opposite. -/
def negate : Value → Except Fault Value
  | int i =>
    if i = 170141183460469231731687303715884105728 then .ok (int i)
    else if fits128 i then checked (-i) else .error .invalidOperation
  | float x => .ok (float ⟨UInt64.ofNat ((x.bits.toNat + Binary64.signBit) % (2 * Binary64.signBit))⟩)
  | _ => .error .invalidOperation

/-! ### Parts -/

/-- A position counted from the end when it is negative. -/
def position? (key : Value) (length : Nat) : Option Nat :=
  (key.toWord?).bind fun i =>
    if 0 ≤ i then some i.toNat
    else if 0 ≤ i + length then some (i + length).toNat else Option.none

/-- The value under a key or at a position, when there is one. -/
def item? (v key : Value) : Option Value :=
  match v with
  | text s _ =>
    (position? key s.length).bind fun i => (s.toList[i]?).map fun c => ofText (String.singleton c)
  | list vs shape _ =>
    match shape, key.asText? with
    | .group, some "grouper" => vs[0]?
    | .group, some "list" => vs[1]?
    | _, _ => (position? key vs.length).bind fun i => vs[i]?
  | map es _ => lookup? key es
  | named es => lookup? key es
  | record _ fields => key.asText?.bind fun k => fields.lookup k
  | loop _ index depth vs => key.asText?.bind (loopField? index depth vs)
  | routine m _ _ _ => key.asText?.bind (macroField? m)
  | _ => Option.none

/-- The value under a key or at a position; what an undefined value holds is a fault. -/
def item (v key : Value) : Except Fault Value :=
  match v.item? key with
  | some w => .ok w
  | Option.none => if v.isUndefined then .error .undefinedValue else .ok (undefined false)

/-- Whether a container holds a value: a text holds a part, a sequence an item, and what has entries
a key. -/
def holds (container v : Value) : Except Fault Bool :=
  match container with
  | undefined _ => .ok false
  | text s _ => .ok (Text.contains v.printed.toList s.toList)
  | list vs _ _ => .ok (vs.any fun w => w.eq v)
  | builtin _ => .ok false
  | c => if c.entries?.isSome then .ok (c.item? v).isSome else .error .invalidOperation

/-- Walks down along names and positions joined by dots. -/
def path (v : Value) (dotted : String) : Except Fault Value :=
  (Text.splitOn '.' dotted.toList).foldlM (fun v part =>
    v.item (match Numeral.readIndex? part with
      | some i => int i
      | Option.none => ofText (String.ofList part))) v

/-- Every `step`-th item. -/
def everyNth {α : Type} (step : Nat) : (skip : Nat) → List α → List α
  | _, [] => []
  | 0, a :: rest => a :: everyNth step (step - 1) rest
  | skip + 1, _ :: rest => everyNth step skip rest

/-- The items from `start` up to but not including `stop`, every `step`-th of them. Positions count
from the end when they are negative; a start before the first item is beyond all of them, and so is
such a stop. -/
def sliceForward {α : Type} (vs : List α) (start stop : Option Int) (step : Nat) : List α :=
  let n : Int := vs.length
  let place (i : Int) : Option Nat :=
    if 0 ≤ i then some i.toNat else if 0 ≤ i + n then some (i + n).toNat else Option.none
  match place (start.getD 0), place (stop.getD n) with
  | some a, some b => everyNth step 0 ((vs.take b).drop a)
  | some a, Option.none => everyNth step 0 (vs.drop a)
  | Option.none, _ => []

/-- The items from `start` down to but not including `stop`, every `step`-th of them. A start beyond
the last item is the last one, and without a stop, or with one at the first item, the first item is
included. -/
def sliceBackward {α : Type} (vs : List α) (start stop : Option Int) (step : Nat) : List α :=
  let n : Int := vs.length
  let first : Int := match start with
    | Option.none => n - 1
    | some i => if n ≤ i then n - 1 else if 0 ≤ i then i else max 0 (n + i)
  let last : Int := match stop with
    | Option.none => 0
    | some i => if i < 0 then max 0 (n + i) else i
  let least : Int := if last = 0 then 0 else last + 1
  everyNth step 0 (((vs.take (first + 1).toNat).drop least.toNat).reverse)

/-- The items from `start` to `stop`, every `step`-th of them, backwards when it is negative. -/
def sliceItems {α : Type} (vs : List α) (start stop : Option Int) (step : Int) : List α :=
  if 0 < step then sliceForward vs start stop step.toNat
  else sliceBackward vs start stop (-step).toNat

/-- A bound of a slice. -/
def bound? : Value → Except Fault (Option Int)
  | none => .ok Option.none
  | v => match v.toWord? with
    | some i => .ok (some i)
    | Option.none => .error .invalidOperation

/-- Part of a text or of a sequence. -/
def slice (v start stop step : Value) : Except Fault Value := do
  let a ← bound? start
  let b ← bound? stop
  let s ← bound? step
  if s = some 0 then throw .invalidOperation
  match v with
  | text t _ => return ofText (String.ofList (sliceItems t.toList a b (s.getD 1)))
  | list vs _ _ => return derived (sliceItems vs a b (s.getD 1))
  | undefined _ => return seq []
  | none => return seq []
  | _ => throw .invalidOperation

end Value

end Converge.Template
