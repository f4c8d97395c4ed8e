import Converge.Decimal.Numeral
import Converge.Tree.Basic

/-!
# JSON as it is written

A JSON text before its values are judged: numerals keep their digits, and a text that holds half of
a surrogate pair is kept as a text without a value. What is judged only where it is used can then be
skipped without harm, as the value of an unknown field is.
-/

namespace Converge.Json

/-- A JSON numeral by its parts. -/
structure Literal where
  negative : Bool
  whole : List Char
  fraction : List Char
  /-- The sign and digits of the exponent, when one is written. -/
  exponent : Option (Bool × List Char)

/-- A JSON text as it is written. -/
inductive Node where
  | null
  | bool (b : Bool)
  | number (n : Literal)
  | text (s : Option String)
  | list (items : List Node)
  | map (entries : List (Option String × Node))

namespace Literal

/-- Takes digits after the significand `s` while it fits 64 bits: the significand, how many were
taken, and how many were left. -/
def significand : (s taken : Nat) → List Char → Nat × Nat × Nat
  | s, taken, [] => (s, taken, 0)
  | s, taken, c :: cs =>
    let next := 10 * s + (Numeral.digitValue? 10 c).getD 0
    if next ≤ 18446744073709551615 then significand next (taken + 1) cs
    else (s, taken, cs.length + 1)

/-- Scales a float by a power of ten in one rounded step, or, below the table of such powers, in
several. Overflow has no value. -/
def scaled : (tries : Nat) → Binary64 → Int → Option Binary64
  | 0, x, _ => some x
  | tries + 1, x, e =>
    if x.isZero then some x
    else if 308 < e then none
    else if 0 ≤ e then
      let y := x.mul (.ofDecimal false 1 e)
      if y.isInfinite then none else some y
    else if -308 ≤ e then some (x.div (.ofDecimal false 1 (-e)))
    else scaled tries (x.div (.ofDecimal false 1 308)) (e + 308)

/-- Whether the literal has neither fraction nor exponent. -/
def isPlain (n : Literal) : Bool := n.fraction.isEmpty && n.exponent.isNone

/-- The float that a literal writes: the whole digits that fit 64 bits and then the digits behind
the point that still do as one significand, scaled by the power of ten that is left. -/
def float? (n : Literal) : Option Binary64 :=
  let (s, _, skipped) := significand 0 0 n.whole
  let (s, taken, _) := significand s 0 n.fraction
  let e : Int := (skipped : Int) - taken
  let shift : Int := match n.exponent with
    | none => 0
    | some (down, ds) => if down then -(Numeral.valueOf ds : Int) else Numeral.valueOf ds
  (scaled 5 (.ofInt s) (e + shift)).map fun x =>
    if n.negative then ⟨UInt64.ofNat (x.bits.toNat + Binary64.signBit)⟩ else x

/-- The number that a literal writes: an integer where one is written that fits 64 bits, a float
otherwise. -/
def toTree? (n : Literal) : Option Tree :=
  let v : Int := Numeral.valueOf n.whole
  if n.isPlain && !n.negative && v ≤ Numeral.uint64Max then some (.int v)
  else if n.isPlain && n.negative && v != 0 && Numeral.int64Min ≤ -v then some (.int (-v))
  else n.float?.map .float

end Literal

namespace Node

/-- How many lists and maps may enclose a value. -/
def nestingLimit : Nat := 127

mutual

/-- The tree that a node writes, when its numbers are in range, its texts are well formed and no
more than `depth` lists and maps enclose one another. -/
def toTree? (depth : Nat) : Node → Option Tree
  | null => some .null
  | bool b => some (.bool b)
  | number n => n.toTree?
  | text s => s.map .text
  | list items =>
    match depth with
    | 0 => none
    | depth + 1 => (items? depth items).map .list
  | map entries =>
    match depth with
    | 0 => none
    | depth + 1 => (fields? depth entries []).map .map

/-- The trees of the items. -/
def items? (depth : Nat) : List Node → Option (List Tree)
  | [] => some []
  | v :: rest => (toTree? depth v).bind fun t => (items? depth rest).map (t :: ·)

/-- The fields of a map; a key written again replaces the value and keeps the place. -/
def fields? (depth : Nat) : List (Option String × Node) → Fields Tree → Option (Fields Tree)
  | [], fs => some fs
  | (k, v) :: rest, fs =>
    k.bind fun key => (toTree? depth v).bind fun t => fields? depth rest (Fields.put key t fs)

end

end Node

end Converge.Json
