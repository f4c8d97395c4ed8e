import Converge.Decimal.Binary64

/-!
# Shortest decimals

A finite float is written with the fewest digits that read back as the same float. Of the decimals
with that many digits the nearest is taken, of two equally near ones the one with the even digit.
-/

namespace Converge

/-- A positive decimal `0.d₁d₂… · 10 ^ point`, by its digits as one number and their count. -/
structure Digits where
  value : Nat
  count : Nat
  point : Int
deriving DecidableEq

namespace Binary64

/-- The interval of reals that round to a positive finite float, as numerators over one
denominator: lower end, the float, upper end. The ends belong to it when the mantissa is even. -/
def interval (x : Binary64) : Nat × Nat × Nat × Nat :=
  let m := x.mantissa
  let below := if x.fraction = 0 ∧ 1 < x.field then 4 * m - 1 else 4 * m - 2
  let above := 4 * m + 2
  let e := x.exponent - 2
  if 0 ≤ e then
    let s := Nat.pow 2 e.toNat
    (below * s, 4 * m * s, above * s, 1)
  else (below, 4 * m, above, Nat.pow 2 (-e).toNat)

/-- The decimal point of `num / den`: the least `p` with `num / den < 10 ^ p`, searched from a
guess that is too low by a few places at most. -/
def pointFrom (num den : Nat) : (tries : Nat) → Int → Int
  | 0, p => p
  | tries + 1, p =>
    let low := if 0 ≤ p then num < den * Nat.pow 10 p.toNat else num * Nat.pow 10 (-p).toNat < den
    if low then p else pointFrom num den tries (p + 1)

/-- The decimal point of a positive quotient. -/
def pointOf (num den : Nat) : Int :=
  let bits : Int := (Nat.log2 num : Int) - Nat.log2 den
  pointFrom num den 6 (bits * 30103 / 100000 - 2)

/-- The decimal of `n` digits in the interval, when there is one. -/
def digitsWith? (x : Binary64) (p : Int) (n : Nat) : Option Nat :=
  let (below, num, above, den) := x.interval
  let even := x.mantissa % 2 = 0
  let scale := (n : Int) - p
  let up := if 0 ≤ scale then Nat.pow 10 scale.toNat else 1
  let down := den * (if scale < 0 then Nat.pow 10 (-scale).toNat else 1)
  let floor := num * up / down
  let fits (d : Nat) : Bool :=
    let v := d * down
    if even then below * up ≤ v && v ≤ above * up else below * up < v && v < above * up
  let rest := num * up % down
  match fits floor && 0 < floor, fits (floor + 1) with
  | true, true =>
    some (if 2 * rest < down then floor else if down < 2 * rest then floor + 1
      else if floor % 2 = 0 then floor else floor + 1)
  | true, false => some floor
  | false, true => some (floor + 1)
  | false, false => none

/-- The first digit count from `n` up that has a decimal in the interval. -/
def shortestFrom (x : Binary64) (p : Int) : (tries : Nat) → Nat → Digits
  | 0, n => ⟨0, n, p⟩
  | tries + 1, n =>
    match x.digitsWith? p n with
    | some d => ⟨d, n, p⟩
    | none => shortestFrom x p tries (n + 1)

/-- Drops zeros from the end of the digits, and moves the point when a carry made one digit more. -/
def tidy : (tries : Nat) → Digits → Digits
  | 0, d => d
  | tries + 1, d =>
    if 1 < d.count && d.value % 10 == 0 then tidy tries ⟨d.value / 10, d.count - 1, d.point⟩
    else if d.value == Nat.pow 10 d.count then ⟨1, 1, d.point + 1⟩
    else d

/-- The shortest digits of a finite float other than zero. -/
def shortest (x : Binary64) : Digits :=
  let (_, num, _, den) := x.interval
  tidy 20 (shortestFrom x (pointOf num den) 17 1)

end Binary64

end Converge
