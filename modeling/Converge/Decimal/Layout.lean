import Converge.Decimal.Shortest

/-!
# Layouts of decimal numbers

How the shortest digits of a float are laid out: where positional notation ends, and whether a
whole number keeps a fraction. Data texts, plain texts and template output each have a layout.
-/

namespace Converge

/-- The decimal digits of an integer, with a minus sign where it is negative. -/
def integerText (i : Int) : String :=
  String.ofList (if i < 0 then '-' :: Nat.toDigits 10 i.natAbs else Nat.toDigits 10 i.natAbs)

/-- The decisions of a float format. -/
structure DecimalLayout where
  /-- Decimal exponents written positionally, both ends included; `none` means all of them. -/
  positional : Option (Int × Int)
  /-- Whether a whole number written positionally keeps `.0`. -/
  keepsFraction : Bool
  /-- Whether a positive exponent has a sign. -/
  exponentSign : Bool
  /-- The text of a NaN. -/
  nan : String
  /-- The text of an infinity, without its sign. -/
  infinity : String

namespace DecimalLayout

/-- The digits around a decimal point. -/
def positionalText (layout : DecimalLayout) (ds : List Char) (point : Int) : List Char :=
  if point ≤ 0 then '0' :: '.' :: (List.replicate (-point).toNat '0' ++ ds)
  else
    let n := point.toNat
    if ds.length ≤ n then
      ds ++ List.replicate (n - ds.length) '0' ++ (if layout.keepsFraction then ['.', '0'] else [])
    else ds.take n ++ '.' :: ds.drop n

/-- The digits with one of them before the point, and a signed exponent. -/
def exponentText (layout : DecimalLayout) (ds : List Char) (exponent : Int) : List Char :=
  let mark := if exponent < 0 then ['e', '-'] else if layout.exponentSign then ['e', '+'] else ['e']
  let tail := mark ++ Nat.toDigits 10 exponent.natAbs
  match ds with
  | [] => tail
  | [d] => d :: tail
  | d :: more => d :: '.' :: more ++ tail

/-- The digits of a finite float, without its sign. -/
def magnitudeText (layout : DecimalLayout) (x : Binary64) : List Char :=
  if x.isZero then positionalText layout ['0'] 1
  else
    let d := x.shortest
    let ds := Nat.toDigits 10 d.value
    let exponent := d.point - 1
    match layout.positional with
    | none => positionalText layout ds d.point
    | some (low, high) =>
      if low ≤ exponent && exponent ≤ high then positionalText layout ds d.point
      else exponentText layout ds exponent

/-- The text of a float. -/
def text (layout : DecimalLayout) (x : Binary64) : String :=
  if x.isNaN then layout.nan
  else
    let sign := if x.isNegative then "-" else ""
    if x.isInfinite then sign ++ layout.infinity
    else sign ++ String.ofList (layout.magnitudeText x)

end DecimalLayout

/-- Data texts: exponents from -5 to 15 are positional, and a whole number keeps `.0`. -/
def DecimalLayout.data : DecimalLayout := ⟨some (-5, 15), true, true, "null", "null"⟩

/-- Plain texts: always positional, and a whole number has no fraction. -/
def DecimalLayout.plain : DecimalLayout := ⟨none, false, false, "NaN", "inf"⟩

/-- Template output: always positional, and a whole number keeps `.0`. -/
def DecimalLayout.output : DecimalLayout := ⟨none, true, false, "NaN", "inf"⟩

/-- Template output inside lists and maps: exponents from -4 to 15 are positional. -/
def DecimalLayout.nested : DecimalLayout := ⟨some (-4, 15), true, false, "NaN", "inf"⟩

end Converge
