import Converge.Decimal.Numeral
import Converge.Tree.Basic

/-!
# Numbers in captured text

Captured text becomes a number only where the number prints back as the same text, so that no
spelling is lost: leading zeros, plus signs and trailing zeros stay text.
-/

namespace Converge.Tree

/-- The number that a text writes canonically, or the text itself. -/
def ofCaptured (s : String) : Tree :=
  match Numeral.readInt64? s.toList with
  | some i => if integerText i = s then int i else text s
  | none =>
    match Numeral.readFloat? s.toList with
    | some x => if x.isFinite && DecimalLayout.plain.text x == s then float x else text s
    | none => text s

end Converge.Tree
