import Converge.Pattern.Term

/-!
# Shapes of patterns

The shape of a pattern is what an automaton for it is built from: single characters in a row are one
literal, parts that match the empty text are gone, alternatives that are single characters are one
set, and what all alternatives begin with stands in front of them.
-/

namespace Converge.Pattern

open Text (CodeSet)

/-- A pattern as its automaton is built. Rows and choices hold their parts to the right, and no part
of a row is a row, no option of a choice a choice. -/
inductive Shape where
  | nothing
  | literal (cs : List Char)
  | set (s : CodeSet)
  | anchor (a : Anchor)
  | loop (t : Shape) (least : Nat) (most : Option Nat) (greedy : Bool)
  | capture (t : Shape)
  | row (t u : Shape)
  | choice (t u : Shape)

namespace Shape

/-- Whether two shapes are the same. No capture is the same as another one. -/
def same : Shape → Shape → Bool
  | nothing, nothing => true
  | literal cs, literal ds => cs = ds
  | set s, set t => s = t
  | anchor a, anchor b => a = b
  | loop t m n g, loop u m' n' g' => t.same u && m = m' && n = n' && g = g'
  | row t u, row t' u' => t.same t' && u.same u'
  | choice t u, choice t' u' => t.same t' && u.same u'
  | _, _ => false

/-- The shape of a set; one character is a literal. -/
def ofSet (s : CodeSet) : Shape :=
  match s.ranges with
  | [(a, b)] => if h : a = b ∧ a.isValidChar then literal [Char.ofNatAux a h.2] else set s
  | _ => set s

/-! ### Rows -/

/-- The parts of a row. -/
def parts : Shape → List Shape
  | nothing => []
  | row t u => t :: u.parts
  | t => [t]

/-- A part in front of a row; literals that meet are one. -/
def cons : Shape → Shape → Shape
  | nothing, t => t
  | t, nothing => t
  | literal cs, literal ds => literal (cs ++ ds)
  | literal cs, row (literal ds) t => row (literal (cs ++ ds)) t
  | t, u => row t u

/-- Two shapes in a row. -/
def append (t u : Shape) : Shape := t.parts.foldr cons u

/-- The beginning that two lists of parts have in common. -/
def commonStart : List Shape → List Shape → List Shape
  | t :: ts, u :: us => if t.same u then t :: commonStart ts us else []
  | _, _ => []

/-! ### Choices -/

/-- The options of a choice. -/
def options : Shape → List Shape
  | choice t u => t :: u.options
  | t => [t]

/-- The choice of some options. -/
def ofOptions : List Shape → Shape
  | [] => set .empty
  | [t] => t
  | t :: ts => choice t (ofOptions ts)

/-- The set that a shape of a single character matches. -/
def single? : Shape → Option CodeSet
  | set s => some s
  | literal [c] => some (.ofChars [c])
  | _ => none

/-- The choice of options, one set if all are single characters. -/
def joined (ts : List Shape) : Shape :=
  if ts.length ≤ 1 then ofOptions ts
  else
    match ts.mapM single? with
    | some sets => ofSet (.ofRanges (sets.flatMap CodeSet.ranges))
    | none => ofOptions ts

/-- The parts that all options begin with; only rows have a beginning. -/
def beginning : List Shape → List Shape
  | row t u :: ts =>
    ts.foldl (fun start v => match v with
      | row _ _ => commonStart start v.parts
      | _ => []) (row t u).parts
  | _ => []

/-- The shape that matches one of some shapes, the first that can being taken. -/
def alternatives (ts : List Shape) : Shape :=
  let ts := ts.flatMap options
  match ts.mapM single?, beginning ts with
  | none, t :: start =>
    if ts.length ≤ 1 then joined ts
    else
      let rest := ts.map fun u => (u.parts.drop (start.length + 1)).foldr cons nothing
      (t :: start).foldr cons (joined (rest.flatMap options))
  | _, _ => joined ts

/-! ### Repetitions -/

/-- A shape several times. Never and once leave no repetition. -/
def times (t : Shape) (least : Nat) (most : Option Nat) (greedy : Bool) : Shape :=
  if most = some 0 then nothing
  else if least = 1 && most = some 1 then t
  else loop t least most greedy

end Shape

namespace Term

/-- The shapes between which a term chooses. -/
def shapes : Term → List Shape
  | empty => [.nothing]
  | chars s => [.ofSet s]
  | anchor a => [.anchor a]
  | group .plain t => [.alternatives t.shapes]
  | group _ t => [.capture (.alternatives t.shapes)]
  | loop t least most greedy => [.times (.alternatives t.shapes) least most greedy]
  | both t u => [.append (.alternatives t.shapes) (.alternatives u.shapes)]
  | either t u => .alternatives t.shapes :: u.shapes

/-- The shape of a term. -/
def shape (t : Term) : Shape := .alternatives t.shapes

end Term

end Converge.Pattern
