import Converge.Template.Tests
import Converge.Text.Lines

/-!
# Filters of texts

Replacing, cutting, trimming and laying out texts. What is cut from a text that is safe inside
markup is safe as well.
-/

namespace Converge.Template.Value

open Arguments

/-- A value as text that is safe inside markup. -/
def escaped (v : Value) : Value := text v.markup true

/-- Whether a value is a text that is safe inside markup. -/
def isSafe : Value → Bool
  | text _ safe => safe
  | _ => false

/-! ### Replacing -/

/-- Replaces each occurrence of a text that is not empty; `skip` characters of the last occurrence
are still to be passed over. -/
def replaceFrom (old new : List Char) : (skip : Nat) → List Char → List Char
  | _, [] => []
  | skip + 1, _ :: cs => replaceFrom old new skip cs
  | 0, c :: cs =>
    if Text.startsWith old (c :: cs) then new ++ replaceFrom old new (old.length - 1) cs
    else c :: replaceFrom old new 0 cs

/-- A text with each occurrence of another replaced; the empty text occurs around each
character. -/
def replaced (s old new : List Char) : List Char :=
  if old.isEmpty then new ++ s.flatMap fun c => c :: new else replaceFrom old new 0 s

/-! ### Cutting -/

/-- Pieces of a text between the occurrences of a separator that is not empty, at most `limit` of
them; `skip` characters of the last occurrence are still to be passed over. -/
def piecesFrom (mark : List Char) : (skip limit : Nat) → List Char → List (List Char)
  | _, _, [] => [[]]
  | skip + 1, limit, _ :: cs => piecesFrom mark skip limit cs
  | 0, limit, c :: cs =>
    if 1 < limit && Text.startsWith mark (c :: cs) then
      [] :: piecesFrom mark (mark.length - 1) (limit - 1) cs
    else match piecesFrom mark 0 limit cs with
      | [] => [[c]]
      | piece :: more => (c :: piece) :: more

/-- Pieces of a text between the occurrences of a separator; the empty separator occurs around each
character. -/
def pieces (mark : List Char) (limit : Nat) (cs : List Char) : List (List Char) :=
  if mark.isEmpty then
    let all := [] :: cs.map (fun c => [c]) ++ [[]]
    if all.length ≤ limit then all else all.take (limit - 1) ++ [cs.drop (limit - 2)]
  else piecesFrom mark 0 limit cs

/-- Words between blanks. -/
def wordsOf : List Char → List (List Char)
  | [] => []
  | c :: cs =>
    if Text.isBlank c then wordsOf cs
    else match cs, wordsOf cs with
      | [], more => [c] :: more
      | d :: _, more =>
        if Text.isBlank d then [c] :: more
        else match more with
          | [] => [[c]]
          | word :: more => (c :: word) :: more

/-- At most `limit` words between blanks, and what follows them as one piece. -/
def someWords : (limit : Nat) → List Char → List (List Char)
  | limit, cs =>
    match Text.trimStart cs, limit with
    | [], _ => []
    | rest, 0 => [rest]
    | rest, limit + 1 =>
      rest.takeWhile (fun c => !Text.isBlank c) ::
        someWords limit (rest.dropWhile fun c => !Text.isBlank c)

/-- The pieces of a text, cut at most `cuts` times; without a separator its words. -/
def splitText (s : List Char) (mark : Option String) (cuts : Option Nat) : List (List Char) :=
  match mark, cuts with
  | some m, cuts => pieces m.toList ((cuts.map (· + 1)).getD (s.length + 3)) s
  | Option.none, some n => someWords n s
  | Option.none, Option.none => wordsOf s

/-- A text without characters of a set at its ends. -/
def trimmedOf (set s : List Char) : List Char :=
  ((s.dropWhile set.contains).reverse.dropWhile set.contains).reverse

/-! ### Laying out -/

/-- A text without one line end behind it. -/
def withoutLineEnd (cs : List Char) : List Char :=
  let cs := if cs.getLast? = some '\n' then cs.dropLast else cs
  if cs.getLast? = some '\r' then cs.dropLast else cs

/-- A text with blanks in front of its lines: of the first one, and of empty ones, only on
request. -/
def indented (width : Nat) (first empties : Bool) (cs : List Char) : List Char :=
  let pad := List.replicate width ' '
  let indent (line : List Char) : List Char :=
    if line.isEmpty then if empties then pad else [] else pad ++ line
  let lines := match Text.splitOn '\n' (withoutLineEnd cs) with
    | [] => []
    | line :: rest => (if first then indent line else line) :: rest.map indent
  withoutLineEnd (lines.flatMap fun line => line ++ ['\n'])

/-- Texts with a separator between them. -/
def joined (mark : String) (vs : List Value) : String := mark.intercalate (vs.map printed)

/-! ### By name -/

/-- A filter of a text without arguments, and whether its result is as safe as the text. -/
def textFilter? : String → Option (Bool × (String → String))
  | "upper" => some (true, Text.upper)
  | "lower" => some (true, Text.lower)
  | "capitalize" => some (true, Text.capitalized)
  | "title" => some (false, Text.title)
  | _ => Option.none

/-- The filter `trim`. -/
def trimFilter (strict : Bool) (v : Value) (args : List Value) : Except Fault Value := do
  let s ← textOf strict (some v)
  let set ← optionalText strict args.head?
  finish args.tail (text (match set with
    | some cs => String.ofList (trimmedOf cs.toList s.toList)
    | Option.none => Text.trimmed s) v.isSafe)

/-- The filter `replace`. -/
def replaceFilter (strict : Bool) (v : Value) (args : List Value) : Except Fault Value := do
  let s ← textOf strict (some v)
  let old ← textOf strict args.head?
  let new ← textOf strict args.tail.head?
  finish (args.drop 2) (ofText (String.ofList (replaced s.toList old.toList new.toList)))

/-- The filter `split`. -/
def splitFilter (v : Value) (args : List Value) : Except Fault Value := do
  let s ← exactText (some v)
  let mark ← optionalExactText args.head?
  let cuts ← optionalInt args.tail.head?
  let cuts := cuts.bind fun i => if 0 ≤ i then some i.toNat else Option.none
  finish (args.drop 2) (seq ((splitText s.toList mark cuts).map fun cs =>
    text (String.ofList cs) v.isSafe))

/-- The filter `lines`. -/
def linesFilter (v : Value) (args : List Value) : Except Fault Value := do
  let s ← exactText (some v)
  finish args (seq ((Text.linesOf s).map fun line => text line v.isSafe))

/-- The filter `indent`. -/
def indentFilter (strict : Bool) (v : Value) (args : List Value) : Except Fault Value := do
  let s ← textOf strict (some v)
  let width ← count strict args.head?
  let first ← optionalBool (args.drop 1).head?
  let empties ← optionalBool (args.drop 2).head?
  finish (args.drop 3) (text (String.ofList
    (indented width (first.getD false) (empties.getD false) s.toList)) v.isSafe)

/-- The filter `join`. -/
def joinFilter (strict : Bool) (v : Value) (args : List Value) : Except Fault Value := do
  let mark ← optionalText strict args.head?
  let () ← finish args.tail ()
  match v.items? with
  | some vs => return ofText (joined (mark.getD "") vs)
  | Option.none => throw .invalidOperation

end Converge.Template.Value
