import Converge.Template.Arguments
import Converge.Template.Filters.Numbers

/-!
# Format texts

A format text holds directives that begin with a percent sign and stand for values: `%s` for any
value, `%d` and its kin for integers, `%f`, `%e` and `%g` for numbers.
-/

namespace Converge.Template.Value

/-- What a directive says besides its letter. -/
structure Directive where
  left : Bool
  plus : Bool
  space : Bool
  zero : Bool
  mark : Bool
  width : Nat
  places : Option Nat
  /-- The name of the value, for a value given by name. -/
  name : Option String

namespace Directive

/-- The directive that says nothing. -/
def plain : Directive := ⟨false, false, false, false, false, 0, .none, .none⟩

/-- Reads the switches in front of a width. -/
def switches (d : Directive) : List Char → Directive × List Char
  | '-' :: rest => switches { d with left := true } rest
  | '+' :: rest => switches { d with plus := true } rest
  | ' ' :: rest => switches { d with space := true } rest
  | '0' :: rest => switches { d with zero := true } rest
  | '#' :: rest => switches { d with mark := true } rest
  | rest => (d, rest)

/-- Reads the name between parentheses. -/
def named (d : Directive) : List Char → Directive × List Char
  | '(' :: rest =>
    match Text.splitAt? [')'] rest with
    | some (name, rest) => ({ d with name := some (String.ofList name) }, rest)
    | Option.none => (d, '(' :: rest)
  | rest => (d, rest)

/-- Reads a directive behind its percent sign, up to its letter. -/
def read (cs : List Char) : Directive × List Char :=
  let (d, rest) := plain.named cs
  let (d, rest) := d.switches rest
  let (width, rest) := Numeral.spanDigits rest
  let d := { d with width := Numeral.valueOf width }
  match rest with
  | '.' :: rest =>
    let (places, rest) := Numeral.spanDigits rest
    ({ d with places := some (Numeral.valueOf places) }, rest)
  | rest => (d, rest)

/-- A text filled up with blanks to the width. -/
def pad (d : Directive) (cs : List Char) : List Char :=
  let blanks := List.replicate (d.width - cs.length) ' '
  if d.left then cs ++ blanks else blanks ++ cs

/-- A number's sign and digits, filled up to the width. -/
def padNumber (d : Directive) (negative : Bool) (lead digits : List Char) : List Char :=
  let sign := if negative then ['-'] else if d.plus then ['+'] else if d.space then [' '] else []
  let head := sign ++ lead
  if d.zero && !d.left then
    head ++ List.replicate (d.width - head.length - digits.length) '0' ++ digits
  else d.pad (head ++ digits)

end Directive

/-- The integer that a directive writes. -/
def directiveInt (v : Value) : Except Fault Int :=
  match v with
  | float x => if x.isFinite then .ok x.truncate else .error .invalidOperation
  | v => match v.toInt? with
    | some i => .ok i
    | Option.none => .error .invalidOperation

/-- The digits of an integer in some base, at least as many as asked for. -/
def baseDigits (base : Nat) (places : Option Nat) (n : Nat) : List Char :=
  let ds := Nat.toDigits base n
  List.replicate ((places.getD 0) - ds.length) '0' ++ ds

/-- The digits of a finite float with a fixed count of places, a half going to the even digit. -/
def fixedDigits (places : Nat) (x : Binary64) : List Char :=
  let (a, b) := x.magnitude
  let scaled := Nat.toDigits 10 (Binary64.roundHalfEven (a * Nat.pow 10 places) b)
  let scaled := List.replicate (places + 1 - scaled.length) '0' ++ scaled
  let whole := scaled.take (scaled.length - places)
  if places = 0 then whole else whole ++ '.' :: scaled.drop (scaled.length - places)

/-- The `places + 1` leading digits and the decimal exponent of a finite float, a half going to the
even digit. -/
def leadingDigits (places : Nat) (x : Binary64) : List Char × Int :=
  let (a, b) := x.magnitude
  if a = 0 then (List.replicate (places + 1) '0', 0)
  else
    let e := Binary64.pointOf a b - 1
    let scale := (places : Int) - e
    let n := Binary64.roundHalfEven (a * Nat.pow 10 scale.toNat) (b * Nat.pow 10 (-scale).toNat)
    if n = Nat.pow 10 (places + 1) then (Nat.toDigits 10 (n / 10), e + 1)
    else (Nat.toDigits 10 n, e)

/-- Digits with a point behind the first of them. -/
def pointed : List Char → List Char
  | d :: more@(_ :: _) => d :: '.' :: more
  | ds => ds

/-- A decimal exponent: its sign and at least two digits. -/
def exponentDigits (e : Int) : List Char :=
  'e' :: (if e < 0 then '-' else '+') :: baseDigits 10 (some 2) e.natAbs

/-- A fraction without the zeros at its end, and without its point when nothing is left. -/
def withoutZeros (cs : List Char) : List Char :=
  if cs.contains '.' then
    let kept := (cs.reverse.dropWhile (· == '0')).reverse
    if kept.getLast? == some '.' then kept.dropLast else kept
  else cs

/-- The digits of a finite float with one of them before the point, and an exponent. -/
def scientificDigits (places : Nat) (x : Binary64) : List Char :=
  let (ds, e) := leadingDigits places x
  pointed ds ++ exponentDigits e

/-- The digits of a finite float with a count of leading digits: positional for exponents from -4
up to that count, and without zeros at the end unless they are `kept`. -/
def generalDigits (count : Nat) (kept : Bool) (x : Binary64) : List Char :=
  let count := max count 1
  let trim := if kept then id else withoutZeros
  let (ds, e) := leadingDigits (count - 1) x
  if -4 ≤ e && e < count then trim (fixedDigits ((count : Int) - 1 - e).toNat x)
  else trim (pointed ds) ++ exponentDigits e

/-- A value as a directive writes it. -/
def formatted (d : Directive) (letter : Char) (v : Value) : Except Fault (List Char) := do
  let whole (base : Nat) (lead : String) (upper : Bool) : Except Fault (List Char) := do
    let i ← directiveInt v
    let ds := baseDigits base d.places i.natAbs
    let ds := if upper then ds.map Char.toUpper else ds
    return d.padNumber (i < 0) (if d.mark then lead.toList else []) ds
  let floating (digits : Binary64 → List Char) (upper : Bool) : Except Fault (List Char) := do
    let some x := v.asFloat? true | throw .invalidOperation
    if x.isFinite then
      return d.padNumber x.isNegative [] ((digits x).map fun c => if upper then c.toUpper else c)
    else return d.pad v.printed.toList
  match letter with
  | 's' =>
    let cs := v.printed.toList
    return d.pad (match d.places with
      | some n => cs.take n
      | Option.none => cs)
  | 'r' => return d.pad v.inner.toList
  | 'c' =>
    match v with
    | text s _ => if s.length = 1 then return d.pad s.toList else throw .invalidOperation
    | v => return d.pad [Char.ofNat (← directiveInt v).toNat]
  | 'd' | 'i' | 'u' => whole 10 "" false
  | 'x' => whole 16 "0x" false
  | 'X' => whole 16 "0X" true
  | 'o' => whole 8 "0o" false
  | 'f' | 'F' => floating (fixedDigits (d.places.getD 6)) false
  | 'e' => floating (scientificDigits (d.places.getD 6)) false
  | 'E' => floating (scientificDigits (d.places.getD 6)) true
  | 'g' => floating (generalDigits (d.places.getD 6) d.mark) false
  | 'G' => floating (generalDigits (d.places.getD 6) d.mark) true
  | _ => throw .invalidOperation

/-- A format text with its directives replaced; `fuel` is at least its length. -/
def formatFrom (byName : List (Value × Value)) :
    (fuel : Nat) → (args : List Value) → List Char → Except Fault (List Char)
  | _, args, [] => Arguments.finish args []
  | 0, _, _ => .ok []
  | fuel + 1, args, '%' :: '%' :: rest => do
    let more ← formatFrom byName fuel args rest
    return '%' :: more
  | fuel + 1, args, '%' :: rest => do
    let (d, rest) := Directive.read rest
    match rest with
    | [] => throw .invalidOperation
    | letter :: rest =>
      let (v, args) ← match d.name, args with
        | some name, args => match Arguments.byName? byName name with
          | some v => pure (v, args)
          | Option.none => throw Fault.missingArgument
        | Option.none, v :: args => pure (v, args)
        | Option.none, [] => throw Fault.missingArgument
      let front ← formatted d letter v
      let more ← formatFrom byName fuel args rest
      return front ++ more
  | fuel + 1, args, c :: rest => do
    let more ← formatFrom byName fuel args rest
    return c :: more

/-- The filter `format`. -/
def formatFilter (strict : Bool) (v : Value) (args : List Value) : Except Fault Value := do
  let s ← Arguments.textOf strict (some v)
  let (places, byName) := Arguments.split args
  let cs ← formatFrom byName s.length places s.toList
  return ofText (String.ofList cs)

end Converge.Template.Value
