import Converge.Toml.Item

/-!
# Numbers and moments in TOML

The values that are written without quotes: truth values, integers in four bases, floats, dates and
times. Digits may be separated by single underscores.
-/

namespace Converge.Toml

/-! ### Numbers -/

/-- Drops the underscores of a run of digits; `after` tells whether a digit stands right before. -/
def plainDigits? (base : Nat) : (after : Bool) → List Char → Option (List Char)
  | after, [] => if after then some [] else none
  | after, c :: rest =>
    if c = '_' then if after then plainDigits? base false rest else none
    else if (Numeral.digitValue? base c).isSome then (plainDigits? base true rest).map (c :: ·)
    else none

/-- The digits of a whole number, which begin with a zero only where they are one zero. -/
def wholeDigits? (cs : List Char) : Option (List Char) :=
  (plainDigits? 10 false cs).filter fun ds => ds.head? ≠ some '0' || ds.length = 1

/-- Takes a sign. -/
def takeSign : List Char → Bool × List Char
  | '-' :: cs => (true, cs)
  | '+' :: cs => (false, cs)
  | cs => (false, cs)

/-- A number in digits of a base. -/
def basedInt? (base : Nat) (cs : List Char) : Option Item :=
  (plainDigits? base false cs).map fun ds => .int ((Numeral.readNat? base ds).getD 0 : Nat)

/-- An integer. -/
def int? : List Char → Option Item
  | '0' :: 'x' :: cs => basedInt? 16 cs
  | '0' :: 'o' :: cs => basedInt? 8 cs
  | '0' :: 'b' :: cs => basedInt? 2 cs
  | cs =>
    let (negative, cs) := takeSign cs
    (wholeDigits? cs).map fun ds =>
      let n : Int := (Numeral.valueOf ds : Nat)
      .int (if negative then -n else n)

/-- The exponent of a float, with its mark. -/
def exponent? : List Char → Option Int
  | [] => some 0
  | _ :: cs =>
    let (negative, cs) := takeSign cs
    (plainDigits? 10 false cs).map fun ds =>
      let n : Int := (Numeral.valueOf ds : Nat)
      if negative then -n else n

/-- The digits of a fraction, with its point. -/
def fraction? : List Char → Option (List Char)
  | [] => some []
  | _ :: cs => plainDigits? 10 false cs

/-- A float; one that is too large is none. -/
def float? (cs : List Char) : Option Item :=
  let (negative, cs) := takeSign cs
  if cs = "inf".toList then some (.float (.infinity negative))
  else if cs = "nan".toList then some (.float .nan)
  else
    let isMark (c : Char) : Bool := c = 'e' || c = 'E'
    let significand := cs.takeWhile fun c => !isMark c
    (wholeDigits? (significand.takeWhile (· ≠ '.'))).bind fun whole =>
      (fraction? (significand.dropWhile (· ≠ '.'))).bind fun fraction =>
        (exponent? (cs.dropWhile fun c => !isMark c)).bind fun e =>
          let x := Binary64.ofDecimal negative (Numeral.valueOf (whole ++ fraction))
            (e - fraction.length)
          if x.isInfinite then none else some (.float x)

/-! ### Moments -/

/-- Takes a number of exactly so many digits. -/
def fixedNat? : (count : Nat) → (acc : Nat) → List Char → Option (Nat × List Char)
  | 0, acc, cs => some (acc, cs)
  | _ + 1, _, [] => none
  | count + 1, acc, c :: cs =>
    (Numeral.digitValue? 10 c).bind fun d => fixedNat? count (10 * acc + d) cs

/-- Takes one given character. -/
def expect (c : Char) : List Char → Option (List Char)
  | [] => none
  | d :: cs => if d = c then some cs else none

/-- The decimal digits of a number, with zeros in front up to a width. -/
def padded (width n : Nat) : String :=
  let ds := (Nat.repr n).toList
  String.ofList (List.replicate (width - ds.length) '0' ++ ds)

/-- The number of days in a month. -/
def daysIn (year month : Nat) : Nat :=
  let leap := year % 4 = 0 && (year % 100 ≠ 0 || year % 400 = 0)
  match month with
  | 2 => if leap then 29 else 28
  | 4 | 6 | 9 | 11 => 30
  | _ => 31

/-- Takes a date and gives its text. -/
def date? (cs : List Char) : Option (String × List Char) := do
  let (year, cs) ← fixedNat? 4 0 cs
  let cs ← expect '-' cs
  let (month, cs) ← fixedNat? 2 0 cs
  let cs ← expect '-' cs
  let (day, cs) ← fixedNat? 2 0 cs
  if 1 ≤ month && month ≤ 12 && 1 ≤ day && day ≤ daysIn year month then
    return (padded 4 year ++ "-" ++ padded 2 month ++ "-" ++ padded 2 day, cs)
  else none

/-- The digits of a second's fraction: nine at most, without zeros behind, and at least one. -/
def fractionText (ds : List Char) : String :=
  let kept := ((ds.take 9).reverse.dropWhile (· = '0')).reverse
  if kept.isEmpty then "0" else String.ofList kept

/-- Takes the seconds of a time, if there are any, and gives their text. -/
def seconds? : List Char → Option (String × List Char)
  | ':' :: cs => do
    let (second, cs) ← fixedNat? 2 0 cs
    if 60 < second then none
    else
      let text := ":" ++ padded 2 second
      match cs with
      | '.' :: cs =>
        let ds := cs.takeWhile Numeral.isDigit
        if ds.isEmpty then none
        else return (text ++ "." ++ fractionText ds, cs.dropWhile Numeral.isDigit)
      | cs => return (text, cs)
  | cs => some ("", cs)

/-- Takes a time and gives its text. -/
def time? (cs : List Char) : Option (String × List Char) := do
  let (hour, cs) ← fixedNat? 2 0 cs
  let cs ← expect ':' cs
  let (minute, cs) ← fixedNat? 2 0 cs
  if hour ≤ 23 && minute ≤ 59 then
    let (seconds, cs) ← seconds? cs
    return (padded 2 hour ++ ":" ++ padded 2 minute ++ seconds, cs)
  else none

/-- Takes the offset behind a date and time, if there is one, and gives its text. -/
def offset? (cs : List Char) : Option (String × List Char) :=
  let signed (negative : Bool) (cs : List Char) : Option (String × List Char) := do
    let (hours, cs) ← fixedNat? 2 0 cs
    let cs ← expect ':' cs
    let (minutes, cs) ← fixedNat? 2 0 cs
    if hours ≤ 23 && minutes ≤ 59 then
      let sign := if negative && 0 < hours + minutes then "-" else "+"
      return (sign ++ padded 2 hours ++ ":" ++ padded 2 minutes, cs)
    else none
  match cs with
  | 'Z' :: cs => some ("Z", cs)
  | 'z' :: cs => some ("Z", cs)
  | '+' :: cs => signed false cs
  | '-' :: cs => signed true cs
  | cs => some ("", cs)

/-- A date, a time, or both. -/
def moment? (cs : List Char) : Option Item := do
  match date? cs with
  | none =>
    let (time, rest) ← time? cs
    if rest.isEmpty then return .moment time else none
  | some (date, rest) =>
    match rest with
    | [] => return .moment date
    | c :: rest =>
      if c = 'T' || c = 't' || c = ' ' then
        let (time, rest) ← time? rest
        let (offset, rest) ← offset? rest
        if rest.isEmpty then return .moment (date ++ "T" ++ time ++ offset) else none
      else none

/-! ### Any of them -/

/-- Characters of values without quotes. -/
def isScalarPart (c : Char) : Bool :=
  c.isAlphanum || c = '_' || c = '+' || c = '-' || c = '.' || c = ':'

/-- The value that a run of characters writes. -/
def scalar? (cs : List Char) : Option Item :=
  if cs = "true".toList then some (.bool true)
  else if cs = "false".toList then some (.bool false)
  else ((int? cs).or (float? cs)).or (moment? cs)

/-- Whether a time follows a date behind a space. -/
def timeFollows (cs : List Char) : Bool :=
  match cs with
  | ' ' :: a :: b :: ':' :: _ => Numeral.isDigit a && Numeral.isDigit b
  | _ => false

/-- Takes a value without quotes. -/
def takeScalar? (cs : List Char) : Option (Item × List Char) :=
  let run := cs.takeWhile isScalarPart
  let rest := cs.dropWhile isScalarPart
  if (date? run).any (fun (_, more) => more.isEmpty) && timeFollows rest then
    let time := (rest.drop 1).takeWhile isScalarPart
    (scalar? (run ++ ' ' :: time)).map fun v => (v, (rest.drop 1).dropWhile isScalarPart)
  else (scalar? run).map fun v => (v, rest)

end Converge.Toml
