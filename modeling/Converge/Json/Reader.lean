import Converge.Json.Node

/-!
# Reading JSON

The reader accepts exactly the grammar of JSON: no comments, no trailing commas, no control
characters inside texts, nothing after the value but blanks.
-/

namespace Converge.Json

/-- Drops the blanks of JSON. -/
def skipBlank (cs : List Char) : List Char :=
  cs.dropWhile fun c => c = ' ' || c = '\n' || c = '\t' || c = '\r'

/-- The number of four hexadecimal digits. -/
def hex4? (a b c d : Char) : Option Nat := Numeral.readNat? 16 [a, b, c, d]

/-- The character that a one-letter escape stands for. -/
def shortEscape? : Char → Option Char
  | '"' => some '"'
  | '\\' => some '\\'
  | '/' => some '/'
  | 'b' => some '\x08'
  | 'f' => some '\x0c'
  | 'n' => some '\n'
  | 'r' => some '\r'
  | 't' => some '\t'
  | _ => none

/-- Reads a text after its opening quote. `high` is the first half of a surrogate pair just read,
`valid` whether all pairs so far are complete, `acc` the characters so far, last first. -/
def readText (high : Option Nat) (valid : Bool) (acc : List Char) :
    List Char → Option (Option String × List Char)
  | [] => none
  | '"' :: rest =>
    some (if valid && high.isNone then some (String.ofList acc.reverse) else none, rest)
  | '\\' :: 'u' :: a :: b :: c :: d :: rest =>
    match hex4? a b c d, high with
    | none, _ => none
    | some n, some h =>
      if 0xDC00 ≤ n && n ≤ 0xDFFF then
        readText none valid (Char.ofNat (0x10000 + (h - 0xD800) * 0x400 + (n - 0xDC00)) :: acc) rest
      else readText none false acc rest
    | some n, none =>
      if 0xD800 ≤ n && n ≤ 0xDBFF then readText (some n) valid acc rest
      else if 0xDC00 ≤ n && n ≤ 0xDFFF then readText none false acc rest
      else readText none valid (Char.ofNat n :: acc) rest
  | '\\' :: e :: rest =>
    match shortEscape? e with
    | some c => readText none (valid && high.isNone) (c :: acc) rest
    | none => none
  | c :: rest =>
    if c.toNat < 0x20 then none else readText none (valid && high.isNone) (c :: acc) rest

/-- Reads the digits after an exponent mark. -/
def readExponent (cs : List Char) : Option (Option (Bool × List Char) × List Char) :=
  let (down, cs) := match cs with
    | '-' :: rest => (true, rest)
    | '+' :: rest => (false, rest)
    | rest => (false, rest)
  let (ds, rest) := Numeral.spanDigits cs
  if ds.isEmpty then none else some (some (down, ds), rest)

/-- Reads what may follow the whole digits of a numeral. -/
def readNumberTail (negative : Bool) (whole cs : List Char) : Option (Node × List Char) :=
  let fraction := match cs with
    | '.' :: rest =>
      let (ds, rest) := Numeral.spanDigits rest
      if ds.isEmpty then none else some (ds, rest)
    | rest => some ([], rest)
  fraction.bind fun (ds, rest) =>
    let exponent := match rest with
      | 'e' :: more => readExponent more
      | 'E' :: more => readExponent more
      | more => some (none, more)
    exponent.map fun (e, rest) => (.number ⟨negative, whole, ds, e⟩, rest)

/-- Reads an unsigned numeral: a zero in front stands alone. -/
def readNumber (negative : Bool) (cs : List Char) : Option (Node × List Char) :=
  let (whole, rest) := Numeral.spanDigits cs
  match whole with
  | [] => none
  | '0' :: _ :: _ => none
  | _ => readNumberTail negative whole rest

mutual

/-- Reads a value; `fuel` bounds the values and the lists and maps that are still to open. -/
def readValue : (fuel : Nat) → List Char → Option (Node × List Char)
  | 0, _ => none
  | fuel + 1, cs =>
    match skipBlank cs with
    | 'n' :: 'u' :: 'l' :: 'l' :: rest => some (.null, rest)
    | 't' :: 'r' :: 'u' :: 'e' :: rest => some (.bool true, rest)
    | 'f' :: 'a' :: 'l' :: 's' :: 'e' :: rest => some (.bool false, rest)
    | '"' :: rest => (readText none true [] rest).map fun (s, rest) => (.text s, rest)
    | '-' :: rest => readNumber true rest
    | '[' :: rest =>
      match skipBlank rest with
      | ']' :: rest => some (.list [], rest)
      | _ => (readItems fuel rest).map fun (vs, rest) => (.list vs, rest)
    | '\x7b' :: rest =>
      match skipBlank rest with
      | '\x7d' :: rest => some (.map [], rest)
      | _ => (readEntries fuel rest).map fun (es, rest) => (.map es, rest)
    | rest => readNumber false rest

/-- Reads one or more items and the closing bracket. -/
def readItems : (fuel : Nat) → List Char → Option (List Node × List Char)
  | 0, _ => none
  | fuel + 1, cs =>
    (readValue fuel cs).bind fun (v, rest) =>
      match skipBlank rest with
      | ',' :: rest => (readItems fuel rest).map fun (vs, rest) => (v :: vs, rest)
      | ']' :: rest => some ([v], rest)
      | _ => none

/-- Reads one or more entries and the closing brace. -/
def readEntries : (fuel : Nat) → List Char → Option (List (Option String × Node) × List Char)
  | 0, _ => none
  | fuel + 1, cs =>
    match skipBlank cs with
    | '"' :: rest =>
      (readText none true [] rest).bind fun (k, rest) =>
        match skipBlank rest with
        | ':' :: rest =>
          (readValue fuel rest).bind fun (v, rest) =>
            match skipBlank rest with
            | ',' :: rest => (readEntries fuel rest).map fun (es, rest) => ((k, v) :: es, rest)
            | '\x7d' :: rest => some ([(k, v)], rest)
            | _ => none
        | _ => none
    | _ => none

end

/-- The node that a whole text writes. -/
def readNode? (s : String) : Option Node :=
  let cs := s.toList
  (readValue (2 * cs.length + 2) cs).bind fun (v, rest) =>
    if (skipBlank rest).isEmpty then some v else none

/-- The tree that a whole text writes. -/
def read? (s : String) : Option Tree := (readNode? s).bind (Node.toTree? Node.nestingLimit)

end Converge.Json
