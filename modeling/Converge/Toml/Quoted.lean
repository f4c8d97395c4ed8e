import Converge.Decimal.Numeral

/-!
# Quoted texts in TOML

Texts between double quotes have escapes, texts between single quotes have none. Three quotes make a
text of several lines, which may hold one or two quotes in a row and begins behind a line end right
after its quotes.
-/

namespace Converge.Toml

/-- Characters that may stand in a text as they are. -/
def isPlain (c : Char) : Bool := c = '\t' || (32 ≤ c.toNat && c.toNat ≠ 127)

/-- Takes a character by its code in so many hexadecimal digits. -/
def codeChar? : (count : Nat) → (acc : Nat) → List Char → Option (Char × List Char)
  | 0, acc, cs => if h : acc.isValidChar then some (Char.ofNatAux acc h, cs) else none
  | _ + 1, _, [] => none
  | count + 1, acc, c :: cs =>
    (Numeral.digitValue? 16 c).bind fun d => codeChar? count (16 * acc + d) cs

/-- Takes the character of an escape behind its backslash. -/
def escaped? : List Char → Option (Char × List Char)
  | [] => none
  | c :: cs =>
    match c with
    | 'b' => some ('\x08', cs)
    | 't' => some ('\t', cs)
    | 'n' => some ('\n', cs)
    | 'f' => some ('\x0c', cs)
    | 'r' => some ('\r', cs)
    | 'e' => some ('\x1b', cs)
    | '"' => some ('"', cs)
    | '\\' => some ('\\', cs)
    | 'x' => codeChar? 2 0 cs
    | 'u' => codeChar? 4 0 cs
    | 'U' => codeChar? 8 0 cs
    | _ => none

/-- What may be part of a text, behind what was read before. -/
abbrev Read := Option (List Char × List Char)

/-- A reading with a character in front. -/
def Read.cons (c : Char) (r : Read) : Read := r.map fun (cs, rest) => (c :: cs, rest)

/-- Reads a text of one line behind its double quote; `fuel` bounds its length. -/
def basic? : (fuel : Nat) → List Char → Read
  | 0, _ => none
  | _, [] => none
  | fuel + 1, c :: cs =>
    if c = '"' then some ([], cs)
    else if c = '\\' then (escaped? cs).bind fun (d, rest) => Read.cons d (basic? fuel rest)
    else if isPlain c then Read.cons c (basic? fuel cs)
    else none

/-- Reads a text of one line behind its single quote. -/
def literal? : List Char → Read
  | [] => none
  | c :: cs =>
    if c = '\'' then some ([], cs)
    else if isPlain c then Read.cons c (literal? cs)
    else none

/-- Drops blanks and line ends. -/
def dropSpace : List Char → List Char
  | '\r' :: '\n' :: cs => dropSpace cs
  | c :: cs => if c = ' ' || c = '\t' || c = '\n' then dropSpace cs else c :: cs
  | [] => []

/-- What follows when nothing but blanks stand before a line end. -/
def afterLineEnd? (cs : List Char) : Option (List Char) :=
  match cs.dropWhile fun c => c = ' ' || c = '\t' with
  | '\n' :: rest => some rest
  | '\r' :: '\n' :: rest => some rest
  | _ => none

/-- What follows the closing quotes, and the quotes before them that are part of the text. -/
def closing? (q : Char) (cs : List Char) : Option (List Char × List Char) :=
  let count := (cs.takeWhile (· = q)).length
  if 3 ≤ count then
    let inner := min (count - 3) 2
    some (List.replicate inner q, cs.drop (inner + 3))
  else none

/-- Reads a text of several lines behind its quotes; `fuel` bounds its length. A backslash at the
end of a line drops all blanks and line ends behind it. -/
def multiline? (q : Char) : (fuel : Nat) → List Char → Read
  | 0, _ => none
  | _, [] => none
  | fuel + 1, c :: cs =>
    match closing? q (c :: cs) with
    | some found => some found
    | none =>
      if c = '\\' && q = '"' then
        match afterLineEnd? cs with
        | some rest => multiline? q fuel (dropSpace rest)
        | none => (escaped? cs).bind fun (d, rest) => Read.cons d (multiline? q fuel rest)
      else if c = '\r' then
        match cs with
        | '\n' :: rest => Read.cons '\n' (multiline? q fuel rest)
        | _ => none
      else if c = '\n' || isPlain c then Read.cons c (multiline? q fuel cs)
      else none

/-- Drops a line end in front. -/
def dropLineEnd : List Char → List Char
  | '\n' :: cs => cs
  | '\r' :: '\n' :: cs => cs
  | cs => cs

/-- Reads a text of one line with its quotes. -/
def quotedLine? : List Char → Read
  | '"' :: cs => basic? (cs.length + 1) cs
  | '\'' :: cs => literal? cs
  | _ => none

/-- Reads a text with its quotes. -/
def quoted? : List Char → Read
  | '"' :: '"' :: '"' :: cs => multiline? '"' (cs.length + 1) (dropLineEnd cs)
  | '\'' :: '\'' :: '\'' :: cs => multiline? '\'' (cs.length + 1) (dropLineEnd cs)
  | cs => quotedLine? cs

end Converge.Toml
