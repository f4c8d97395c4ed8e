import Converge.Decimal.Numeral
import Converge.Template.Fault
import Converge.Text.Blank
import Converge.Text.Find

/-!
# Tokens of templates

A template is text with expressions between `{{` and `}}`, statements between `{%` and `%}`, and
comments between `{#` and `#}`. A dash beside a marker removes the blanks on its
other side. Inside an expression a closing marker counts only where all brackets are closed.
-/

namespace Converge.Template

/-- Operators and punctuation. -/
inductive Symbol where
  | plus | minus | times | slash | slashes | percent | power | tilde | pipe
  | dot | comma | colon | assign | eq | ne | lt | le | gt | ge
  | parenOpen | parenClose | bracketOpen | bracketClose | braceOpen | braceClose
deriving DecidableEq

/-- A token. Text that is no token stands in the sequence as a fault. -/
inductive Token where
  | data (s : String)
  | openVariable
  | closeVariable
  | openBlock
  | closeBlock
  | name (s : String)
  | text (s : String)
  | int (n : Nat)
  | float (x : Binary64)
  | symbol (s : Symbol)
  | fault (f : Fault)

namespace Token

/-- Letters and the underscore. -/
def isNameStart (c : Char) : Bool := c.isAlpha || c = '_'

/-- Letters, digits and the underscore. -/
def isNamePart (c : Char) : Bool := c.isAlphanum || c = '_'

/-- Blanks between tokens. -/
def isSpace (c : Char) : Bool := c = ' ' || c = '\n' || c = '\t' || c = '\r' || c = '\x0c'

/-! ### Texts -/

/-- The raw characters of a quoted text up to its closing quote, and what follows. -/
def spanQuoted (quote : Char) : List Char → Option (List Char × List Char)
  | [] => none
  | '\\' :: c :: rest => (spanQuoted quote rest).map fun (raw, rest) => ('\\' :: c :: raw, rest)
  | c :: rest =>
    if c = quote then some ([], rest)
    else (spanQuoted quote rest).map fun (raw, rest) => (c :: raw, rest)

/-- The character of a one-letter escape. -/
def escaped? : Char → Option Char
  | '"' => some '"'
  | '\\' => some '\\'
  | '/' => some '/'
  | '\'' => some '\''
  | 'b' => some '\x08'
  | 'f' => some '\x0c'
  | 'n' => some '\n'
  | 'r' => some '\r'
  | 't' => some '\t'
  | _ => none

/-- The digits of some base in front, at most so many, and the rest. -/
def spanBase (base : Nat) : (limit : Nat) → List Char → List Char × List Char
  | limit + 1, c :: cs =>
    if (Numeral.digitValue? base c).isSome then
      let (ds, rest) := spanBase base limit cs
      (c :: ds, rest)
    else ([], c :: cs)
  | _, cs => ([], cs)

/-- The number that hexadecimal digits write, perhaps after a plus sign. -/
def hexNumber? : List Char → Option Nat
  | '+' :: ds => Numeral.readNat? 16 ds
  | ds => Numeral.readNat? 16 ds

/-- Resolves escapes: letters, hexadecimal and octal codes. A backslash before any other character
stands for itself. `high` is the first half of a surrogate pair just read; `fuel` bounds the
steps. -/
def unescape : (fuel : Nat) → (high : Option Nat) → List Char → Option (List Char)
  | 0, _, _ => none
  | _ + 1, high, [] => if high.isNone then some [] else none
  | fuel + 1, high, '\\' :: 'u' :: rest =>
    if rest.length < 4 then none
    else match hexNumber? (rest.take 4), high with
    | none, _ => none
    | some n, some h =>
      if 0xDC00 ≤ n && n ≤ 0xDFFF && h < 0xDC00 then
        (unescape fuel none (rest.drop 4)).map
          (Char.ofNat (0x10000 + (h - 0xD800) * 0x400 + (n - 0xDC00)) :: ·)
      else none
    | some n, none =>
      if 0xD800 ≤ n && n ≤ 0xDFFF then unescape fuel (some n) (rest.drop 4)
      else (unescape fuel none (rest.drop 4)).map (Char.ofNat n :: ·)
  | fuel + 1, high, '\\' :: 'x' :: rest =>
    if high.isSome || rest.length < 2 then none
    else (hexNumber? (rest.take 2)).bind fun n =>
      (unescape fuel none (rest.drop 2)).map (Char.ofNat n :: ·)
  | fuel + 1, high, '\\' :: e :: rest =>
    if high.isSome then none
    else match escaped? e with
    | some c => (unescape fuel none rest).map (c :: ·)
    | none =>
      let (ds, more) := spanBase 8 3 (e :: rest)
      match Numeral.readNat? 8 ds with
      | some n => if n < 256 then (unescape fuel none more).map (Char.ofNat n :: ·) else none
      | none => (unescape fuel none rest).map ('\\' :: e :: ·)
  | fuel + 1, high, c :: rest =>
    if high.isSome || c = '\\' then none else (unescape fuel none rest).map (c :: ·)

/-- The token of a quoted text after its opening quote. -/
def quotedText (quote : Char) (cs : List Char) : Token × List Char :=
  match spanQuoted quote cs with
  | none => (.fault .syntaxError, [])
  | some (raw, rest) =>
    match unescape (raw.length + 1) none raw with
    | some s => (.text (String.ofList s), rest)
    | none => (.fault .badEscape, rest)

/-! ### Numbers -/

/-- Where in a decimal numeral the reader is. -/
inductive NumberPart where
  | whole
  | fraction
  | exponent
  | exponentDigits
deriving DecidableEq

/-- The part after a further character, when it still belongs to the numeral. -/
def NumberPart.step? (part : NumberPart) (c : Char) : Option NumberPart :=
  match c, part with
  | '.', .whole => some .fraction
  | 'e', .whole | 'E', .whole | 'e', .fraction | 'E', .fraction => some .exponent
  | '+', .exponent | '-', .exponent => some .exponentDigits
  | '_', part => some part
  | c, part =>
    if Numeral.isDigit c then some (if part = .exponent then .exponentDigits else part) else none

/-- Whether a point before these characters belongs to a numeral: a name behind it would be a name
to look up, unless it is an exponent. -/
def pointBelongs : List Char → Bool
  | c :: d :: _ =>
    if c = 'e' || c = 'E' then Numeral.isDigit d || d = '+' || d = '-' else !isNameStart c
  | [c] => !isNameStart c
  | [] => true

/-- The characters of a decimal numeral, the part it ends in, and the rest. -/
def spanNumber (part : NumberPart) : List Char → List Char × NumberPart × List Char
  | [] => ([], part, [])
  | c :: cs =>
    match part.step? c with
    | some next =>
      if c = '.' && !pointBelongs cs then ([], part, c :: cs)
      else let (ds, last, rest) := spanNumber next cs; (c :: ds, last, rest)
    | none => ([], part, c :: cs)

/-- The digits in front that a radix literal takes, and the rest. -/
def spanRadix (base : Nat) (cs : List Char) : List Char × List Char :=
  let part (c : Char) : Bool :=
    c = '_' || Numeral.isDigit c || (base = 16 && (Numeral.digitValue? 16 c).isSome)
  (cs.takeWhile part, cs.dropWhile part)

/-- Takes out the underscores of a numeral, which may not end with one. -/
def withoutUnderscores (ds : List Char) : Option (List Char) :=
  if ds.getLast? = some '_' then none else some (ds.filter (· ≠ '_'))

/-- The greatest integer that can be written. -/
def maxInteger : Nat := 340282366920938463463374607431768211455

/-- The integer token of some digits. -/
def integerToken (base : Nat) (ds : List Char) : Token :=
  match (withoutUnderscores ds).bind (Numeral.readNat? base) with
  | some n => if n ≤ maxInteger then .int n else .fault .syntaxError
  | none => .fault .syntaxError

/-- The token of a numeral that begins with a digit. -/
def number (cs : List Char) : Token × List Char :=
  let radix (base : Nat) (rest : List Char) : Token × List Char :=
    let (ds, rest) := spanRadix base rest
    (integerToken base ds, rest)
  match cs with
  | '0' :: 'b' :: rest => radix 2 rest
  | '0' :: 'B' :: rest => radix 2 rest
  | '0' :: 'o' :: rest => radix 8 rest
  | '0' :: 'O' :: rest => radix 8 rest
  | '0' :: 'x' :: rest => radix 16 rest
  | '0' :: 'X' :: rest => radix 16 rest
  | cs =>
    let (ds, last, rest) := spanNumber .whole cs
    if last = .whole then (integerToken 10 ds, rest)
    else match (withoutUnderscores ds).bind Numeral.readFloat? with
      | some x => (.float x, rest)
      | none => (.fault .syntaxError, rest)

/-! ### One token -/

/-- The token at the front of a text that is neither empty nor blank in front. -/
def first : List Char → Token × List Char
  | '/' :: '/' :: rest => (.symbol .slashes, rest)
  | '*' :: '*' :: rest => (.symbol .power, rest)
  | '=' :: '=' :: rest => (.symbol .eq, rest)
  | '!' :: '=' :: rest => (.symbol .ne, rest)
  | '>' :: '=' :: rest => (.symbol .ge, rest)
  | '<' :: '=' :: rest => (.symbol .le, rest)
  | '+' :: rest => (.symbol .plus, rest)
  | '-' :: rest => (.symbol .minus, rest)
  | '*' :: rest => (.symbol .times, rest)
  | '/' :: rest => (.symbol .slash, rest)
  | '%' :: rest => (.symbol .percent, rest)
  | '~' :: rest => (.symbol .tilde, rest)
  | '|' :: rest => (.symbol .pipe, rest)
  | '.' :: rest => (.symbol .dot, rest)
  | ',' :: rest => (.symbol .comma, rest)
  | ':' :: rest => (.symbol .colon, rest)
  | '=' :: rest => (.symbol .assign, rest)
  | '>' :: rest => (.symbol .gt, rest)
  | '<' :: rest => (.symbol .lt, rest)
  | '(' :: rest => (.symbol .parenOpen, rest)
  | ')' :: rest => (.symbol .parenClose, rest)
  | '[' :: rest => (.symbol .bracketOpen, rest)
  | ']' :: rest => (.symbol .bracketClose, rest)
  | '\x7b' :: rest => (.symbol .braceOpen, rest)
  | '\x7d' :: rest => (.symbol .braceClose, rest)
  | '\'' :: rest => quotedText '\'' rest
  | '"' :: rest => quotedText '"' rest
  | c :: rest =>
    if Numeral.isDigit c then number (c :: rest)
    else if isNameStart c then
      (.name (String.ofList (c :: rest.takeWhile isNamePart)), rest.dropWhile isNamePart)
    else (.fault .syntaxError, [])
  | [] => (.fault .syntaxError, [])

/-- The count of open brackets after a token. -/
def depthAfter (depth : Nat) : Token → Nat
  | .symbol .parenOpen | .symbol .bracketOpen | .symbol .braceOpen => depth + 1
  | .symbol .parenClose | .symbol .bracketClose | .symbol .braceClose => depth - 1
  | _ => depth

/-! ### Markers -/

/-- The text before the next opening marker, and the text from it on. -/
def beforeMarker : List Char → List Char × List Char
  | [] => ([], [])
  | '\x7b' :: '\x7b' :: rest => ([], '\x7b' :: '\x7b' :: rest)
  | '\x7b' :: '%' :: rest => ([], '\x7b' :: '%' :: rest)
  | '\x7b' :: '#' :: rest => ([], '\x7b' :: '#' :: rest)
  | c :: rest => let (lead, rest) := beforeMarker rest; (c :: lead, rest)

/-- Whether a dash stands in front, and the text after a dash or plus. -/
def control : List Char → Bool × List Char
  | '-' :: rest => (true, rest)
  | '+' :: rest => (false, rest)
  | rest => (false, rest)

/-- What follows a statement that is one keyword, from behind its opening marker: whether the
statement ends with a dash, and the rest. -/
def keywordBlock? (keyword : String) (cs : List Char) : Option (Bool × List Char) :=
  (Text.after? keyword.toList (cs.dropWhile isSpace)).bind fun rest =>
    let (dash, rest) := control (rest.dropWhile isSpace)
    (Text.after? ['%', '\x7d'] rest).map fun rest => (dash, rest)

/-- The text up to the statement that ends a raw section: the text, whether a dash stands at either
side of the statement, and the rest. -/
def rawText? : List Char → Option (List Char × Bool × Bool × List Char)
  | [] => none
  | c :: cs =>
    let ends := match c, cs with
      | '\x7b', '%' :: rest =>
        let (dash, rest) := control rest
        (keywordBlock? "endraw" rest).map fun (after, rest) => (dash, after, rest)
      | _, _ => none
    match ends with
    | some (before, after, rest) => some ([], before, after, rest)
    | none => (rawText? cs).map fun (raw, more) => (c :: raw, more)

/-- What a scan is inside of. -/
inductive Region where
  /-- Literal text; the blanks in front are dropped when the flag is set. -/
  | outside (trim : Bool)
  | inVariable
  | inBlock
deriving DecidableEq

/-- The token of literal text, when there is any. -/
def dataTokens (cs : List Char) : List Token :=
  if cs.isEmpty then [] else [.data (String.ofList cs)]

/-- The tokens of a text, of which `depth` brackets are open; `fuel` bounds their number. -/
def scan : (fuel : Nat) → Region → (depth : Nat) → List Char → List Token
  | 0, _, _, _ => []
  | fuel + 1, .outside trim, _, cs =>
    let (lead, rest) := beforeMarker (if trim then Text.trimStart cs else cs)
    let leading (dash : Bool) : List Token := dataTokens (if dash then Text.trimEnd lead else lead)
    match rest with
    | '\x7b' :: '\x7b' :: rest =>
      let (dash, rest) := control rest
      leading dash ++ .openVariable :: scan fuel .inVariable 0 rest
    | '\x7b' :: '%' :: rest =>
      let (dash, rest) := control rest
      match keywordBlock? "raw" rest with
      | some (dashAfter, rest) =>
        leading dash ++
          match rawText? rest with
          | some (raw, before, after, rest) =>
            let raw := if dashAfter then Text.trimStart raw else raw
            dataTokens (if before then Text.trimEnd raw else raw) ++
              scan fuel (.outside after) 0 rest
          | none => [.fault .syntaxError]
      | none => leading dash ++ .openBlock :: scan fuel .inBlock 0 rest
    | '\x7b' :: '#' :: rest =>
      let (dash, _) := control rest
      leading dash ++
        match Text.splitAt? ['#', '\x7d'] rest with
        | some (comment, rest) => scan fuel (.outside (comment.getLast? = some '-')) 0 rest
        | none => [.fault .syntaxError]
    | _ => dataTokens lead
  | fuel + 1, region, depth, cs =>
    match cs.dropWhile isSpace, region, depth with
    | [], _, _ => []
    | '-' :: '\x7d' :: '\x7d' :: rest, .inVariable, 0 =>
      .closeVariable :: scan fuel (.outside true) 0 rest
    | '+' :: '\x7d' :: '\x7d' :: rest, .inVariable, 0 =>
      .closeVariable :: scan fuel (.outside false) 0 rest
    | '\x7d' :: '\x7d' :: rest, .inVariable, 0 =>
      .closeVariable :: scan fuel (.outside false) 0 rest
    | '-' :: '%' :: '\x7d' :: rest, .inBlock, 0 => .closeBlock :: scan fuel (.outside true) 0 rest
    | '+' :: '%' :: '\x7d' :: rest, .inBlock, 0 => .closeBlock :: scan fuel (.outside false) 0 rest
    | '%' :: '\x7d' :: rest, .inBlock, 0 => .closeBlock :: scan fuel (.outside false) 0 rest
    | cs, _, _ =>
      let (token, rest) := first cs
      token :: scan fuel region (depthAfter depth token) rest

/-- A template's text without the line end behind it. -/
def withoutLineEnd (cs : List Char) : List Char :=
  let cs := (Text.before? ['\n'] cs).getD cs
  (Text.before? ['\r'] cs).getD cs

/-- The tokens of a template. -/
def ofTemplate (s : String) : List Token :=
  let cs := withoutLineEnd s.toList
  scan (2 * cs.length + 2) (.outside false) 0 cs

/-- The tokens of a text that is one expression. -/
def ofExpression (cs : List Char) : List Token := scan (cs.length + 1) .inVariable 0 cs

end Token

end Converge.Template
