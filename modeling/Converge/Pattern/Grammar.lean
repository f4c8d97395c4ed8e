import Converge.Pattern.ClassName
import Converge.Pattern.Term

/-!
# Reading patterns

The grammar of patterns: alternatives between bars, repetitions behind what they repeat, groups with
names and flags, and sets of characters between brackets with set operations. There are neither
back-references nor conditions on what surrounds a match.
-/

namespace Converge.Pattern

open Text (CodeSet)

/-- Switches that change how the text after them is read. -/
structure Flags where
  ignoreCase : Bool
  multiLine : Bool
  dotAll : Bool
  swapGreed : Bool
  wide : Bool
  crlf : Bool
  verbose : Bool

/-- The switches at the start of a pattern. -/
def Flags.initial : Flags := ⟨false, false, false, false, true, false, false⟩

/-- What a reader keeps: the switches, and the names of groups, last first. -/
structure Setting where
  flags : Flags
  names : List String

namespace Grammar

/-! ### Characters -/

/-- Drops a comment up to the line end behind it. -/
def skipComment : List Char → List Char
  | [] => []
  | c :: cs => if c = '\n' then cs else skipComment cs

/-- Drops blanks and comments; `fuel` bounds their number. -/
def skipVerbose : (fuel : Nat) → List Char → List Char
  | fuel + 1, c :: cs =>
    if Text.isBlank c then skipVerbose fuel cs
    else if c = '#' then skipVerbose fuel (skipComment cs)
    else c :: cs
  | _, cs => cs

/-- Drops what the switches say is no part of the pattern. -/
def skip (f : Flags) (cs : List Char) : List Char :=
  if f.verbose then skipVerbose cs.length cs else cs

/-- Characters that mean something in a pattern. -/
def isMeta (c : Char) : Bool := "\\.+*?()|[]\x7b\x7d^$#&-~".toList.contains c

/-- Whether a character may be escaped to stand for itself. -/
def isEscapable (c : Char) : Bool :=
  isMeta c || (c.toNat < 0x80 && !c.isAlphanum && c ≠ '<' && c ≠ '>')

/-- What an escape stands for. -/
inductive Escape where
  /-- A character; a byte is one that is written by its two digits. -/
  | char (c : Char) (byte : Bool)
  | set (s : CodeSet)
  | anchor (a : Anchor)

/-- Takes exactly `n` hexadecimal digits. -/
def hexDigits (f : Flags) : (n : Nat) → (acc : Nat) → List Char → Option (Nat × List Char)
  | 0, acc, cs => some (acc, cs)
  | n + 1, acc, cs =>
    match skip f cs with
    | [] => none
    | c :: rest => (Numeral.digitValue? 16 c).bind fun d => hexDigits f n (16 * acc + d) rest

/-- Takes characters up to a closing brace; `fuel` bounds their number. -/
def braced (f : Flags) : (fuel : Nat) → List Char → Option (List Char × List Char)
  | 0, _ => none
  | fuel + 1, cs =>
    match skip f cs with
    | [] => none
    | '\x7d' :: rest => some ([], rest)
    | c :: rest => (braced f fuel rest).map fun (inner, rest) => (c :: inner, rest)

/-- The character of a code, unless it is no character. -/
def charOf? (n : Nat) : Option Char := if h : n.isValidChar then some (Char.ofNatAux n h) else none

/-- Reads a character by its code behind `x`, `u` or `U`. -/
def hexChar (f : Flags) (width : Nat) (cs : List Char) : Option (Escape × List Char) :=
  match skip f cs with
  | '\x7b' :: rest =>
    (braced f (rest.length + 1) rest).bind fun (ds, rest) =>
      (Numeral.readNat? 16 ds).bind fun n => (charOf? n).map fun c => (.char c false, rest)
  | rest =>
    (hexDigits f width 0 rest).bind fun (n, rest) =>
      (charOf? n).map fun c => (.char c (width = 2), rest)

/-- Reads the name of a class behind `p` or `P`. -/
def classEscape (f : Flags) (negated : Bool) (cs : List Char) : Option (Escape × List Char) :=
  let finish (s : CodeSet) (rest : List Char) : Option (Escape × List Char) :=
    let s := if f.ignoreCase then withCases s else s
    some (.set (if negated then s.complement else s), rest)
  if !f.wide then none
  else match skip f cs with
    | [] => none
    | '\\' :: _ => none
    | '\x7b' :: rest =>
      (braced f (rest.length + 1) rest).bind fun (query, rest) =>
        (setByQuery? query).bind fun s => finish s rest
    | c :: rest => (setByName? [c]).bind fun s => finish s rest

/-- Words, digits and blanks as sets. -/
def perlSet (f : Flags) (c : Char) : CodeSet :=
  match c with
  | 'd' => if f.wide then Text.decimalDigits else ⟨[(48, 57)]⟩
  | 's' => if f.wide then Text.blanks else ⟨[(9, 13), (32, 32)]⟩
  | _ => if f.wide then Text.wordCharacters else asciiWord

/-- Whether a character may be part of the name of a place. -/
def isPlacePart (c : Char) : Bool := c.isAlpha || c = '-'

/-- Takes the name of a place; `fuel` bounds its length. -/
def placeName (f : Flags) : (fuel : Nat) → List Char → List Char × List Char
  | fuel + 1, c :: cs =>
    if isPlacePart c then
      let (name, rest) := placeName f fuel (skip f cs)
      (c :: name, rest)
    else ([], c :: cs)
  | _, cs => ([], cs)

/-- Reads what may follow an escaped `b`: the name of a place between braces. A brace without the
beginning of a name is left as it is. -/
def boundary (f : Flags) (cs : List Char) : Option (Escape × List Char) :=
  let ascii := !f.wide
  match cs with
  | '\x7b' :: rest =>
    match skip f rest with
    | [] => none
    | c :: more =>
      if !isPlacePart c then some (.anchor (.boundary ascii), cs)
      else
        match placeName f (rest.length + 1) (c :: more) with
        | (name, '\x7d' :: rest) =>
          match String.ofList name with
          | "start" => some (.anchor (.wordStart ascii), rest)
          | "end" => some (.anchor (.wordStop ascii), rest)
          | "start-half" => some (.anchor (.halfStart ascii), rest)
          | "end-half" => some (.anchor (.halfStop ascii), rest)
          | _ => none
        | _ => none
  | cs => some (.anchor (.boundary ascii), cs)

/-- Reads an escape behind its backslash. -/
def escape (f : Flags) : List Char → Option (Escape × List Char)
  | [] => none
  | c :: cs =>
    match c with
    | 'x' => hexChar f 2 cs
    | 'u' => hexChar f 4 cs
    | 'U' => hexChar f 8 cs
    | 'p' => classEscape f false cs
    | 'P' => classEscape f true cs
    | 'd' | 's' | 'w' => some (.set (perlSet f c), cs)
    | 'D' | 'S' | 'W' =>
      if f.wide then some (.set (perlSet f (Numeral.lowerAscii c)).complement, cs) else none
    | 'a' => some (.char '\x07' false, cs)
    | 'f' => some (.char '\x0c' false, cs)
    | 't' => some (.char '\t' false, cs)
    | 'n' => some (.char '\n' false, cs)
    | 'r' => some (.char '\r' false, cs)
    | 'v' => some (.char '\x0b' false, cs)
    | 'A' => some (.anchor .start, cs)
    | 'z' => some (.anchor .stop, cs)
    | 'b' => boundary f cs
    | 'B' => some (.anchor (.noBoundary (!f.wide)), cs)
    | '<' => some (.anchor (.wordStart (!f.wide)), cs)
    | '>' => some (.anchor (.wordStop (!f.wide)), cs)
    | c => if isEscapable c then some (.char c false, cs) else none

/-- Adds the other cases of a set's members where case is ignored. -/
def cased (f : Flags) (s : CodeSet) : CodeSet :=
  if f.ignoreCase then if f.wide then withCases s else withAsciiCases s else s

/-- The term of one character. A byte above ASCII is no character outside wide matching. -/
def charTerm (f : Flags) (c : Char) (byte : Bool) : Option Term :=
  if byte && !f.wide && 0x80 ≤ c.toNat then none
  else some (.chars (cased f (.ofChars [c])))

/-- The term of an escape. -/
def escapeTerm (f : Flags) : Escape → Option Term
  | .char c byte => charTerm f c byte
  | .set s => some (.chars s)
  | .anchor a => some (.anchor a)

/-- The set that a dot matches. -/
def dotSet (f : Flags) : CodeSet :=
  if f.dotAll then .all
  else if f.crlf then (CodeSet.ofChars ['\n', '\r']).complement
  else (CodeSet.ofChars ['\n']).complement

/-- The place that a circumflex matches. -/
def startAnchor (f : Flags) : Anchor :=
  if f.multiLine then if f.crlf then .crlfStart else .lineStart else .start

/-- The place that a dollar sign matches. -/
def stopAnchor (f : Flags) : Anchor :=
  if f.multiLine then if f.crlf then .crlfStop else .lineStop else .stop

/-! ### Sets between brackets -/

/-- The operations between sets. -/
inductive SetOp where
  | inter
  | diff
  | symmDiff

/-- A set as far as it has been read, and how deep brackets and operations nest in it. -/
structure Nested where
  set : CodeSet
  depth : Nat

/-- Items in a row, as far as they have been read. -/
structure Items where
  set : CodeSet
  count : Nat
  /-- How deep the items nest. -/
  depth : Nat

/-- No items. -/
def Items.none : Items := ⟨.empty, 0, 0⟩

/-- The items with one more. -/
def Items.add (i : Items) (s : CodeSet) (depth : Nat) : Items :=
  ⟨i.set.union s, i.count + 1, max i.depth depth⟩

/-- The set of the items; several in a row nest deeper than one. -/
def Items.nested (i : Items) : Nested :=
  ⟨i.set, if i.count ≤ 1 then i.depth else i.depth + 1⟩

/-- The set of an operation whose left side is there already. -/
def combine (f : Flags) (pending : Option (Nested × SetOp)) (right : Nested) : Nested :=
  match pending with
  | none => right
  | some (left, op) =>
    let l := cased f left.set
    let r := cased f right.set
    let depth := max left.depth right.depth + 1
    match op with
    | .inter => ⟨l.inter r, depth⟩
    | .diff => ⟨l.diff r, depth⟩
    | .symmDiff => ⟨l.symmDiff r, depth⟩

/-- The set, unless it reaches beyond ASCII outside wide matching. -/
def narrowed (f : Flags) (s : CodeSet) : Option CodeSet :=
  if f.wide || s.ranges.all fun r => r.2 < 0x80 then some s else none

/-- Reads a class of ASCII behind its opening bracket. -/
def asciiItem (f : Flags) : List Char → Option (CodeSet × List Char)
  | ':' :: rest =>
    let (negated, rest) := match rest with
      | '^' :: more => (true, more)
      | more => (false, more)
    (Text.splitAt? [':'] rest).bind fun (name, rest) =>
      match rest with
      | ']' :: rest =>
        (asciiClass? (String.ofList name)).map fun s =>
          let s := cased f s
          (if negated then s.complement else s, rest)
      | _ => none
  | _ => none

/-- Reads one item of a set: a character, which is ASCII outside wide matching, or a set that an
escape stands for. -/
def setItem (f : Flags) (cs : List Char) : Option (Escape × List Char) :=
  let item := match cs with
    | '\\' :: rest => escape f rest
    | c :: rest => some (.char c false, rest)
    | [] => none
  item.filter fun (e, _) => match e with
    | .char c _ => f.wide || c.toNat < 0x80
    | _ => true

/-- The character that decides whether a dash in front of it makes a range: the next one that is no
blank, or the next one behind the sign of a comment. -/
def behindDash (f : Flags) (cs : List Char) : Option Char :=
  if f.verbose then
    match cs.dropWhile Text.isBlank with
    | '#' :: rest => (rest.dropWhile Text.isBlank).head?
    | rest => rest.head?
  else cs.head?

/-- Reads a character, a range or an escaped set. -/
def setRange (f : Flags) (cs : List Char) : Option (CodeSet × List Char) :=
  (setItem f cs).bind fun (item, rest) =>
    let rest := skip f rest
    let single : Option (CodeSet × List Char) :=
      match item with
      | .char c _ => some (.ofChars [c], rest)
      | .set s => some (s, rest)
      | .anchor _ => none
    match rest with
    | [] => none
    | '-' :: more =>
      if behindDash f more = some ']' || behindDash f more = some '-' then single
      else
        (setItem f (skip f more)).bind fun (last, rest) =>
          match item, last with
          | .char a _, .char b _ =>
            if a.toNat ≤ b.toNat then some (.ofRanges [(a.toNat, b.toNat)], rest) else none
          | _, _ => none
    | _ => single

/-- Reads the dashes that begin a set, or a bracket that does, as characters. -/
def setStart (f : Flags) : (fuel : Nat) → Items → List Char → Items × List Char
  | fuel + 1, items, cs =>
    match skip f cs with
    | '-' :: rest => setStart f fuel (items.add (.ofChars ['-']) 0) rest
    | ']' :: rest =>
      if items.count = 0 then (items.add (.ofChars [']']) 0, rest) else (items, ']' :: rest)
    | rest => (items, rest)
  | 0, items, cs => (items, cs)

/-- Reads whether a set is negated, and how it starts, behind its opening bracket. -/
def setOpening (f : Flags) (cs : List Char) : Bool × Items × List Char :=
  match skip f cs with
  | '^' :: rest => (true, setStart f (rest.length + 1) .none rest)
  | rest => (false, setStart f (rest.length + 1) .none rest)

/-- Reads a set behind its opening bracket; `fuel` bounds its items. -/
def setBody (f : Flags) : (fuel : Nat) → (pending : Option (Nested × SetOp)) → (sofar : Items) →
    List Char → Option (Nested × List Char)
  | 0, _, _, _ => none
  | fuel + 1, pending, sofar, cs =>
    let operation (op : SetOp) (rest : List Char) : Option (Nested × List Char) :=
      setBody f fuel (some (combine f pending sofar.nested, op)) .none rest
    match skip f cs with
    | [] => none
    | ']' :: rest => some (combine f pending sofar.nested, rest)
    | '&' :: '&' :: rest => operation .inter rest
    | '-' :: '-' :: rest => operation .diff rest
    | '~' :: '~' :: rest => operation .symmDiff rest
    | '[' :: rest =>
      match asciiItem f rest with
      | some (s, rest) =>
        (narrowed f s).bind fun s => setBody f fuel pending (sofar.add s 0) rest
      | none =>
        let (negated, begun, rest) := setOpening f rest
        (setBody f fuel none begun rest).bind fun (inner, rest) =>
          let s := cased f inner.set
          (narrowed f (if negated then s.complement else s)).bind fun s =>
            setBody f fuel pending (sofar.add s (inner.depth + 1)) rest
    | cs => (setRange f cs).bind fun (s, rest) => setBody f fuel pending (sofar.add s 0) rest

/-- Reads a set behind its opening bracket. -/
def bracketed (f : Flags) (cs : List Char) : Option (Nested × List Char) :=
  let (negated, begun, rest) := setOpening f cs
  (setBody f (rest.length + 1) none begun rest).bind fun (inner, rest) =>
    let s := cased f inner.set
    (narrowed f (if negated then s.complement else s)).map fun s => (⟨s, inner.depth + 1⟩, rest)

/-! ### Repetitions -/

/-- Takes digits; `fuel` bounds their number. -/
def digits (f : Flags) : (fuel : Nat) → List Char → List Char × List Char
  | fuel + 1, c :: cs =>
    if Numeral.isDigit c then
      let (ds, rest) := digits f fuel (skip f cs)
      (c :: ds, rest)
    else ([], c :: cs)
  | _, cs => ([], cs)

/-- Reads a decimal number with blanks around it. -/
def decimal? (f : Flags) (cs : List Char) : Option Nat × List Char :=
  let (ds, rest) := digits f cs.length (cs.dropWhile Text.isBlank)
  ((Numeral.readNat? 10 ds).filter fun n => n ≤ 4294967295, skip f (rest.dropWhile Text.isBlank))

/-- Reads the counts of a repetition behind its opening brace. -/
def counts (f : Flags) (cs : List Char) : Option ((Nat × Option Nat) × List Char) :=
  let (least, rest) := decimal? f (skip f cs)
  match least, rest with
  | some n, '\x7d' :: rest => some ((n, some n), rest)
  | some n, ',' :: rest =>
    match skip f rest with
    | '\x7d' :: rest => some ((n, none), rest)
    | rest =>
      let (most, rest) := decimal? f rest
      match most, rest with
      | some m, '\x7d' :: rest => if n ≤ m then some ((n, some m), rest) else none
      | _, _ => none
  | _, _ => none

/-- Whether a question mark follows, which turns the greed of a repetition round. -/
def lazyMark : List Char → Bool × List Char
  | '?' :: rest => (true, rest)
  | rest => (false, rest)

/-- A part of a pattern, and how deep groups, repetitions, rows, choices and sets nest in it. -/
structure Piece where
  term : Term
  depth : Nat

/-- How deep several pieces nest together; `none` stands for switches. -/
def depthOf (pieces : List (Option Piece)) : Nat :=
  let inner := (pieces.map fun p => (p.map Piece.depth).getD 0).foldl max 0
  if pieces.length ≤ 1 then inner else inner + 1

/-- The piece that pieces in a row make; `none` stands for switches. -/
def Piece.row (pieces : List (Option Piece)) : Piece :=
  ⟨.row ((pieces.filterMap id).map Piece.term), depthOf pieces⟩

/-- The piece that alternatives make. -/
def Piece.choice (pieces : List Piece) : Piece :=
  ⟨.choice (pieces.map Piece.term), depthOf (pieces.map some)⟩

/-- The pieces read so far with the last one repeated; `none` stands for switches. -/
def repeated (f : Flags) (least : Nat) (most : Option Nat) (isLazy : Bool) :
    List (Option Piece) → Option (List (Option Piece))
  | some p :: done =>
    some (some ⟨p.term.times least most (isLazy == f.swapGreed), p.depth + 1⟩ :: done)
  | _ => none

/-! ### Groups -/

/-- Reads switches up to the colon or parenthesis behind them. `seen` are those already read. -/
def switches (f : Flags) (on : Bool) (seen : List Char) :
    List Char → Option (Flags × Bool × Bool × List Char)
  | [] => none
  | ':' :: rest => if on || seen.head? ≠ some '-' then some (f, false, seen.isEmpty, rest) else none
  | ')' :: rest => if on || seen.head? ≠ some '-' then some (f, true, seen.isEmpty, rest) else none
  | '-' :: rest => if seen.contains '-' then none else switches f false ('-' :: seen) rest
  | c :: rest =>
    if seen.contains c then none
    else
      let next := match c with
        | 'i' => some { f with ignoreCase := on }
        | 'm' => some { f with multiLine := on }
        | 's' => some { f with dotAll := on }
        | 'U' => some { f with swapGreed := on }
        | 'u' => some { f with wide := on }
        | 'R' => some { f with crlf := on }
        | 'x' => some { f with verbose := on }
        | _ => none
      next.bind fun g => switches g on (c :: seen) rest

/-- Whether a character may be part of a group's name, and of its beginning. -/
def isNamePart (first : Bool) (c : Char) : Bool :=
  c = '_' || Text.alphabetic.contains c ||
    (!first && (c = '.' || c = '[' || c = ']' ||
      (Text.categorySet ["Nd", "Nl", "No"]).contains c))

/-- Reads the name of a group up to its closing bracket. -/
def groupName (cs : List Char) : Option (String × List Char) :=
  (Text.splitAt? ['>'] cs).bind fun (name, rest) =>
    match name with
    | [] => none
    | c :: more =>
      if isNamePart true c && more.all (isNamePart false) then some (String.ofList name, rest)
      else none

/-- Whether a condition on what surrounds a match follows. -/
def isLookaround : List Char → Bool
  | '?' :: '=' :: _ => true
  | '?' :: '!' :: _ => true
  | '?' :: '<' :: '=' :: _ => true
  | '?' :: '<' :: '!' :: _ => true
  | _ => false

/-- The name of a group that has one, and what follows it. -/
def namedGroup? : List Char → Option (List Char)
  | '?' :: 'P' :: '<' :: rest => some rest
  | '?' :: '<' :: rest => some rest
  | _ => none

mutual

/-- Reads alternatives up to a closing parenthesis or the end. -/
def alternatives : (fuel : Nat) → Setting → List Char → Option (List Piece × Setting × List Char)
  | 0, _, _ => none
  | fuel + 1, s, cs =>
    (sequence fuel s [] cs).bind fun (p, s, rest) =>
      match rest with
      | '|' :: rest => (alternatives fuel s rest).map fun (ps, s, rest) => (p :: ps, s, rest)
      | rest => some ([p], s, rest)

/-- Reads pieces in a row up to a bar, a closing parenthesis or the end. `done` are those already
read, last first; switches stand among them as `none`. -/
def sequence : (fuel : Nat) → Setting → (done : List (Option Piece)) → List Char →
    Option (Piece × Setting × List Char)
  | 0, _, _, _ => none
  | fuel + 1, s, done, cs =>
    let f := s.flags
    let goOn (t : Term) (depth : Nat) (rest : List Char) :
        Option (Piece × Setting × List Char) :=
      sequence fuel s (some ⟨t, depth⟩ :: done) rest
    match skip f cs with
    | [] => some (.row done.reverse, s, [])
    | ')' :: rest => some (.row done.reverse, s, ')' :: rest)
    | '|' :: rest => some (.row done.reverse, s, '|' :: rest)
    | '(' :: rest => group fuel s done (skip f rest)
    | '[' :: rest => (bracketed f rest).bind fun (n, rest) => goOn (.chars n.set) n.depth rest
    | '?' :: rest =>
      let (isLazy, rest) := lazyMark rest
      (repeated f 0 (some 1) isLazy done).bind fun done => sequence fuel s done rest
    | '*' :: rest =>
      let (isLazy, rest) := lazyMark rest
      (repeated f 0 none isLazy done).bind fun done => sequence fuel s done rest
    | '+' :: rest =>
      let (isLazy, rest) := lazyMark rest
      (repeated f 1 none isLazy done).bind fun done => sequence fuel s done rest
    | '\x7b' :: rest =>
      (counts f rest).bind fun ((least, most), rest) =>
        let (isLazy, rest) := lazyMark (skip f rest)
        (repeated f least most isLazy done).bind fun done => sequence fuel s done rest
    | '\\' :: rest =>
      (escape f rest).bind fun (e, rest) => (escapeTerm f e).bind fun t => goOn t 0 rest
    | '.' :: rest => if f.wide then goOn (.chars (dotSet f)) 0 rest else none
    | '^' :: rest => goOn (.anchor (startAnchor f)) 0 rest
    | '$' :: rest => goOn (.anchor (stopAnchor f)) 0 rest
    | c :: rest => (charTerm f c false).bind fun t => goOn t 0 rest

/-- Reads a group or switches behind an opening parenthesis, and goes on with the row. -/
def group : (fuel : Nat) → Setting → (done : List (Option Piece)) → List Char →
    Option (Piece × Setting × List Char)
  | 0, _, _, _ => none
  | fuel + 1, s, done, cs =>
    let close (g : Group) (inner : Setting) (cs : List Char) :
        Option (Piece × Setting × List Char) :=
      (alternatives fuel inner cs).bind fun (ps, last, rest) =>
        match rest with
        | ')' :: rest =>
          let p := Piece.choice ps
          sequence fuel { s with names := last.names }
            (some ⟨.group g p.term, p.depth + 1⟩ :: done) rest
        | _ => none
    if isLookaround cs then none
    else match namedGroup? cs with
      | some rest =>
        (groupName rest).bind fun (name, rest) =>
          if s.names.contains name then none
          else close (.named name) { s with names := name :: s.names } rest
      | none =>
        match cs with
        | '?' :: rest =>
          (switches s.flags true [] rest).bind fun (g, ends, isNone, rest) =>
            if ends then
              if isNone then none else sequence fuel { s with flags := g } (none :: done) rest
            else close .plain { s with flags := g } rest
        | rest => close .numbered s rest

end

/-- How deep the parts of a pattern may nest. -/
def nestingLimit : Nat := 250

end Grammar

/-- The term that a pattern is, and the names of its groups in order. -/
def read? (pattern : String) : Option (Term × List String) :=
  let cs := pattern.toList
  (Grammar.alternatives (2 * cs.length + 2) ⟨.initial, []⟩ cs).bind fun (ps, s, rest) =>
    let p := Grammar.Piece.choice ps
    if rest.isEmpty && p.depth ≤ Grammar.nestingLimit then some (p.term, s.names.reverse) else none

end Converge.Pattern
