import Converge.Toml.Quoted
import Converge.Toml.Scalar

/-!
# Reading TOML documents

Lines of a document are headers, which open a table, and keys with values, which go into the table
that is open. No key is written twice, and no header opens what is there already.
-/

namespace Converge.Toml

/-- Drops spaces and tabs. -/
def skipBlank (cs : List Char) : List Char := cs.dropWhile fun c => c = ' ' || c = '\t'

/-- What follows the line end that must come next, a comment aside. -/
def lineEnd? (cs : List Char) : Option (List Char) :=
  let cs := skipBlank cs
  let cs := match cs with
    | '#' :: more => more.dropWhile isPlain
    | cs => cs
  match cs with
  | [] => some []
  | '\n' :: rest => some rest
  | '\r' :: '\n' :: rest => some rest
  | _ => none

/-- Drops blanks, line ends and comments; `fuel` bounds the lines. -/
def skipLines : (fuel : Nat) → List Char → Option (List Char)
  | 0, cs => some (skipBlank cs)
  | fuel + 1, cs =>
    match skipBlank cs with
    | [] => some []
    | c :: rest =>
      if c = '\n' || c = '\r' || c = '#' then (lineEnd? (c :: rest)).bind (skipLines fuel)
      else some (c :: rest)

/-! ### Keys -/

/-- Characters of keys without quotes. -/
def isKeyPart (c : Char) : Bool := c.isAlphanum || c = '_' || c = '-'

/-- Takes one part of a key. -/
def simpleKey? (cs : List Char) : Option (String × List Char) :=
  match cs with
  | '"' :: _ => (quotedLine? cs).map fun (k, rest) => (String.ofList k, rest)
  | '\'' :: _ => (quotedLine? cs).map fun (k, rest) => (String.ofList k, rest)
  | cs =>
    let k := cs.takeWhile isKeyPart
    if k.isEmpty then none else some (String.ofList k, cs.dropWhile isKeyPart)

/-- Takes a dotted key: its parts before the last, and the last. `fuel` bounds the parts. -/
def key? : (fuel : Nat) → List Char → Option ((List String × String) × List Char)
  | 0, _ => none
  | fuel + 1, cs =>
    (simpleKey? (skipBlank cs)).bind fun (k, rest) =>
      match skipBlank rest with
      | '.' :: more => (key? fuel more).map fun ((ks, last), rest) => ((k :: ks, last), rest)
      | rest => some (([], k), rest)

/-! ### Values -/

/-- How many brackets and braces may enclose a value. -/
def nestingLimit : Nat := 80

mutual

/-- Takes a value inside so many enclosing brackets. -/
def value? : (fuel depth : Nat) → List Char → Option (Item × List Char)
  | 0, _, _ => none
  | fuel + 1, depth, cs =>
    match cs with
    | '"' :: _ => (quoted? cs).map fun (s, rest) => (.text (String.ofList s), rest)
    | '\'' :: _ => (quoted? cs).map fun (s, rest) => (.text (String.ofList s), rest)
    | '[' :: rest =>
      if nestingLimit ≤ depth then none
      else (items? fuel (depth + 1) rest).map fun (vs, rest) => (.list vs, rest)
    | '\x7b' :: rest =>
      if nestingLimit ≤ depth then none
      else (entries? fuel (depth + 1) [] rest).map fun (fs, rest) => (.table .inline fs, rest)
    | cs => takeScalar? cs

/-- Takes the items of a list up to its closing bracket. -/
def items? : (fuel depth : Nat) → List Char → Option (List Item × List Char)
  | 0, _, _ => none
  | fuel + 1, depth, cs =>
    (skipLines cs.length cs).bind fun cs =>
      match cs with
      | ']' :: rest => some ([], rest)
      | cs =>
        (value? fuel depth cs).bind fun (v, rest) =>
          (skipLines rest.length rest).bind fun rest =>
            match rest with
            | ',' :: rest => (items? fuel depth rest).map fun (vs, rest) => (v :: vs, rest)
            | ']' :: rest => some ([v], rest)
            | _ => none

/-- Takes the entries of an inline table up to its closing brace, behind those already read. -/
def entries? : (fuel depth : Nat) → Table → List Char → Option (Table × List Char)
  | 0, _, _, _ => none
  | fuel + 1, depth, fs, cs =>
    (skipLines cs.length cs).bind fun cs =>
      match cs with
      | '\x7d' :: rest => some (fs, rest)
      | cs =>
        (keyValue? fuel depth cs).bind fun ((ks, k, v), rest) =>
          (Table.addUnder ks k v fs).bind fun fs =>
            (skipLines rest.length rest).bind fun rest =>
              match rest with
              | ',' :: rest => entries? fuel depth fs rest
              | '\x7d' :: rest => some (fs, rest)
              | _ => none

/-- Takes a dotted key and its value. -/
def keyValue? : (fuel depth : Nat) → List Char →
    Option ((List String × String × Item) × List Char)
  | 0, _, _ => none
  | fuel + 1, depth, cs =>
    (key? cs.length cs).bind fun ((ks, k), rest) =>
      match rest with
      | '=' :: rest =>
        (value? fuel depth (skipBlank rest)).map fun (v, rest) => ((ks, k, v), rest)
      | _ => none

end

/-! ### Documents -/

/-- A document so far, and the header that is open. -/
structure Progress where
  root : Table
  header : List String

/-- Takes a header behind its first bracket. -/
def header? (p : Progress) (cs : List Char) : Option (Progress × List Char) :=
  match cs with
  | '[' :: cs =>
    (key? cs.length cs).bind fun ((ks, k), rest) =>
      match rest with
      | ']' :: ']' :: rest =>
        (p.root.openRow ks k).map fun root => (⟨root, ks ++ [k]⟩, rest)
      | _ => none
  | cs =>
    (key? cs.length cs).bind fun ((ks, k), rest) =>
      match rest with
      | ']' :: rest => (p.root.openTable ks k).map fun root => (⟨root, ks ++ [k]⟩, rest)
      | _ => none

/-- Takes a key with its value and adds it to the open table. -/
def keyLine? (p : Progress) (cs : List Char) : Option (Progress × List Char) :=
  (keyValue? (4 * cs.length + 8) 0 cs).bind fun ((ks, k, v), rest) =>
    (p.root.underHeader (Table.addUnder ks k v) p.header).map fun root =>
      ({ p with root := root }, rest)

/-- Reads the lines of a document; `fuel` bounds their number. -/
def lines? : (fuel : Nat) → Progress → List Char → Option Table
  | 0, _, _ => none
  | fuel + 1, p, cs =>
    (skipLines cs.length cs).bind fun cs =>
      match cs with
      | [] => some p.root
      | '[' :: rest => (header? p rest).bind fun (p, rest) => (lineEnd? rest).bind (lines? fuel p)
      | cs => (keyLine? p cs).bind fun (p, rest) => (lineEnd? rest).bind (lines? fuel p)

/-- The document that a text writes; a byte order mark in front does not count. -/
def read? (s : String) : Option Table :=
  let cs := match s.toList with
    | '\ufeff' :: cs => cs
    | cs => cs
  lines? (cs.length + 1) ⟨[], []⟩ cs

/-- The data tree that a text writes. -/
def readTree? (s : String) : Option Tree := (read? s).bind Table.toTree?

end Converge.Toml
