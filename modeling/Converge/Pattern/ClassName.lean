import Converge.Text.Age
import Converge.Text.Casing
import Converge.Text.Property
import Converge.Text.Script.Extensions
import Converge.Text.Segment

/-!
# Named sets of characters

The sets that a pattern can name: the classes of ASCII, and general categories, scripts and
properties of all characters. Names are compared without case and separators.
-/

namespace Converge.Pattern

open Text (CodeSet)

/-- A class of ASCII by its name. -/
def asciiClass? : String → Option CodeSet
  | "alnum" => some ⟨[(48, 57), (65, 90), (97, 122)]⟩
  | "alpha" => some ⟨[(65, 90), (97, 122)]⟩
  | "ascii" => some ⟨[(0, 127)]⟩
  | "blank" => some ⟨[(9, 9), (32, 32)]⟩
  | "cntrl" => some ⟨[(0, 31), (127, 127)]⟩
  | "digit" => some ⟨[(48, 57)]⟩
  | "graph" => some ⟨[(33, 126)]⟩
  | "lower" => some ⟨[(97, 122)]⟩
  | "print" => some ⟨[(32, 126)]⟩
  | "punct" => some ⟨[(33, 47), (58, 64), (91, 96), (123, 126)]⟩
  | "space" => some ⟨[(9, 13), (32, 32)]⟩
  | "upper" => some ⟨[(65, 90)]⟩
  | "word" => some ⟨[(48, 57), (65, 90), (95, 95), (97, 122)]⟩
  | "xdigit" => some ⟨[(48, 57), (65, 70), (97, 102)]⟩
  | _ => none

/-- The characters of words in ASCII. -/
def asciiWord : CodeSet := ⟨[(48, 57), (65, 90), (95, 95), (97, 122)]⟩

/-- The general categories that a plain name stands for. -/
def categoryNames : List (String × List String) :=
  [("lu", ["Lu"]), ("uppercaseletter", ["Lu"]), ("ll", ["Ll"]), ("lowercaseletter", ["Ll"]),
    ("lt", ["Lt"]), ("titlecaseletter", ["Lt"]), ("lc", ["Lu", "Ll", "Lt"]),
    ("casedletter", ["Lu", "Ll", "Lt"]), ("lm", ["Lm"]), ("modifierletter", ["Lm"]),
    ("lo", ["Lo"]), ("otherletter", ["Lo"]), ("l", ["Lu", "Ll", "Lt", "Lm", "Lo"]),
    ("letter", ["Lu", "Ll", "Lt", "Lm", "Lo"]), ("mn", ["Mn"]), ("nonspacingmark", ["Mn"]),
    ("mc", ["Mc"]), ("spacingmark", ["Mc"]), ("me", ["Me"]), ("enclosingmark", ["Me"]),
    ("m", ["Mn", "Mc", "Me"]), ("mark", ["Mn", "Mc", "Me"]),
    ("combiningmark", ["Mn", "Mc", "Me"]), ("nd", ["Nd"]), ("decimalnumber", ["Nd"]),
    ("digit", ["Nd"]), ("nl", ["Nl"]), ("letternumber", ["Nl"]), ("no", ["No"]),
    ("othernumber", ["No"]), ("n", ["Nd", "Nl", "No"]), ("number", ["Nd", "Nl", "No"]),
    ("pc", ["Pc"]), ("connectorpunctuation", ["Pc"]), ("pd", ["Pd"]), ("dashpunctuation", ["Pd"]),
    ("ps", ["Ps"]), ("openpunctuation", ["Ps"]), ("pe", ["Pe"]), ("closepunctuation", ["Pe"]),
    ("pi", ["Pi"]), ("initialpunctuation", ["Pi"]), ("pf", ["Pf"]), ("finalpunctuation", ["Pf"]),
    ("po", ["Po"]), ("otherpunctuation", ["Po"]),
    ("p", ["Pc", "Pd", "Ps", "Pe", "Pi", "Pf", "Po"]),
    ("punctuation", ["Pc", "Pd", "Ps", "Pe", "Pi", "Pf", "Po"]),
    ("punct", ["Pc", "Pd", "Ps", "Pe", "Pi", "Pf", "Po"]), ("sm", ["Sm"]), ("mathsymbol", ["Sm"]),
    ("sc", ["Sc"]), ("currencysymbol", ["Sc"]), ("sk", ["Sk"]), ("modifiersymbol", ["Sk"]),
    ("so", ["So"]), ("othersymbol", ["So"]), ("s", ["Sm", "Sc", "Sk", "So"]),
    ("symbol", ["Sm", "Sc", "Sk", "So"]), ("zs", ["Zs"]), ("spaceseparator", ["Zs"]),
    ("zl", ["Zl"]), ("lineseparator", ["Zl"]), ("zp", ["Zp"]), ("paragraphseparator", ["Zp"]),
    ("z", ["Zs", "Zl", "Zp"]), ("separator", ["Zs", "Zl", "Zp"]), ("cc", ["Cc"]),
    ("control", ["Cc"]), ("cntrl", ["Cc"]), ("cf", ["Cf"]), ("format", ["Cf"]), ("cs", ["Cs"]),
    ("surrogate", ["Cs"]), ("co", ["Co"]), ("privateuse", ["Co"]), ("cn", ["Cn"]),
    ("unassigned", ["Cn"]), ("c", ["Cc", "Cf", "Cs", "Co", "Cn"]),
    ("other", ["Cc", "Cf", "Cs", "Co", "Cn"])]

/-- A name in lower case and without separators; an `is` at its very beginning does not count. -/
def plainName (name : List Char) : String :=
  let plain (cs : List Char) := (cs.filter fun c =>
    c ≠ ' ' && c ≠ '_' && c ≠ '-' && c.toNat < 0x80).map Numeral.lowerAscii
  match name with
  | i :: s :: rest =>
    if Numeral.lowerAscii i = 'i' && Numeral.lowerAscii s = 's' then
      let cs := plain rest
      String.ofList (if cs = ['c'] then ['i', 's', 'c'] else cs)
    else String.ofList (plain name)
  | cs => String.ofList (plain cs)

/-- The set of a general category by its plain name. Surrogates are no characters. -/
def categoryByName? (name : String) : Option CodeSet :=
  if name = "any" then some .all
  else if name = "ascii" then some ⟨[(0, 127)]⟩
  else if name = "assigned" then some (Text.categorySet ["Cn"]).complement
  else if name = "cs" ∨ name = "surrogate" then none
  else (categoryNames.lookup name).map Text.categorySet

/-- The code of a script by its plain name or code. Characters without a script have no name. -/
def scriptCode? (name : String) : Option String :=
  let known (code full : List Char) : Bool :=
    plainName code = name || plainName full = name ||
      (name = "qaac" && code = "Copt".toList) || (name = "qaai" && code = "Zinh".toList)
  ((Text.scriptNames.find? fun (code, full) => known code full).filter fun (code, _) =>
    code ≠ "Zzzz".toList).map fun (code, _) => String.ofList code

/-- The set that one name stands for: a property, a general category or a script, in this order. -/
def setByName? (name : List Char) : Option CodeSet :=
  let plain := plainName name
  match Text.propertySet? plain, categoryByName? plain with
  | some s, _ => some s
  | none, some s => some s
  | none, none => (scriptCode? plain).map Text.scriptSet

/-- The set of a property with a value. -/
def setByValue? (property value : List Char) : Option CodeSet :=
  let value := plainName value
  match plainName property with
  | "generalcategory" | "gc" => categoryByName? value
  | "script" | "sc" => (scriptCode? value).map Text.scriptSet
  | "scriptextensions" | "scx" => (scriptCode? value).map Text.writtenSet
  | "age" => Text.ageSet? value
  | "graphemeclusterbreak" | "gcb" => Text.clusterSet? value
  | "wordbreak" | "wb" => Text.wordSet? value
  | "sentencebreak" | "sb" => Text.sentenceSet? value
  | _ => none

/-- The set that the text between the braces of a class escape stands for. -/
def setByQuery? (query : List Char) : Option CodeSet :=
  match Text.splitAt? ['!', '='] query with
  | some (p, v) => (setByValue? p v).map CodeSet.complement
  | none =>
    match Text.splitAt? [':'] query with
    | some (p, v) => setByValue? p v
    | none =>
      match Text.splitAt? ['='] query with
      | some (p, v) => setByValue? p v
      | none => setByName? query

/-! ### Case -/

/-- The characters that case folding changes, with what it makes of them. -/
def foldPairs : List (Nat × Nat) := Text.foldTable.flatMap Text.CodeTable.Shift.pairs

/-- The set with all characters that differ from a member in case alone. -/
def withCases (s : CodeSet) : CodeSet :=
  let folded := foldPairs.filterMap fun (c, f) =>
    if CodeSet.holds c s.ranges || CodeSet.holds f s.ranges then some (f, f) else none
  let targets := CodeSet.ofRanges folded
  let sources := foldPairs.filterMap fun (c, f) =>
    if CodeSet.holds f targets.ranges then some (c, c) else none
  s.union (targets.union (.ofRanges sources))

/-- The set with the ASCII letters of the other case. -/
def withAsciiCases (s : CodeSet) : CodeSet :=
  let letters (first shift : Nat) (down : Bool) : List (Nat × Nat) :=
    (List.range 26).filterMap fun i =>
      let c := first + i
      let d := if down then c - shift else c + shift
      if CodeSet.holds c s.ranges then some (d, d) else none
  s.union (.ofRanges (letters 65 32 false ++ letters 97 32 true))

end Converge.Pattern
