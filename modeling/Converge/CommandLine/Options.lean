import Converge.Text.Find

/-!
# Reading options

Options have a long name and perhaps a letter. A value stands behind an equals sign, in the next
argument, or right behind the letter; letters may share one dash. An option that is not repeatable
must not come twice.
-/

namespace Converge.CommandLine

/-- How often an option may come, and whether it has a value. -/
inductive Arity where
  /-- Without a value, once. -/
  | flag
  /-- Without a value, any number of times. -/
  | count
  /-- With a value that passes a test, once. -/
  | once (accepts : String → Bool)
  /-- With a value, any number of times. -/
  | many

/-- An option that a command takes. -/
structure OptionSpec where
  name : String
  letter : Option Char
  arity : Arity

/-- Why arguments lead to no command. -/
inductive Stop where
  | misuse
  /-- The version was asked for. -/
  | version
deriving DecidableEq

/-- Options that were given, with their values, in order. -/
abbrev Given := List (String × String)

namespace Given

/-- Whether an option was given. -/
def has (g : Given) (name : String) : Bool := g.any fun (n, _) => n = name

/-- How often an option was given. -/
def count (g : Given) (name : String) : Nat := (g.filter fun (n, _) => n = name).length

/-- The values of an option in order. -/
def values (g : Given) (name : String) : List String :=
  g.filterMap fun (n, v) => if n = name then some v else none

/-- The value of an option that comes once. -/
def value? (g : Given) (name : String) : Option String := (g.values name).head?

end Given

namespace OptionSpec

/-- Whether an option has a value. -/
def hasValue (o : OptionSpec) : Bool :=
  match o.arity with
  | .flag => false
  | .count => false
  | .once _ => true
  | .many => true

/-- The options with one more, when it may come again and takes the value. -/
def record (o : OptionSpec) (value : String) (g : Given) : Except Stop Given :=
  let allowed : Bool := match o.arity with
    | .flag => !g.has o.name
    | .count => true
    | .once accepts => !g.has o.name && accepts value
    | .many => true
  if allowed then .ok (g ++ [(o.name, value)]) else .error .misuse

end OptionSpec

/-- Whether an argument can be the value of the option before it: a lone dash can, anything else
that begins with a dash cannot. -/
def isValue (a : String) : Bool := a = "-" || !Text.startsWith ['-'] a.toList

/-- Records an option whose value is the next argument. -/
def takeNext (o : OptionSpec) (g : Given) : List String → Except Stop (Given × List String)
  | [] => .error .misuse
  | v :: rest => if isValue v then (o.record v g).map fun g => (g, rest) else .error .misuse

/-- Reads a long option behind its dashes. -/
def longOption (specs : List OptionSpec) (g : Given) (cs : List Char) (rest : List String) :
    Except Stop (Given × List String) :=
  let (name, attached) := match Text.splitAt? ['='] cs with
    | some (name, v) => (String.ofList name, some (String.ofList v))
    | none => (String.ofList cs, none)
  match specs.find? fun o => o.name = name, attached with
  | none, none => .error (if name = "version" then .version else .misuse)
  | none, some _ => .error .misuse
  | some o, some v =>
    if o.hasValue then (o.record v g).map fun g => (g, rest) else .error .misuse
  | some o, none => if o.hasValue then takeNext o g rest else (o.record "" g).map fun g => (g, rest)

/-- Reads letters behind one dash. -/
def letterOptions (specs : List OptionSpec) (rest : List String) :
    Given → List Char → Except Stop (Given × List String)
  | g, [] => .ok (g, rest)
  | g, c :: cs =>
    match specs.find? fun o => o.letter = some c with
    | none => .error (if c = 'V' then .version else .misuse)
    | some o =>
      if o.hasValue then
        match cs with
        | [] => takeNext o g rest
        | '=' :: v => (o.record (String.ofList v) g).map fun g => (g, rest)
        | v => (o.record (String.ofList v) g).map fun g => (g, rest)
      else (o.record "" g).bind fun g => letterOptions specs rest g cs

/-- Reads options up to the first argument that is none; `fuel` bounds the arguments. Two dashes end
the options, and nothing may follow them. -/
def readOptions (specs : List OptionSpec) : (fuel : Nat) → Given → List String →
    Except Stop (Given × List String)
  | 0, g, args => .ok (g, args)
  | _, g, [] => .ok (g, [])
  | fuel + 1, g, a :: rest =>
    match a.toList with
    | ['-', '-'] => if rest.isEmpty then .ok (g, []) else .error .misuse
    | '-' :: '-' :: cs =>
      (longOption specs g cs rest).bind fun (g, rest) => readOptions specs fuel g rest
    | '-' :: c :: cs =>
      (letterOptions specs rest g (c :: cs)).bind fun (g, rest) => readOptions specs fuel g rest
    | _ => .ok (g, a :: rest)

end Converge.CommandLine
