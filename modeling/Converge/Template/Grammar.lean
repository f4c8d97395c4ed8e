import Converge.Template.Expr
import Converge.Template.Token

/-!
# Grammar of templates

Tokens are read into expressions and statements. Operators bind, from loose to tight: a condition,
`or`, `and`, `not`, comparison and membership, sum, joining of texts, product, power, minus sign,
then what follows an operand. Operators of one level associate to the left, and comparisons in a row
must all hold. Statements and expressions may nest 150 deep, where an operand counts as a level of
its own.
-/

namespace Converge.Template

/-- Reads a term from the front of a token sequence and leaves the tokens after it. -/
abbrev Reader (α : Type) := List Token → Except Fault (α × List Token)

namespace Grammar

/-- Refuses the token in front. -/
def refuse {α : Type} : List Token → Except Fault α
  | .fault f :: _ => .error f
  | _ => .error .syntaxError

/-- Requires a symbol in front. -/
def expectSymbol (s : Symbol) : List Token → Except Fault (List Token)
  | .symbol t :: rest => if s = t then .ok rest else .error .syntaxError
  | ts => refuse ts

/-- Requires a word in front. -/
def expectWord (w : String) : List Token → Except Fault (List Token)
  | .name n :: rest => if n = w then .ok rest else .error .syntaxError
  | ts => refuse ts

/-- Requires some name in front. -/
def expectName : Reader String
  | .name n :: rest => .ok (n, rest)
  | ts => refuse ts

/-- Requires the end of an expression that is printed. -/
def expectVariableEnd : List Token → Except Fault (List Token)
  | .closeVariable :: rest => .ok rest
  | ts => refuse ts

/-- Requires the end of a statement. -/
def expectBlockEnd : List Token → Except Fault (List Token)
  | .closeBlock :: rest => .ok rest
  | ts => refuse ts

/-- Whether a symbol stands in front. -/
def atSymbol (s : Symbol) : List Token → Bool
  | .symbol t :: _ => s = t
  | _ => false

/-- Whether a word stands in front. -/
def atWord (w : String) : List Token → Bool
  | .name n :: _ => n = w
  | _ => false

/-! ### Levels of binary operators -/

/-- Extends a term by the operators of one level that follow it. -/
def chain (operand : Reader Expr) (op : Token → Option BinaryOp) :
    (fuel : Nat) → Expr → Reader Expr
  | fuel + 1, left, t :: rest =>
    match op t with
    | none => .ok (left, t :: rest)
    | some o => do
      let (right, rest) ← operand rest
      chain operand op fuel (.binary o left right) rest
  | _, left, ts => .ok (left, ts)

/-- Reads one or more operands with operators of one level between them. -/
def level (op : Token → Option BinaryOp) (operand : Reader Expr) (ts : List Token) :
    Except Fault (Expr × List Token) := do
  let (left, rest) ← operand ts
  if (rest.head?.bind op).isSome then chain operand op rest.length left rest
  else return (left, rest)

/-- The power sign. -/
def powerOp : Token → Option BinaryOp
  | .symbol .power => some .pow
  | _ => none

/-- The signs of products. -/
def productOp : Token → Option BinaryOp
  | .symbol .times => some .mul
  | .symbol .slash => some .div
  | .symbol .slashes => some .floorDiv
  | .symbol .percent => some .mod
  | _ => none

/-- The sign that joins texts. -/
def concatOp : Token → Option BinaryOp
  | .symbol .tilde => some .concat
  | _ => none

/-- The signs of sums. -/
def sumOp : Token → Option BinaryOp
  | .symbol .plus => some .add
  | .symbol .minus => some .sub
  | _ => none

/-- The signs of comparisons. -/
def comparisonOp : Token → Option BinaryOp
  | .symbol .eq => some .eq
  | .symbol .ne => some .ne
  | .symbol .lt => some .lt
  | .symbol .le => some .le
  | .symbol .gt => some .gt
  | .symbol .ge => some .ge
  | .name "in" => some .member
  | _ => none

/-- The word of conjunctions. -/
def andOp : Token → Option BinaryOp
  | .name "and" => some .and
  | _ => none

/-- The word of disjunctions. -/
def orOp : Token → Option BinaryOp
  | .name "or" => some .or
  | _ => none

/-- Reads a comparison sign, or `in`, or `not in`, when one stands in front. -/
def comparisonSign? : List Token → Except Fault (Option (BinaryOp × List Token))
  | .name "not" :: rest => (expectWord "in" rest).map fun rest => some (.notMember, rest)
  | t :: rest => .ok ((comparisonOp t).map fun op => (op, rest))
  | [] => .ok none

/-- Reads the comparisons that follow a term: each sign with its second operand. -/
def comparisonTail (operand : Reader Expr) : (fuel : Nat) → Reader (List (BinaryOp × Expr))
  | 0, ts => .ok ([], ts)
  | fuel + 1, ts => do
    match ← comparisonSign? ts with
    | none => return ([], ts)
    | some (op, rest) =>
      let (right, rest) ← operand rest
      let (more, rest) ← comparisonTail operand fuel rest
      return ((op, right) :: more, rest)

/-- Reads a term with the comparisons that follow it. -/
def comparisons (operand : Reader Expr) (ts : List Token) : Except Fault (Expr × List Token) := do
  let (left, rest) ← operand ts
  if (← comparisonSign? rest).isNone then return (left, rest)
  let (tail, rest) ← comparisonTail operand rest.length rest
  return (match tail with
    | [] => left
    | [(op, right)] => .binary op left right
    | tail => .compare left tail, rest)

/-- Reads operands after any number of `not`. -/
def inversions (operand : Reader Expr) : Reader Expr
  | .name "not" :: rest => do
    let (e, rest) ← inversions operand rest
    .ok (.unary .invert e, rest)
  | ts => operand ts

/-- Reads operands after any number of minus signs. -/
def negations (operand : Reader Expr) : Reader Expr
  | .symbol .minus :: rest => do
    let (e, rest) ← negations operand rest
    .ok (.unary .negate e, rest)
  | ts => operand ts

/-- Extends a value by the conditions that follow it: a test behind `if`, and a value behind `else`,
which may have conditions of its own. -/
def conditionalTail (operand : Reader Expr) :
    (fuel : Nat) → Expr → Reader Expr
  | fuel + 1, e, .name "if" :: rest => do
    let (test, rest) ← operand rest
    match rest with
    | .name "else" :: rest =>
      let (no, rest) ← operand rest
      let (no, rest) ← conditionalTail operand fuel no rest
      conditionalTail operand fuel (.choice test e no) rest
    | rest => conditionalTail operand fuel (.choice test e .nothing) rest
  | _, e, ts => .ok (e, ts)

/-- Reads a value with the conditions that follow it. -/
def conditional (operand : Reader Expr) (ts : List Token) : Except Fault (Expr × List Token) := do
  let (e, rest) ← operand ts
  if atWord "if" rest then conditionalTail operand rest.length e rest else return (e, rest)

/-! ### Operands -/

/-- Reads items up to a closing symbol; a comma may stand before it. -/
def items (expr : Reader Expr) (close : Symbol) :
    (fuel : Nat) → Reader (List Expr)
  | 0, ts => refuse ts
  | fuel + 1, ts =>
    if atSymbol close ts then .ok ([], ts.tail)
    else do
      let (e, rest) ← expr ts
      if atSymbol close rest then return ([e], rest.tail)
      let rest ← expectSymbol .comma rest
      let (es, rest) ← items expr close fuel rest
      return (e :: es, rest)

/-- Reads the entries of a map up to the closing brace. -/
def entries (expr : Reader Expr) :
    (fuel : Nat) → Reader (List (Expr × Expr))
  | 0, ts => refuse ts
  | fuel + 1, ts =>
    if atSymbol .braceClose ts then .ok ([], ts.tail)
    else do
      let (k, rest) ← expr ts
      let rest ← expectSymbol .colon rest
      let (v, rest) ← expr rest
      if atSymbol .braceClose rest then return ([(k, v)], rest.tail)
      let rest ← expectSymbol .comma rest
      let (es, rest) ← entries expr fuel rest
      return ((k, v) :: es, rest)

/-- Reads one argument; `named` tells whether a named one came before. `value` reads the value of a
named argument. -/
def argument (expr value : Reader Expr) (named : Bool) :
    Reader (ArgKind × Expr)
  | .symbol .power :: rest => do
    let (e, rest) ← expr rest
    return ((.spreadNamed, e), rest)
  | .symbol .times :: rest => do
    let (e, rest) ← expr rest
    return ((.spread, e), rest)
  | ts => do
    let (e, rest) ← expr ts
    match e with
    | .variable name =>
      if atSymbol .assign rest then
        let (v, rest) ← value rest.tail
        return ((.named name, v), rest)
      else if named then .error .syntaxError
      else return ((.positional, e), rest)
    | e => if named then .error .syntaxError else return ((.positional, e), rest)

/-- Whether an argument is a named one. -/
def isNamed : ArgKind → Bool
  | .named _ => true
  | .spreadNamed => true
  | _ => false

/-- Reads arguments up to the closing parenthesis. -/
def arguments (expr value : Reader Expr) :
    (fuel : Nat) → (named : Bool) → Reader (List (ArgKind × Expr))
  | 0, _, ts => refuse ts
  | fuel + 1, named, ts =>
    if atSymbol .parenClose ts then .ok ([], ts.tail)
    else do
      let (a, rest) ← argument expr value named ts
      if atSymbol .parenClose rest then return ([a], rest.tail)
      let rest ← expectSymbol .comma rest
      let (more, rest) ← arguments expr value fuel (named || isNamed a.1) rest
      return (a :: more, rest)

/-- Reads the arguments behind an opening parenthesis, if there is one. -/
def optionalArguments (expr value : Reader Expr) :
    Reader (List (ArgKind × Expr))
  | .symbol .parenOpen :: rest => arguments expr value (rest.length + 1) false rest
  | ts => .ok ([], ts)

/-- Reads what stands between parentheses: one expression, or several as a list. -/
def parenthesized (expr : Reader Expr) (ts : List Token) : Except Fault (Expr × List Token) :=
  if atSymbol .parenClose ts then .ok (.list [], ts.tail)
  else do
    let (e, rest) ← expr ts
    if atSymbol .comma rest then
      let (es, rest) ← items expr .parenClose (rest.length + 1) rest.tail
      return (.list (e :: es), rest)
    let rest ← expectSymbol .parenClose rest
    return (e, rest)

/-- Texts that stand one after the other, joined, and the tokens behind them. -/
def adjacentTexts (acc : String) : List Token → String × List Token
  | .text s :: rest => adjacentTexts (acc ++ s) rest
  | ts => (acc, ts)

/-- Reads a constant, a variable, or a bracketed term. -/
def primary (expr : Reader Expr) : Reader Expr
  | .name n :: rest =>
    .ok (if n = "true" ∨ n = "True" then .bool true
      else if n = "false" ∨ n = "False" then .bool false
      else if n = "none" ∨ n = "None" then .none
      else .variable n, rest)
  | .text s :: rest =>
    let (s, rest) := adjacentTexts s rest
    .ok (.text s, rest)
  | .int n :: rest => .ok (.int n, rest)
  | .float x :: rest => .ok (.float x, rest)
  | .symbol .parenOpen :: rest => parenthesized expr rest
  | .symbol .bracketOpen :: rest => do
    let (es, rest) ← items expr .bracketClose (rest.length + 1) rest
    return (.list es, rest)
  | .symbol .braceOpen :: rest => do
    let (es, rest) ← entries expr (rest.length + 1) rest
    return (.map es, rest)
  | ts => refuse ts

/-- Reads the rest of a slice behind its first colon. -/
def sliceTail (expr : Reader Expr) (e start : Expr) (ts : List Token) :
    Except Fault (Expr × List Token) := do
  let (stop, rest) ←
    if atSymbol .bracketClose ts || atSymbol .colon ts then .ok (.none, ts) else expr ts
  let (step, rest) ←
    if atSymbol .colon rest then
      if atSymbol .bracketClose rest.tail then .ok (.none, rest.tail) else expr rest.tail
    else .ok (.none, rest)
  let rest ← expectSymbol .bracketClose rest
  return (.slice e start stop step, rest)

/-- Reads an index or a slice behind its opening bracket. -/
def subscript (expr : Reader Expr) (e : Expr) (ts : List Token) :
    Except Fault (Expr × List Token) :=
  if atSymbol .colon ts then sliceTail expr e .none ts.tail
  else do
    let (key, rest) ← expr ts
    if atSymbol .colon rest then sliceTail expr e key rest.tail
    else
      let rest ← expectSymbol .bracketClose rest
      return (.item e key, rest)

/-- Extends an operand by attributes, indexes and calls. -/
def postfixes (expr value : Reader Expr) :
    (fuel : Nat) → Expr → Reader Expr
  | fuel + 1, e, .symbol .dot :: .name n :: rest =>
    postfixes expr value fuel (.field e n) rest
  | fuel + 1, e, .symbol .dot :: .int n :: rest =>
    postfixes expr value fuel (.item e (.int n)) rest
  | _, _, .symbol .dot :: rest => refuse rest
  | fuel + 1, e, .symbol .bracketOpen :: rest => do
    let (e, rest) ← subscript expr e rest
    postfixes expr value fuel e rest
  | fuel + 1, e, .symbol .parenOpen :: rest => do
    let (args, rest) ← arguments expr value (rest.length + 1) false rest
    let called := match e with
      | .field (.variable "self") name => Expr.block name
      | e => .call e args
    postfixes expr value fuel called rest
  | _, e, ts => .ok (e, ts)

/-- Whether an attribute, an index or a call follows. -/
def beginsPostfix (ts : List Token) : Bool :=
  atSymbol .dot ts || atSymbol .bracketOpen ts || atSymbol .parenOpen ts

/-- Whether the argument of a test may follow without parentheses. -/
def beginsArgument : List Token → Bool
  | .name n :: _ => n ≠ "and" && n ≠ "or" && n ≠ "else" && n ≠ "is"
  | .text _ :: _ => true
  | .int _ :: _ => true
  | .float _ :: _ => true
  | .symbol s :: _ => s = .plus || s = .minus || s = .bracketOpen || s = .braceOpen
  | _ => false

/-- Reads an operand with its minus signs and what follows it; `inner` reads what stands inside its
brackets. -/
def operand (inner expr value : Reader Expr) (ts : List Token) :
    Except Fault (Expr × List Token) := do
  let (e, rest) ← negations (primary inner) ts
  if beginsPostfix rest then postfixes expr value rest.length e rest else return (e, rest)

/-- Reads a name, or names joined by dots. -/
def dottedName : Reader String
  | .name n :: .symbol .dot :: rest => do
    let (more, rest) ← dottedName rest
    return (n ++ "." ++ more, rest)
  | ts => expectName ts

/-- Reads the arguments of a test. -/
def testArguments (inner expr value : Reader Expr) (ts : List Token) :
    Except Fault ((List (ArgKind × Expr)) × List Token) :=
  if atSymbol .parenOpen ts then optionalArguments expr value ts
  else if beginsArgument ts then do
    let (e, rest) ← operand inner expr value ts
    return ([(.positional, e)], rest)
  else .ok ([], ts)

/-- Extends a term by the filters and tests that follow it. -/
def filters (inner expr value : Reader Expr) :
    (fuel : Nat) → Expr → Reader Expr
  | fuel + 1, e, .symbol .pipe :: rest => do
    let (name, rest) ← dottedName rest
    let (args, rest) ← optionalArguments expr value rest
    filters inner expr value fuel (.filter name e args) rest
  | fuel + 1, e, .name "is" :: rest => do
    let inverted := atWord "not" rest
    let (name, rest) ← dottedName (if inverted then rest.tail else rest)
    let (args, rest) ← testArguments inner expr value rest
    let test := Expr.test name e args
    filters inner expr value fuel (if inverted then .unary .invert test else test) rest
  | _, e, ts => .ok (e, ts)

/-- Reads an operand with its filters and tests. -/
def filtered (inner expr value : Reader Expr) (ts : List Token) :
    Except Fault (Expr × List Token) := do
  let (e, rest) ← operand inner expr value ts
  if atSymbol .pipe rest || atWord "is" rest then filters inner expr value rest.length e rest
  else return (e, rest)

/-- Reads an expression without a condition. -/
def disjunction (inner expr value : Reader Expr) : Reader Expr :=
  level orOp <| level andOp <| inversions <| comparisons <| level sumOp <| level concatOp <|
    level productOp <| level powerOp <| filtered inner expr value

/-- Reads an expression that nests at most `depth` deep, with or without a condition at its top. An
operand takes a level of its own. -/
def exprAt : (depth : Nat) → (conditions : Bool) → Reader Expr
  | 0, _, ts => refuse ts
  | 1, conditions, ts => if conditions then refuse ts else disjunction refuse refuse refuse ts
  | depth + 2, conditions, ts =>
    let expr := exprAt (depth + 1) true
    let value := exprAt (depth + 1) false
    if conditions then
      conditional (disjunction (exprAt depth true) expr value) ts
    else disjunction expr expr value ts

/-! ### Statements -/

/-- Names that nothing can be assigned to. -/
def isReserved (n : String) : Bool :=
  ["true", "True", "false", "False", "none", "None", "loop", "self"].contains n

/-- Reads a name to assign to. -/
def targetName (ts : List Token) : Except Fault (String × List Token) := do
  let (n, rest) ← expectName ts
  if isReserved n then .error .syntaxError else return (n, rest)

/-- Whether a list of targets ends here. -/
def endsTargets : List Token → Bool
  | .symbol .parenClose :: _ => true
  | .closeVariable :: _ => true
  | .closeBlock :: _ => true
  | .name n :: _ => n = "in"
  | _ => false

/-- Reads the names that a value or its items are assigned to; `found` are those read, last
first. -/
def targets : (fuel : Nat) → (found : List Target) → Reader Target
  | 0, _, ts => refuse ts
  | fuel + 1, found, ts => do
    if !found.isEmpty && endsTargets ts then return (.list found.reverse, ts)
    if endsTargets ts then return (.list [], ts)
    let (t, rest) ←
      if atSymbol .parenOpen ts then do
        let (t, rest) ← targets fuel [] ts.tail
        let rest ← expectSymbol .parenClose rest
        pure (t, rest)
      else do
        let (n, rest) ← targetName ts
        pure (Target.name n, rest)
    if atSymbol .comma rest then targets fuel (t :: found) rest.tail
    else if found.isEmpty then return (t, rest)
    else return (.list (t :: found).reverse, rest)

/-- Reads a name, or targets between parentheses. -/
def bracketedTarget (ts : List Token) : Except Fault (Target × List Token) :=
  if atSymbol .parenOpen ts then do
    let (t, rest) ← targets (ts.length + 1) [] ts.tail
    let rest ← expectSymbol .parenClose rest
    return (t, rest)
  else do
    let (n, rest) ← targetName ts
    return (.name n, rest)

/-- Extends the value that holds an assigned field by the fields that follow. -/
def fieldTarget : (fuel : Nat) → (holder : Expr) → (name : String) → Reader Target
  | fuel + 1, holder, name, .symbol .dot :: rest => do
    let (next, rest) ← expectName rest
    fieldTarget fuel (.field holder name) next rest
  | _, holder, name, ts => .ok (.field holder name, ts)

/-- Reads a name, a field, or targets between parentheses; tells whether parentheses were there. -/
def setTarget (ts : List Token) : Except Fault ((Target × Bool) × List Token) := do
  let (t, rest) ← bracketedTarget ts
  match t, rest with
  | .name n, .symbol .dot :: rest =>
    if atSymbol .parenOpen ts then .error .syntaxError
    else
      let (field, rest) ← expectName rest
      let (t, rest) ← fieldTarget rest.length (.variable n) field rest
      return ((t, false), rest)
  | t, rest => return ((t, atSymbol .parenOpen ts), rest)

/-- Reads the targets that follow a comma, up to the equals sign. -/
def moreSetTargets : (fuel : Nat) → Reader (List Target)
  | 0, ts => refuse ts
  | fuel + 1, ts => do
    if atSymbol .assign ts then return ([], ts)
    let ((t, _), rest) ← setTarget ts
    if atSymbol .comma rest then
      let (more, rest) ← moreSetTargets fuel rest.tail
      return (t :: more, rest)
    else return ([t], rest)

/-- Reads expressions that follow a comma, up to the end of a statement. -/
def moreValues (expr : Reader Expr) : (fuel : Nat) → Reader (List Expr)
  | _, .closeBlock :: rest => .ok ([], .closeBlock :: rest)
  | 0, ts => refuse ts
  | fuel + 1, ts => do
    let (e, rest) ← expr ts
    if atSymbol .comma rest then
      let (more, rest) ← moreValues expr fuel rest.tail
      return (e :: more, rest)
    else return ([e], rest)

/-- Reads filters with bars between them up to the end of a statement. -/
def filterCalls (expr value : Reader Expr) :
    (fuel : Nat) → Reader (List FilterCall)
  | 0, ts => refuse ts
  | fuel + 1, ts => do
    let (name, rest) ← dottedName ts
    let (args, rest) ← optionalArguments expr value rest
    match rest with
    | .closeBlock :: _ => return ([⟨name, args⟩], rest)
    | rest =>
      let rest ← expectSymbol .pipe rest
      let (more, rest) ← filterCalls expr value fuel rest
      return (⟨name, args⟩ :: more, rest)

/-- Reads the parameters of a macro up to the closing parenthesis; after one with a default all
have one. -/
def parameters (expr : Reader Expr) :
    (fuel : Nat) → (defaults : Bool) → Reader (List Parameter)
  | 0, _, ts => refuse ts
  | fuel + 1, defaults, ts =>
    if atSymbol .parenClose ts then .ok ([], ts.tail)
    else do
      let (n, rest) ← targetName ts
      let (fallback, rest) ←
        if atSymbol .assign rest then do
          let (e, rest) ← expr rest.tail
          pure (some e, rest)
        else if defaults then .error .syntaxError
        else pure (none, rest)
      let p : Parameter := ⟨n, fallback⟩
      if atSymbol .parenClose rest then return ([p], rest.tail)
      let rest ← expectSymbol .comma rest
      let (more, rest) ← parameters expr fuel (defaults || fallback.isSome) rest
      return (p :: more, rest)

/-- Reads one or more bindings of a `with` statement. -/
def bindings (expr : Reader Expr) :
    (fuel : Nat) → Reader (List (Target × Expr))
  | 0, ts => refuse ts
  | fuel + 1, ts => do
    let (t, rest) ← bracketedTarget ts
    let rest ← expectSymbol .assign rest
    let (e, rest) ← expr rest
    match rest with
    | .closeBlock :: _ => return ([(t, e)], rest)
    | rest =>
      let rest ← expectSymbol .comma rest
      let (more, rest) ← bindings expr fuel rest
      return ((t, e) :: more, rest)

/-- How the parts of statements are read: expressions, values without a condition, and the
statements up to one that begins with a given word. -/
structure Readers where
  expr : Reader Expr
  value : Reader Expr
  body : List String → Reader (List Stmt)

variable (r : Readers)

/-- Reads a `for` statement behind its keyword. -/
def forStmt (ts : List Token) : Except Fault (Stmt × List Token) := do
  let (target, rest) ← targets (ts.length + 1) [] ts
  let rest ← expectWord "in" rest
  let (list, rest) ← r.value rest
  let (only, rest) ←
    if atWord "if" rest then do
      let (e, rest) ← r.expr rest.tail
      pure (some e, rest)
    else pure (none, rest)
  let recursive := atWord "recursive" rest
  let rest ← expectBlockEnd (if recursive then rest.tail else rest)
  let (body, rest) ← r.body ["endfor", "else"] rest
  if atWord "else" rest then
    let rest ← expectBlockEnd rest.tail
    let (orElse, rest) ← r.body ["endfor"] rest
    return (.forEach target list only recursive body orElse, rest.tail)
  return (.forEach target list only recursive body [], rest.tail)

/-- Reads an `if` statement behind its keyword. -/
def ifStmt : (fuel : Nat) → Reader Stmt
  | 0, ts => refuse ts
  | fuel + 1, ts => do
    let (test, rest) ← r.value ts
    let rest ← expectBlockEnd rest
    let (yes, rest) ← r.body ["endif", "else", "elif"] rest
    if atWord "else" rest then
      let rest ← expectBlockEnd rest.tail
      let (no, rest) ← r.body ["endif"] rest
      return (.branch test yes no, rest.tail)
    if atWord "elif" rest then
      let (no, rest) ← ifStmt fuel rest.tail
      return (.branch test yes [no], rest)
    return (.branch test yes [], rest.tail)

/-- Reads a `with` statement behind its keyword. -/
def withStmt (ts : List Token) : Except Fault (Stmt × List Token) := do
  let (bs, rest) ← match ts with
    | .closeBlock :: _ => pure ([], ts)
    | ts => bindings r.expr (ts.length + 1) ts
  let rest ← expectBlockEnd rest
  let (body, rest) ← r.body ["endwith"] rest
  return (.withValues bs body, rest.tail)

/-- Reads the value of a `set` statement: one expression, or several as a list. -/
def setValue (ts : List Token) : Except Fault (Expr × List Token) := do
  let (e, rest) ← r.expr ts
  if atSymbol .comma rest then
    let (es, rest) ← moreValues r.expr (rest.length + 1) rest.tail
    return (.list (e :: es), rest)
  else return (e, rest)

/-- Reads a `set` statement behind its keyword: a value behind an equals sign, or a body. -/
def setStmt (ts : List Token) : Except Fault (Stmt × List Token) := do
  let ((target, bracketed), rest) ← setTarget ts
  let captures := match rest with
    | .closeBlock :: _ => !bracketed
    | .symbol .pipe :: _ => !bracketed
    | _ => false
  if captures then
    let (fs, rest) ←
      if atSymbol .pipe rest then filterCalls r.expr r.value (rest.length + 1) rest.tail
      else pure ([], rest)
    let rest ← expectBlockEnd rest
    let (body, rest) ← r.body ["endset"] rest
    return (.capture target fs body, rest.tail)
  let (target, rest) ←
    if atSymbol .comma rest then do
      let (more, rest) ← moreSetTargets (rest.length + 1) rest.tail
      pure (Target.list (target :: more), rest)
    else pure (target, rest)
  let rest ← expectSymbol .assign rest
  let (e, rest) ← setValue r rest
  return (.assign target e, rest)

/-- Reads a `filter` statement behind its keyword. -/
def filterStmt (ts : List Token) : Except Fault (Stmt × List Token) := do
  let (fs, rest) ← filterCalls r.expr r.value (ts.length + 1) ts
  let rest ← expectBlockEnd rest
  let (body, rest) ← r.body ["endfilter"] rest
  return (.filtered fs body, rest.tail)

/-- Reads a `macro` statement behind its keyword. -/
def macroStmt (ts : List Token) : Except Fault (Stmt × List Token) := do
  let (name, rest) ← expectName ts
  let rest ← expectSymbol .parenOpen rest
  let (ps, rest) ← parameters r.expr (rest.length + 1) false rest
  let rest ← expectBlockEnd rest
  let (body, rest) ← r.body ["endmacro"] rest
  return (.define name ps body, rest.tail)

/-- Reads a `call` statement behind its keyword: parameters of its body, if any, and a call. -/
def callStmt (ts : List Token) : Except Fault (Stmt × List Token) := do
  let (ps, rest) ←
    if atSymbol .parenOpen ts then parameters r.expr (ts.length + 1) false ts.tail
    else pure ([], ts)
  let (e, rest) ← r.expr rest
  match e with
  | .call f args =>
    let rest ← expectBlockEnd rest
    let (body, rest) ← r.body ["endcall"] rest
    return (.callWith f args ps body, rest.tail)
  | .block name =>
    let rest ← expectBlockEnd rest
    let (_, rest) ← r.body ["endcall"] rest
    return (.print (.block name), rest.tail)
  | _ => .error .syntaxError

/-- Reads an `autoescape` statement behind its keyword. -/
def escapeStmt (ts : List Token) : Except Fault (Stmt × List Token) := do
  let (e, rest) ← r.expr ts
  let rest ← expectBlockEnd rest
  let (body, rest) ← r.body ["endautoescape"] rest
  return (.escaping e body, rest.tail)

/-- Reads an `include` statement behind its keyword. -/
def includeStmt (ts : List Token) : Except Fault (Stmt × List Token) := do
  let (e, rest) ← r.expr ts
  if atWord "ignore" rest then
    let rest ← expectWord "missing" rest.tail
    return (.includeOther e true, rest)
  return (.includeOther e false, rest)

/-- Reads names, perhaps with other names behind `as`, up to the end of a statement. -/
def importedNames : (fuel : Nat) → List Token → Except Fault (List Token)
  | _, .closeBlock :: rest => .ok (.closeBlock :: rest)
  | 0, ts => refuse ts
  | fuel + 1, ts => do
    let (_, rest) ← targetName ts
    let rest ←
      if atWord "as" rest then do
        let (_, rest) ← targetName rest.tail
        pure rest
      else pure rest
    match rest with
    | .closeBlock :: _ => return rest
    | rest => importedNames fuel (← expectSymbol .comma rest)

/-- Reads a statement that takes names from another template behind its keyword. -/
def fromStmt (ts : List Token) : Except Fault (Stmt × List Token) := do
  let (e, rest) ← r.expr ts
  let rest ← expectWord "import" rest
  let rest ← importedNames (rest.length + 1) rest
  return (.includeOther e false, rest)

/-- Reads a statement that names another template behind its keyword. -/
def importStmt (ts : List Token) : Except Fault (Stmt × List Token) := do
  let (e, rest) ← r.expr ts
  let rest ← expectWord "as" rest
  let (_, rest) ← targetName rest
  return (.includeOther e false, rest)

/-- Reads a statement that extends another template behind its keyword. -/
def extendsStmt (ts : List Token) : Except Fault (Stmt × List Token) := do
  let (e, rest) ← r.expr ts
  return (.extendOther e, rest)

/-- Reads a `block` statement behind its keyword. -/
def blockStmt (ts : List Token) : Except Fault (Stmt × List Token) := do
  let (name, rest) ← expectName ts
  let rest ← expectBlockEnd rest
  let (body, rest) ← r.body ["endblock"] rest
  let rest := if atWord name rest.tail then rest.tail.tail else rest.tail
  return (.block name body, rest)

/-- Reads a `do` statement behind its keyword. -/
def doStmt (ts : List Token) : Except Fault (Stmt × List Token) := do
  let (e, rest) ← r.expr ts
  match e with
  | .call f args => return (.perform (.call f args), rest)
  | .block name => return (.perform (.block name), rest)
  | _ => .error .syntaxError

/-- Reads a statement behind its opening marker, up to its closing one. -/
def stmt : Reader Stmt
  | .name "for" :: rest => forStmt r rest
  | .name "if" :: rest => ifStmt r (rest.length + 1) rest
  | .name "with" :: rest => withStmt r rest
  | .name "set" :: rest => setStmt r rest
  | .name "filter" :: rest => filterStmt r rest
  | .name "macro" :: rest => macroStmt r rest
  | .name "call" :: rest => callStmt r rest
  | .name "autoescape" :: rest => escapeStmt r rest
  | .name "include" :: rest => includeStmt r rest
  | .name "import" :: rest => importStmt r rest
  | .name "from" :: rest => fromStmt r rest
  | .name "extends" :: rest => extendsStmt r rest
  | .name "block" :: rest => blockStmt r rest
  | .name "do" :: rest => doStmt r rest
  | ts => refuse ts

/-- Reads statements up to one that begins with a word of `stop`, or to the end. The tokens after
them begin with that word. -/
def stmtsWith (expr : Reader Expr) (stmt : Reader Stmt)
    (stop : List String) : (fuel : Nat) → Reader (List Stmt)
  | 0, ts => .ok ([], ts)
  | _, [] => .ok ([], [])
  | fuel + 1, .data s :: rest => do
    let (more, rest) ← stmtsWith expr stmt stop fuel rest
    return (.data s :: more, rest)
  | fuel + 1, .openVariable :: rest => do
    let (e, rest) ← expr rest
    let rest ← expectVariableEnd rest
    let (more, rest) ← stmtsWith expr stmt stop fuel rest
    return (.print e :: more, rest)
  | fuel + 1, .openBlock :: rest =>
    if stop.any fun w => atWord w rest then .ok ([], rest)
    else do
      let (s, rest) ← stmt rest
      let rest ← expectBlockEnd rest
      let (more, rest) ← stmtsWith expr stmt stop fuel rest
      return (s :: more, rest)
  | _, ts => refuse ts

/-- Reads statements that nest at most `depth` deep. -/
def stmtsAt : (depth : Nat) → (stop : List String) → Reader (List Stmt)
  | 0, stop, ts => stmtsWith (exprAt 0 true) refuse stop (ts.length + 1) ts
  | depth + 1, stop, ts =>
    stmtsWith (exprAt (depth + 1) true)
      (stmt ⟨exprAt depth true, exprAt depth false, stmtsAt depth⟩) stop (ts.length + 1) ts

end Grammar

/-- Whether some name occurs twice. -/
def repeats : List String → Bool
  | [] => false
  | n :: rest => rest.contains n || repeats rest

/-- How deep expressions and statements may nest. -/
def nestingLimit : Nat := 150

/-- The expression that a text is. -/
def Expr.read? (cs : List Char) : Except Fault Expr := do
  let (e, rest) ← Grammar.exprAt nestingLimit true (Token.ofExpression cs)
  if rest.isEmpty then .ok e else Grammar.refuse rest

/-- The statements of a template. Its blocks have different names, and none stands in a macro. -/
def Stmt.readAll? (s : String) : Except Fault (List Stmt) := do
  let (body, _) ← Grammar.stmtsAt nestingLimit [] (Token.ofTemplate s)
  if repeats ((blocksIn body).map Prod.fst) || hidesBlockIn body then throw .syntaxError
  return body

end Converge.Template
