import Converge.Decimal.Binary64

/-!
# Expressions and statements of templates

The terms that a template's text is read into. A template is a list of statements; literal text is a
statement of its own.
-/

namespace Converge.Template

/-- Operators with one operand. -/
inductive UnaryOp where
  | negate
  | invert
deriving DecidableEq

/-- Operators with two operands. The first two look at the second operand only when they must. -/
inductive BinaryOp where
  | or
  | and
  | eq
  | ne
  | lt
  | le
  | gt
  | ge
  | member
  | notMember
  | add
  | sub
  | concat
  | mul
  | div
  | floorDiv
  | mod
  | pow
deriving DecidableEq

/-- How an argument is given: in its place, by name, or as many at once. -/
inductive ArgKind where
  | positional
  | named (name : String)
  | spread
  | spreadNamed

/-- An expression. -/
inductive Expr where
  /-- The value of a condition without an alternative: undefined, and never a fault. -/
  | nothing
  | none
  | bool (b : Bool)
  | int (n : Nat)
  | float (x : Binary64)
  | text (s : String)
  | variable (name : String)
  | list (items : List Expr)
  | map (entries : List (Expr × Expr))
  | unary (op : UnaryOp) (e : Expr)
  | binary (op : BinaryOp) (a b : Expr)
  /-- Comparisons in a row: each compares its operand with the one before it, and all must hold. -/
  | compare (first : Expr) (rest : List (BinaryOp × Expr))
  | choice (test yes no : Expr)
  | field (e : Expr) (name : String)
  | item (e key : Expr)
  | slice (e start stop step : Expr)
  | filter (name : String) (e : Expr) (args : List (ArgKind × Expr))
  | test (name : String) (e : Expr) (args : List (ArgKind × Expr))
  | call (f : Expr) (args : List (ArgKind × Expr))
  /-- The output of a block of this template. -/
  | block (name : String)

/-- What a value is assigned to: one name, a field of a record, or one target for each item. -/
inductive Target where
  | name (s : String)
  | field (e : Expr) (name : String)
  | list (parts : List Target)

/-- A filter with its arguments, to be applied to a captured text. -/
structure FilterCall where
  name : String
  args : List (ArgKind × Expr)

/-- A parameter of a macro, with its default. -/
structure Parameter where
  name : String
  fallback : Option Expr

/-- A statement. -/
inductive Stmt where
  | data (s : String)
  | print (e : Expr)
  /-- A loop; a recursive one may be started again from its own body. -/
  | forEach (target : Target) (items : Expr) (only : Option Expr) (recursive : Bool)
      (body orElse : List Stmt)
  | branch (test : Expr) (yes no : List Stmt)
  | withValues (bindings : List (Target × Expr)) (body : List Stmt)
  | assign (target : Target) (e : Expr)
  | capture (target : Target) (filters : List FilterCall) (body : List Stmt)
  | filtered (filters : List FilterCall) (body : List Stmt)
  | escaping (mode : Expr) (body : List Stmt)
  | define (name : String) (params : List Parameter) (body : List Stmt)
  /-- A call whose callee may use a body as the macro `caller`. -/
  | callWith (f : Expr) (args : List (ArgKind × Expr)) (params : List Parameter) (body : List Stmt)
  | block (name : String) (body : List Stmt)
  | includeOther (names : Expr) (optional : Bool)
  | extendOther (name : Expr)
  | perform (e : Expr)

/-! ### Names that a term mentions -/

mutual

/-- Whether an expression refers to a name. -/
def Expr.mentions (name : String) : Expr → Bool
  | .variable n => n = name
  | .list es => mentionsAny name es
  | .map es => mentionsEntry name es
  | .unary _ e => e.mentions name
  | .binary _ a b => a.mentions name || b.mentions name
  | .compare e rest => e.mentions name || mentionsOperand name rest
  | .choice a b c => a.mentions name || b.mentions name || c.mentions name
  | .field e _ => e.mentions name
  | .item e k => e.mentions name || k.mentions name
  | .slice e a b c => e.mentions name || a.mentions name || b.mentions name || c.mentions name
  | .filter _ e args => e.mentions name || mentionsArg name args
  | .test _ e args => e.mentions name || mentionsArg name args
  | .call f args => f.mentions name || mentionsArg name args
  | _ => false

/-- Whether one of some expressions refers to a name. -/
def mentionsAny (name : String) : List Expr → Bool
  | [] => false
  | e :: rest => e.mentions name || mentionsAny name rest

/-- Whether one of some entries refers to a name. -/
def mentionsEntry (name : String) : List (Expr × Expr) → Bool
  | [] => false
  | (k, v) :: rest => k.mentions name || v.mentions name || mentionsEntry name rest

/-- Whether one of some operands refers to a name. -/
def mentionsOperand (name : String) : List (BinaryOp × Expr) → Bool
  | [] => false
  | (_, e) :: rest => e.mentions name || mentionsOperand name rest

/-- Whether one of some arguments refers to a name. -/
def mentionsArg (name : String) : List (ArgKind × Expr) → Bool
  | [] => false
  | (_, e) :: rest => e.mentions name || mentionsArg name rest

end

/-- Whether the default of a parameter refers to a name. -/
def Parameter.mentions (name : String) (p : Parameter) : Bool :=
  match p.fallback with
  | some e => e.mentions name
  | none => false

mutual

/-- Whether a statement refers to a name. -/
def Stmt.mentions (name : String) : Stmt → Bool
  | .data _ => false
  | .print e => e.mentions name
  | .forEach _ e only _ body orElse =>
    e.mentions name || (only.map fun e => e.mentions name).getD false || mentionsIn name body ||
      mentionsIn name orElse
  | .branch e yes no => e.mentions name || mentionsIn name yes || mentionsIn name no
  | .withValues bs body => bs.any (fun b => b.2.mentions name) || mentionsIn name body
  | .assign _ e => e.mentions name
  | .capture _ fs body => fs.any (fun f => mentionsArg name f.args) || mentionsIn name body
  | .filtered fs body => fs.any (fun f => mentionsArg name f.args) || mentionsIn name body
  | .escaping e body => e.mentions name || mentionsIn name body
  | .define _ ps body => ps.any (·.mentions name) || mentionsIn name body
  | .callWith f args ps body =>
    f.mentions name || mentionsArg name args || ps.any (·.mentions name) || mentionsIn name body
  | .block _ body => mentionsIn name body
  | .includeOther e _ => e.mentions name
  | .extendOther e => e.mentions name
  | .perform e => e.mentions name

/-- Whether one of some statements refers to a name. -/
def mentionsIn (name : String) : List Stmt → Bool
  | [] => false
  | s :: rest => s.mentions name || mentionsIn name rest

end

/-! ### Blocks -/

mutual

/-- The blocks of a statement in order, each before those inside it. -/
def Stmt.blocks : Stmt → List (String × List Stmt)
  | .forEach _ _ _ _ body orElse => blocksIn body ++ blocksIn orElse
  | .branch _ yes no => blocksIn yes ++ blocksIn no
  | .withValues _ body => blocksIn body
  | .capture _ _ body => blocksIn body
  | .filtered _ body => blocksIn body
  | .escaping _ body => blocksIn body
  | .define _ _ body => blocksIn body
  | .callWith _ _ _ body => blocksIn body
  | .block name body => (name, body) :: blocksIn body
  | _ => []

/-- The blocks of statements in order. -/
def blocksIn : List Stmt → List (String × List Stmt)
  | [] => []
  | s :: rest => s.blocks ++ blocksIn rest

end

mutual

/-- Whether a macro inside a statement holds a block. -/
def Stmt.hidesBlock : Stmt → Bool
  | .forEach _ _ _ _ body orElse => hidesBlockIn body || hidesBlockIn orElse
  | .branch _ yes no => hidesBlockIn yes || hidesBlockIn no
  | .withValues _ body => hidesBlockIn body
  | .capture _ _ body => hidesBlockIn body
  | .filtered _ body => hidesBlockIn body
  | .escaping _ body => hidesBlockIn body
  | .define _ _ body => !(blocksIn body).isEmpty
  | .callWith _ _ _ body => !(blocksIn body).isEmpty
  | .block _ body => hidesBlockIn body
  | _ => false

/-- Whether a macro inside statements holds a block. -/
def hidesBlockIn : List Stmt → Bool
  | [] => false
  | s :: rest => s.hidesBlock || hidesBlockIn rest

end

end Converge.Template
