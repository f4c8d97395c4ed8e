import Converge.Template.Functions
import Converge.Template.Grammar
import Converge.Template.Value.Data

/-!
# Evaluation of templates

Expressions have a value in a scope; statements write output and set names in the innermost frame of
their scope. Where undefined values are faults, printing one, comparing with one or asking for its
truth is a fault; otherwise it counts as nothing.
-/

namespace Converge.Template

/-- How expressions carry out statements: a macro with arguments, a loop that is started again with
other items, and a block. Each gives its output. -/
structure Hooks where
  invoke : MacroText → (cell : Nat) → (visible : List (String × Value)) → List Value → Scope →
    Eval Value
  again : LoopState → Value → Scope → Eval Value
  block : String → Scope → Eval Value

namespace Evaluation

/-- The truth of a value. -/
def truth (strict : Bool) : Value → Except Fault Bool
  | .undefined false => if strict then .error .undefinedValue else .ok false
  | v => .ok v.isTrue

/-- The value of an operator with two operands, both of which are known. -/
def binary (strict : Bool) (op : BinaryOp) (a b : Value) : Except Fault Value :=
  let onPresent (f : Value → Value → Except Fault Value) : Except Fault Value :=
    (a.present strict).bind fun a => (b.present strict).bind fun b => f a b
  match op with
  | .or => .ok b
  | .and => .ok b
  | .eq => onPresent fun a b => .ok (.bool (a.eq b))
  | .ne => onPresent fun a b => .ok (.bool (!a.eq b))
  | .lt => onPresent fun a b => .ok (.bool (a.order b == .lt))
  | .le => onPresent fun a b => .ok (.bool (a.order b != .gt))
  | .gt => onPresent fun a b => .ok (.bool (a.order b == .gt))
  | .ge => onPresent fun a b => .ok (.bool (a.order b != .lt))
  | .member => onPresent fun a b => (b.holds a).map .bool
  | .notMember => onPresent fun a b => (b.holds a).map fun held => .bool !held
  | .concat => onPresent fun a b => .ok (.ofText (a.printed ++ b.printed))
  | .add => a.add b
  | .sub => a.sub b
  | .mul => a.mul b
  | .div => a.div b
  | .floorDiv => a.floorDiv b
  | .mod => a.mod b
  | .pow => a.pow b

/-! ### Calls -/

/-- What is called: what a name refers to, what a value holds under a name, or a value. -/
inductive Callee where
  | name (name : String)
  | method (v : Value) (name : String)
  | value (v : Value)

/-- The value of calling a value. -/
def callValue (hooks : Hooks) (s : Scope) (f : Value) (args : List Value) : Eval Value :=
  match f with
  | .routine m _ cell visible => hooks.invoke m cell visible args s
  | .builtin name => Functions.call s.strict name args
  | _ => throw .invalidOperation

/-- The output of the loop around, started again with other items. -/
def callLoop (hooks : Hooks) (s : Scope) (args : List Value) : Eval Value :=
  match args with
  | [items] =>
    match s.loop? with
    | some l => if l.text.recursive then hooks.again l items s else throw .invalidOperation
    | none => throw .unknownFunction
  | _ => throw .invalidOperation

/-- The value of calling what a name refers to. -/
def callName (hooks : Hooks) (s : Scope) (name : String) (args : List Value) : Eval Value := do
  if name = "super" then throw .invalidOperation
  if name = "loop" then return ← callLoop hooks s args
  match ← s.read? name with
  | some (.undefined _) => throw .unknownFunction
  | some f => callValue hooks s f args
  | none => throw .unknownFunction

/-- The value of calling what a value holds under a name. -/
def callMethod (hooks : Hooks) (s : Scope) (v : Value) (name : String) (args : List Value) :
    Eval Value :=
  match v with
  | .loop id index _ _ =>
    match name with
    | "cycle" => return (args[index % args.length]?).getD (.undefined false)
    | "changed" => do return .bool (← Eval.changed id args)
    | _ => throw .unknownMethod
  | .list _ _ _ | .map _ _ | .named _ | .record _ _ | .routine _ _ _ _ =>
    match v.item? (.ofText name) with
    | some f => callValue hooks s f args
    | none => throw .unknownMethod
  | _ => throw .unknownMethod

/-- The value of a call. -/
def call (hooks : Hooks) (s : Scope) (args : List Value) : Callee → Eval Value
  | .name name => callName hooks s name args
  | .method v name => callMethod hooks s v name args
  | .value v => callValue hooks s v args

/-- What spreading a value gives as named arguments. The items of a sequence go by their
positions, which name no parameter. -/
def spreadNames (strict : Bool) (v : Value) : Except Fault (List (Value × Value)) :=
  (v.present strict).bind fun v => match v with
    | .list vs _ _ => .ok (vs.zipIdx.map fun (w, i) => (.int i, w))
    | v => v.pairs

/-- Whether an argument is a named one. -/
def isNamed (a : ArgKind × Expr) : Bool := Grammar.isNamed a.1

/-- The argument values: those in their places, and the named ones as one value behind them. -/
def assemble (args : List (ArgKind × Expr)) (places : List Value)
    (byName : List (Value × Value)) : List Value :=
  if args.any isNamed || !byName.isEmpty then
    places ++ [.named (Value.sortedEntries byName)]
  else places

/-! ### Expressions -/

mutual

/-- The value of an expression. -/
def eval (hooks : Hooks) (s : Scope) : Expr → Eval Value
  | .nothing => return .undefined true
  | .none => return .none
  | .bool b => return .bool b
  | .int n => return .int n
  | .float x => return .float x
  | .text t => return .ofText t
  | .variable name => do return (← s.read? name).getD (.undefined false)
  | .list es => do
    let vs ← evalItems hooks s es
    Eval.stamped (.seq vs)
  | .map es => do
    let fs ← evalEntries hooks s es
    Eval.stamped (.ofEntries fs)
  | .unary .negate e => do
    let v ← eval hooks s e
    v.negate
  | .unary .invert e => do
    let v ← eval hooks s e
    let b ← truth s.strict v
    return .bool !b
  | .binary .and a b => do
    let v ← eval hooks s a
    if ← truth s.strict v then eval hooks s b else return v
  | .binary .or a b => do
    let v ← eval hooks s a
    if ← truth s.strict v then return v else eval hooks s b
  | .binary op a b => do
    let v ← eval hooks s a
    let w ← eval hooks s b
    binary s.strict op v w
  | .compare first rest => do
    let v ← eval hooks s first
    evalComparisons hooks s v rest
  | .choice test yes no => do
    let v ← eval hooks s test
    if ← truth s.strict v then eval hooks s yes else eval hooks s no
  | .field e name => do
    let v ← eval hooks s e
    let w ← v.item (.ofText name)
    Eval.current w
  | .item e key => do
    let v ← eval hooks s e
    let k ← eval hooks s key
    let w ← v.item k
    Eval.current w
  | .slice e start stop step => do
    let v ← eval hooks s e
    let a ← eval hooks s start
    let b ← eval hooks s stop
    let c ← eval hooks s step
    let v ← v.present s.strict
    v.slice a b c
  | .filter name e args => do
    let v ← eval hooks s e
    let places ← evalPlaces hooks s args
    let byName ← evalNames hooks s args
    Value.filter s.strict (assemble args places byName) name v
  | .test name e args => do
    let v ← eval hooks s e
    let places ← evalPlaces hooks s args
    let byName ← evalNames hooks s args
    let b ← v.test s.strict name (assemble args places byName)
    return .bool b
  | .call (.variable name) args => do
    let places ← evalPlaces hooks s args
    let byName ← evalNames hooks s args
    call hooks s (assemble args places byName) (.name name)
  | .call (.field e name) args => do
    let v ← eval hooks s e
    let places ← evalPlaces hooks s args
    let byName ← evalNames hooks s args
    call hooks s (assemble args places byName) (.method v name)
  | .call f args => do
    let v ← eval hooks s f
    let places ← evalPlaces hooks s args
    let byName ← evalNames hooks s args
    call hooks s (assemble args places byName) (.value v)
  | .block name => hooks.block name s

/-- The values of items. -/
def evalItems (hooks : Hooks) (s : Scope) : List Expr → Eval (List Value)
  | [] => return []
  | e :: rest => do
    let v ← eval hooks s e
    let vs ← evalItems hooks s rest
    return v :: vs

/-- The values of entries. -/
def evalEntries (hooks : Hooks) (s : Scope) : List (Expr × Expr) → Eval (List (Value × Value))
  | [] => return []
  | (k, v) :: rest => do
    let key ← eval hooks s k
    let value ← eval hooks s v
    let more ← evalEntries hooks s rest
    return (key, value) :: more

/-- Whether a value and the operands after it compare as they should, up to the first that does
not. -/
def evalComparisons (hooks : Hooks) (s : Scope) (left : Value) :
    List (BinaryOp × Expr) → Eval Value
  | [] => return .bool true
  | (op, e) :: rest => do
    let right ← eval hooks s e
    let holds ← binary s.strict op left right
    if rest.isEmpty || !holds.isTrue then return holds else evalComparisons hooks s right rest

/-- The values of the arguments in their places. -/
def evalPlaces (hooks : Hooks) (s : Scope) : List (ArgKind × Expr) → Eval (List Value)
  | [] => return []
  | (kind, e) :: rest =>
    match kind with
    | .positional => do
      let v ← eval hooks s e
      let more ← evalPlaces hooks s rest
      return v :: more
    | .spread => do
      let v ← eval hooks s e
      let vs ← v.walk s.strict
      let more ← evalPlaces hooks s rest
      return vs ++ more
    | _ => evalPlaces hooks s rest

/-- The values of the named arguments. -/
def evalNames (hooks : Hooks) (s : Scope) : List (ArgKind × Expr) → Eval (List (Value × Value))
  | [] => return []
  | (kind, e) :: rest =>
    match kind with
    | .named name => do
      let v ← eval hooks s e
      let more ← evalNames hooks s rest
      return (.ofText name, v) :: more
    | .spreadNamed => do
      let v ← eval hooks s e
      let es ← spreadNames s.strict v
      let more ← evalNames hooks s rest
      return es ++ more
    | _ => evalNames hooks s rest

end

/-- What an expression that is called stands for. -/
def callee (hooks : Hooks) (s : Scope) : Expr → Eval Callee
  | .variable name => return .name name
  | .field e name => do return .method (← eval hooks s e) name
  | e => do return .value (← eval hooks s e)

/-! ### Statements -/

/-- A scope and the output so far. -/
structure Progress where
  scope : Scope
  output : String

namespace Progress

/-- Adds text to the output. -/
def write (p : Progress) (t : String) : Progress := { p with output := p.output ++ t }

/-- Adds a value to the output. -/
def emit (p : Progress) (v : Value) : Except Fault Progress :=
  match p.scope.written v with
  | .ok t => .ok (p.write t)
  | .error f => .error f

end Progress

mutual

/-- Assigns a value to a name or a field, or its parts to targets, one for each. -/
def assign (hooks : Hooks) (s : Scope) (v : Value) : Target → Eval Scope
  | .name n => s.assignName n v
  | .field e name => do
    match ← eval hooks s e with
    | .record id _ => do
      Eval.setField id name v
      return s
    | _ => throw .invalidOperation
  | .list ts =>
    match v.parts? with
    | some vs => if vs.length = ts.length then assignAll hooks s vs ts else throw .cannotUnpack
    | none => throw .cannotUnpack

/-- Assigns values to as many targets. -/
def assignAll (hooks : Hooks) (s : Scope) (vs : List Value) : List Target → Eval Scope
  | [] => return s
  | t :: ts => do
    let s ← assign hooks s (vs.head?.getD .none) t
    assignAll hooks s vs.tail ts

end

/-- Applies filters to a captured text. -/
def applyFilters (hooks : Hooks) (s : Scope) (filters : List FilterCall) (v : Value) :
    Eval Value :=
  filters.foldlM (fun v f => do
    let places ← evalPlaces hooks s f.args
    let byName ← evalNames hooks s f.args
    Value.filter s.strict (assemble f.args places byName) f.name v) v

/-- The items that a loop keeps: those for which its condition is true. -/
def keptItems (hooks : Hooks) (s : Scope) (target : Target) (only : Option Expr)
    (vs : List Value) : Eval (List Value) :=
  match only with
  | none => return vs
  | some test => vs.filterMapM fun v => do
    let inner ← s.push .empty
    let inner ← assign hooks inner v target
    let w ← eval hooks inner test
    return if ← truth s.strict w then some v else none

/-- Carries out a loop over items: `run` carries out its body, with new names for each item. -/
def overItems (hooks : Hooks) (run : Progress → Eval Progress) (p : Progress) (t : LoopText)
    (vs : List Value) : Eval Progress := do
  let depth := match p.scope.loop? with
    | some l => if l.text.recursive then l.depth + 1 else 0
    | none => 0
  let id ← Eval.fresh
  let inner ← p.scope.push .empty
  let done ← vs.zipIdx.foldlM (fun (q : Progress) (v, i) => do
    let s := q.scope.withFrame ⟨[], some ⟨t, id, i, depth, vs⟩, none⟩
    let s ← assign hooks s v t.target
    run { q with scope := s }) { p with scope := inner }
  return { done with scope := done.scope.pop }

/-- The names of other templates: there is none, so naming one is a fault unless it is optional. -/
def includeNames (optional : Bool) (v : Value) : Except Fault Unit :=
  let names := match v with
    | .builtin _ => []
    | v => (v.parts?).getD [v]
  if names.any fun n => n.asText?.isNone then .error .invalidOperation
  else if names.isEmpty || optional then .ok () else .error .templateNotFound

/-- Whether output is made safe inside markup under a mode. -/
def escapeMode (v : Value) : Except Fault Bool :=
  match v.asText? with
  | some "html" => .ok true
  | some "none" => .ok false
  | some _ => .error .invalidOperation
  | none => .ok (v.eq (.bool true))

/-- The text of a macro. -/
def macroText (name : String) (params : List Parameter) (body : List Stmt) : MacroText :=
  ⟨name, params, body, (mentionsIn "caller" body || params.any (·.mentions "caller")) &&
    !params.any fun p => p.name = "caller"⟩

mutual

/-- Carries out a statement. -/
def exec (hooks : Hooks) (p : Progress) : Stmt → Eval Progress
  | .data t => return p.write t
  | .print e => do
    let v ← eval hooks p.scope e
    p.emit v
  | .forEach target e only recursive body orElse => do
    let v ← eval hooks p.scope e
    let all ← v.walk p.scope.strict
    let vs ← keptItems hooks p.scope target only all
    if vs.isEmpty then execAll hooks p orElse
    else overItems hooks (fun q => execAll hooks q body) p ⟨target, body, recursive⟩ vs
  | .branch test yes no => do
    let v ← eval hooks p.scope test
    if ← truth p.scope.strict v then execAll hooks p yes else execAll hooks p no
  | .withValues bindings body => do
    let inner ← p.scope.push .empty
    let inner ← bindings.foldlM (fun (s : Scope) (target, e) => do
      let v ← eval hooks s e
      assign hooks s v target) inner
    let done ← execAll hooks { p with scope := inner } body
    return { done with scope := done.scope.pop }
  | .assign target e => do
    let v ← eval hooks p.scope e
    let s ← assign hooks p.scope v target
    return { p with scope := s }
  | .capture target filters body => do
    let done ← execAll hooks { p with output := "" } body
    let v ← applyFilters hooks done.scope filters (done.scope.captured done.output)
    let s ← assign hooks done.scope v target
    return ⟨s, p.output⟩
  | .filtered filters body => do
    let done ← execAll hooks { p with output := "" } body
    let v ← applyFilters hooks done.scope filters (done.scope.captured done.output)
    Progress.emit ⟨done.scope, p.output⟩ v
  | .escaping mode body => do
    let v ← eval hooks p.scope mode
    let escapes ← escapeMode v
    let done ← execAll hooks { p with scope := { p.scope with escapes } } body
    return { done with scope := { done.scope with escapes := p.scope.escapes } }
  | .define name params body => do
    let (s, v) ← p.scope.enclose (macroText name params body)
    let s ← s.assignName name v
    return { p with scope := s }
  | .callWith f args params body => do
    let c ← callee hooks p.scope f
    let places ← evalPlaces hooks p.scope args
    let byName ← evalNames hooks p.scope args
    let (s, caller) ← p.scope.enclose (macroText "caller" params body)
    let v ← call hooks s (assemble args places (byName ++ [(.ofText "caller", caller)])) c
    Progress.emit { p with scope := s } v
  | .block _ body => do
    let inner ← p.scope.push .empty
    let done ← execAll hooks { p with scope := inner } body
    return { done with scope := done.scope.pop }
  | .includeOther e optional => do
    let v ← eval hooks p.scope e
    let () ← includeNames optional v
    return p
  | .extendOther e => do
    let v ← eval hooks p.scope e
    throw (if v.asText?.isSome then .templateNotFound else .invalidOperation)
  | .perform e => do
    let _ ← eval hooks p.scope e
    return p

/-- Carries out statements in order. -/
def execAll (hooks : Hooks) (p : Progress) : List Stmt → Eval Progress
  | [] => return p
  | st :: rest => do
    let q ← exec hooks p st
    execAll hooks q rest

end

/-! ### Macros, loops and blocks from inside expressions -/

/-- The value of each parameter: the argument in its place or of its name, if there is one. -/
def bindParameters (params : List Parameter) (places : List Value)
    (byName : List (Value × Value)) : Except Fault (List (Parameter × Value)) :=
  params.zipIdx.mapM fun (p, i) =>
    match places[i]?, Arguments.byName? byName p.name with
    | some _, some _ => .error .tooManyArguments
    | some v, none => .ok (p, v)
    | none, some v => .ok (p, v)
    | none, none => .ok (p, .undefined false)

/-- The scope of a macro's body. Defaults of later parameters are evaluated before earlier ones. -/
def macroScope (hooks : Hooks) (s : Scope) (bound : List (Parameter × Value)) : Eval Scope :=
  bound.reverse.foldlM (fun (s : Scope) (p, v) => do
    let v ← match v, p.fallback with
      | .undefined _, some e => eval hooks s e
      | v, _ => pure v
    s.assignName p.name v) s

/-- Carries out a macro; `hooks` are those of its body. -/
def invoke (hooks : Hooks) (m : MacroText) (cell : Nat) (visible : List (String × Value))
    (args : List Value) (s : Scope) : Eval Value := do
  let (places, byName) := Arguments.split args
  if m.params.length < places.length then throw .tooManyArguments
  let bound ← bindParameters m.params places byName
  let known := m.params.map (·.name) ++ (if m.usesCaller then ["caller"] else [])
  let () ← (Arguments.onlyNamed known byName () : Except Fault Unit)
  let caller := (Arguments.byName? byName "caller").getD (.undefined false)
  let names := if m.usesCaller then [("caller", caller)] else []
  let outside : Scope := { s with
    base := .closure cell visible, outer := s.depth + Scope.macroCost, blocks := [], frames := [] }
  let inner ← outside.push ⟨names, none, none⟩
  let inner ← macroScope hooks inner bound
  let done ← execAll hooks ⟨inner, ""⟩ m.body
  return s.captured done.output

/-- Starts a loop again with other items. -/
def again (hooks : Hooks) (l : LoopState) (items : Value) (s : Scope) : Eval Value := do
  let vs ← items.walk s.strict
  let done ← overItems hooks (fun q => execAll hooks q l.text.body) ⟨s, ""⟩ l.text vs
  return s.captured done.output

/-- Carries out a block by its name. -/
def block (hooks : Hooks) (name : String) (s : Scope) : Eval Value :=
  match s.blocks.lookup name with
  | none => throw .unknownBlock
  | some body => do
    let inner ← s.push .empty
    let done ← execAll hooks ⟨inner, ""⟩ body
    return s.captured done.output

/-- The hooks of expressions in which macros, loops and blocks may start one another so often. -/
def hooksAt : (starts : Nat) → Hooks
  | 0 => ⟨fun _ _ _ _ _ => throw .invalidOperation, fun _ _ _ => throw .invalidOperation,
      fun _ _ => throw .invalidOperation⟩
  | starts + 1 => ⟨fun m cell visible args s => invoke (hooksAt starts) m cell visible args s,
      fun l items s => again (hooksAt starts) l items s,
      fun name s => block (hooksAt starts) name s⟩

/-- The scope at the start of a template. -/
def rootScope (strict : Bool) (context : Value) (blocks : List (String × List Stmt)) : Scope :=
  ⟨strict, false, .data context, 0, blocks, [.empty]⟩

/-- The result of an evaluation that begins with an empty memory. Each start from inside an
expression takes a frame, so the limit on frames bounds them. -/
def run {α : Type} (f : Hooks → Eval α) : Except Fault α :=
  (f (hooksAt Scope.depthLimit)).run' .initial

end Evaluation

/-- The value of an expression over some data. -/
def Expr.value (e : Expr) (strict : Bool) (context : Value) : Except Fault Value :=
  Evaluation.run fun hooks => Evaluation.eval hooks (Evaluation.rootScope strict context []) e

/-- The output of a template's statements over some data. -/
def Stmt.output (body : List Stmt) (strict : Bool) (context : Value) : Except Fault String :=
  Evaluation.run fun hooks =>
    (Evaluation.execAll hooks ⟨Evaluation.rootScope strict context (blocksIn body), ""⟩ body).map
      (·.output)

end Converge.Template
