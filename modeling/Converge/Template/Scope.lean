import Converge.Template.Filters

/-!
# Scopes of templates

What names refer to while a template is evaluated. A scope has frames, innermost first, and behind
them the data of the template or, inside a macro, the names that were visible where the macro was
defined. What outlives a frame is kept in a memory: the fields of records, the names that are set
next to a macro after its definition, and the arguments that loops have seen.
-/

namespace Converge.Template

/-- The part of a loop that its text gives. -/
structure LoopText where
  target : Target
  body : List Stmt
  /-- Whether the loop may be started again from its body. -/
  recursive : Bool

/-- A loop at one of its items. -/
structure LoopState where
  text : LoopText
  id : Nat
  index : Nat
  depth : Nat
  items : List Value

/-- The value of the name `loop`. -/
def LoopState.value (l : LoopState) : Value := .loop l.id l.index l.depth l.items

/-- Names set in one part of a template, and the loop that the part is in. -/
structure Frame where
  names : List (String × Value)
  loop : Option LoopState
  /-- Where the names set in this frame are kept for the macros defined in it. -/
  cell : Option Nat

namespace Frame

/-- The frame without names. -/
def empty : Frame := ⟨[], none, none⟩

/-- The value of a name in a frame. -/
def find? (name : String) (f : Frame) : Option Value :=
  match f.names.lookup name with
  | some v => some v
  | none => if name = "loop" then f.loop.map LoopState.value else none

/-- The names of a frame with their values. -/
def visible (f : Frame) : List (String × Value) :=
  f.names ++ match f.loop with
    | some l => [("loop", l.value)]
    | none => []

end Frame

/-- What lies behind the frames of a scope. -/
inductive Base where
  /-- The data of the template. -/
  | data (context : Value)
  /-- The names that a macro sees: those kept in a cell, and those that were visible before. -/
  | closure (cell : Nat) (visible : List (String × Value))

/-- What names can refer to, and the settings that statements change. -/
structure Scope where
  strict : Bool
  /-- Whether output is made safe inside markup. -/
  escapes : Bool
  base : Base
  /-- How many frames there are outside the macro that the scope belongs to. -/
  outer : Nat
  blocks : List (String × List Stmt)
  frames : List Frame

/-- What outlives the frames of a scope. -/
structure Memory where
  /-- A number that no record, loop, cell, list or map has. -/
  next : Nat
  records : List (Nat × List (String × Value))
  cells : List (Nat × List (String × Value))
  /-- The last arguments of a loop's `changed`, by loop. -/
  changes : List (Nat × List Value)

namespace Memory

/-- The memory at the start. -/
def initial : Memory := ⟨Value.dataTag + 1, [], [], []⟩

/-- The names kept in a cell. -/
def cell (m : Memory) (id : Nat) : List (String × Value) := (m.cells.lookup id).getD []

/-- The fields of a record in the order of their names. -/
def fields (m : Memory) (id : Nat) : List (String × Value) := (m.records.lookup id).getD []

/-- Writes a field into fields that are sorted by name. -/
def insertField (name : String) (v : Value) : List (String × Value) → List (String × Value)
  | [] => [(name, v)]
  | (k, w) :: rest =>
    if name = k then (name, v) :: rest
    else if name < k then (name, v) :: (k, w) :: rest
    else (k, w) :: insertField name v rest

/-- How deep inside a value records are looked for. -/
def recordDepth : Nat := 12

/-- A value whose records have their present fields, down to some depth. -/
def refreshed (m : Memory) : (depth : Nat) → Value → Value
  | depth + 1, .list vs shape tag => .list (vs.map (m.refreshed depth)) shape tag
  | depth + 1, .map es tag => .map (es.map fun (k, v) => (k, m.refreshed depth v)) tag
  | depth + 1, .record id _ => .record id ((m.fields id).map fun (k, v) => (k, m.refreshed depth v))
  | _, v => v

/-- A value whose records have their present fields. -/
def refresh (m : Memory) (v : Value) : Value :=
  if m.records.isEmpty then v else m.refreshed recordDepth v

end Memory

/-- Evaluation: it reads and writes the memory, and it may fail. -/
abbrev Eval := StateT Memory (Except Fault)

namespace Eval

/-- A number that is not in use. -/
def fresh : Eval Nat := do
  let m ← get
  set { m with next := m.next + 1 }
  return m.next

/-- A value that is told apart from all others if it is a list or map that was just made. -/
def stamped : Value → Eval Value
  | .list vs shape 0 => do return .list vs shape (← fresh)
  | .map es 0 => do return .map es (← fresh)
  | v => return v

/-- The value with its records as they are now. -/
def current (v : Value) : Eval Value := do return (← get).refresh v

/-- A new record. -/
def newRecord (fields : List (String × Value)) : Eval Value := do
  let id ← fresh
  let fields := fields.foldl (fun fs (k, v) => Memory.insertField k v fs) []
  modify fun m => { m with records := (id, fields) :: m.records }
  return .record id fields

/-- Sets a field of a record. -/
def setField (id : Nat) (name : String) (v : Value) : Eval Unit := do
  let v ← stamped v
  modify fun m =>
    let fields := Memory.insertField name v (m.fields id)
    { m with records := m.records.map fun e => if e.1 = id then (id, fields) else e }

/-- Whether the arguments differ from those that a loop has seen last. -/
def changed (loop : Nat) (args : List Value) : Eval Bool := do
  let m ← get
  let same := match m.changes.lookup loop with
    | some seen => Value.eqItems seen args
    | none => false
  if same then return false
  set { m with changes := (loop, args) :: m.changes.filter fun e => e.1 ≠ loop }
  return true

end Eval

namespace Scope

/-- How many frames there may be, where a macro counts as several. -/
def depthLimit : Nat := 500

/-- How many frames a macro counts as, besides its own. -/
def macroCost : Nat := 5

/-- How many frames there are. -/
def depth (s : Scope) : Nat := s.outer + s.frames.length

/-- The functions that every template knows. -/
def builtin? (name : String) : Option Value :=
  if ["range", "dict", "namespace", "debug"].contains name then some (.builtin name) else none

/-- The value that a name has behind the frames. -/
def inBase? (m : Memory) (name : String) : Base → Option Value
  | .data context => context.item? (.ofText name)
  | .closure cell visible =>
    match (m.cell cell).lookup name with
    | some v => some v
    | none => visible.lookup name

/-- The value of a name: of the innermost frame that has it, of what lies behind the frames, or a
known function. -/
def find? (m : Memory) (s : Scope) (name : String) : Option Value :=
  match s.frames.findSome? (·.find? name) with
  | some v => some v
  | none =>
    match inBase? m name s.base with
    | some v => some v
    | none => builtin? name

/-- The names behind the frames with their values. -/
def baseNames (m : Memory) : Base → List (String × Value)
  | .data context =>
    ((context.entries?).getD []).filterMap fun (k, v) => k.asText?.map fun name => (name, v)
  | .closure cell visible => m.cell cell ++ visible

/-- All names with their values, those that hide others first. -/
def visible (m : Memory) (s : Scope) : List (String × Value) :=
  s.frames.flatMap Frame.visible ++ baseNames m s.base

/-- The value of a name. -/
def read? (s : Scope) (name : String) : Eval (Option Value) := do
  let m ← get
  return (s.find? m name).map m.refresh

/-- The loop around. -/
def loop? (s : Scope) : Option LoopState := s.frames.findSome? (·.loop)

/-- The scope with a further frame. -/
def push (s : Scope) (f : Frame) : Eval Scope :=
  let s := { s with frames := f :: s.frames }
  if depthLimit < s.depth then throw .invalidOperation else return s

/-- The scope without its innermost frame. -/
def pop (s : Scope) : Scope := { s with frames := s.frames.tail }

/-- The scope with another innermost frame. -/
def withFrame (s : Scope) (f : Frame) : Scope := { s with frames := f :: s.frames.tail }

/-- The innermost frame. -/
def top (s : Scope) : Frame := s.frames.head?.getD .empty

/-- The scope with a name set in its innermost frame, where macros that were defined there see it
as well. -/
def assignName (s : Scope) (name : String) (v : Value) : Eval Scope := do
  let v ← Eval.stamped v
  match s.top.cell with
  | some id => modify fun m => { m with cells := m.cells.map fun e =>
      if e.1 = id then (id, (name, v) :: e.2) else e }
  | none => pure ()
  return s.withFrame { s.top with names := (name, v) :: s.top.names }

/-- The scope whose innermost frame has a cell, and that cell. -/
def withCell (s : Scope) : Eval (Scope × Nat) :=
  match s.top.cell with
  | some id => return (s, id)
  | none => do
    let id ← Eval.fresh
    modify fun m => { m with cells := (id, []) :: m.cells }
    return (s.withFrame { s.top with cell := some id }, id)

/-- A macro that sees the names of the scope, and the scope with a cell for it. -/
def enclose (s : Scope) (t : MacroText) : Eval (Scope × Value) := do
  let seen := s.visible (← get)
  let (s, cell) ← s.withCell
  return (s, .routine t (← Eval.fresh) cell seen)

/-- The text that a value is written as. -/
def written (s : Scope) (v : Value) : Except Fault String :=
  (v.present s.strict).map fun v => if s.escapes then v.markup else v.printed

/-- An output as a value; it is safe inside markup where output is made so. -/
def captured (s : Scope) (output : String) : Value := .text output s.escapes

end Scope

end Converge.Template
