import Converge.Device

/-!
# Resources and their runs

A resource is run in a state: its current facts are gathered, the commands that lead to the wanted
configuration are generated and, unless the run only checks, pushed. What is wrong with a request is
found before the device or the source of facts is asked.
-/

namespace Converge

/-- A resource of a device. -/
structure Resource where
  name : String
  /-- The commands that lead from current facts to wanted ones. -/
  generate : State → (want current : Tree) → Except Failure (List String)

namespace Resource

/-- The commands of named rules: removal of all that is there when something is deleted, and
otherwise the way to the wanted tree, which in the merged state is laid over the current one. -/
def compared (d : Dialect) (names : List String) (state : State) (want current : Tree) :
    Except Failure (List String) :=
  match state with
  | .deleted => Comparison.commands d names .empty current
  | .purged => Comparison.commands d names .empty current
  | .merged => Comparison.commands d names (current.merged want) current
  | _ => Comparison.commands d names want current

/-- The resource that named rules of a dialect describe. -/
def ofRules (name : String) (d : Dialect) (names : List String) : Resource :=
  ⟨name, compared d names⟩

/-- The resource that all rules with commands describe. -/
def ofDialect (name : String) (d : Dialect) : Resource := ofRules name d d.table.commandRules

end Resource

/-- What is asked of one run. -/
structure Request where
  state : State
  /-- The wanted configuration. -/
  config : Option Tree
  /-- Captured output of a device. -/
  runningConfig : Option String

namespace Request

/-- The wanted configuration without its empty parts. -/
def want (q : Request) : Tree := (q.config.map Tree.withoutEmpties).getD .null

/-- The captured output, unless it is blank. -/
def output? (q : Request) : Option String := q.runningConfig.filter fun s => !Text.allBlank s

/-- What is wrong with a request, when the device is there or not. -/
def fault? (q : Request) (connected : Bool) : Option Failure :=
  if q.state.requiresWant && q.want.isEmpty then some (.emptyWant q.state)
  else if q.state = .parsed && q.output?.isNone then some .missingRunningConfig
  else if q.state.contactsDevice && !connected then some (.missingConnection q.state)
  else none

end Request

/-- How runs are made. -/
structure Options where
  /-- Whether commands are generated but not pushed. -/
  checkMode : Bool
  /-- The facts of a device that reports none. -/
  emptyFacts : Tree

/-- What a run found and did. -/
structure Outcome where
  commands : Option (List String)
  before : Option Tree
  after : Option Tree
  gathered : Option Tree
  parsed : Option Tree
  rendered : Option (List String)
  changed : Option Bool
  warnings : List String
deriving DecidableEq

namespace Outcome

/-- The outcome that says nothing yet. -/
def none : Outcome := ⟨.none, .none, .none, .none, .none, .none, .none, []⟩

/-- The entry of a field that is left out when it is absent. -/
def entry (name : String) : Option Tree → List (String × Tree)
  | .none => []
  | some t => [(name, t)]

/-- Texts as a tree. -/
def textList (ss : List String) : Tree := .list (ss.map .text)

/-- The tree that writes an outcome. -/
def encode (o : Outcome) : Tree :=
  .map (entry "commands" (o.commands.map textList) ++ entry "before" o.before ++
    entry "after" o.after ++ entry "gathered" o.gathered ++ entry "parsed" o.parsed ++
    entry "rendered" (o.rendered.map textList) ++ entry "changed" (o.changed.map .bool) ++
    [("warnings", textList o.warnings)])

end Outcome

/-! ### Runs -/

namespace Run

variable {ω : Type}

/-- The facts of a source, or those for a device that reports none. -/
def factsOr (o : Options) (g : Gathered) : Tree := if g.facts.isEmpty then o.emptyFacts else g.facts

/-- Gathers facts, generates commands and pushes them when there are any. Where nothing is pushed in
check mode, the facts afterwards are those before. -/
def change (o : Options) (r : Resource) (q : Request) (source : FactSource ω) (device : Device ω) :
    Session ω Outcome := do
  let g ← source.live device r.name
  let before := factsOr o g
  let commands ← liftM (r.generate q.state q.want before)
  let outcome : Outcome :=
    { Outcome.none with
      commands := some commands
      before := some before
      changed := some !commands.isEmpty
      warnings := g.warnings }
  if commands.isEmpty then return outcome
  else if o.checkMode then return { outcome with after := some before }
  else
    device.edit commands
    let g' ← source.live device r.name
    return { outcome with after := some (factsOr o g'), warnings := g.warnings ++ g'.warnings }

/-- One run of a resource. -/
def run (o : Options) (r : Resource) (q : Request) (source : FactSource ω)
    (device : Option (Device ω)) : Session ω Outcome :=
  match q.fault? device.isSome with
  | some f => throw f
  | none =>
    match q.state, device with
    | .parsed, _ => do
      let g ← source.offline r.name (q.output?.getD "")
      return { Outcome.none with parsed := some (factsOr o g), warnings := g.warnings }
    | .rendered, _ => do
      let commands ← liftM (r.generate q.state q.want o.emptyFacts)
      return { Outcome.none with rendered := some commands }
    | .gathered, some device => do
      let g ← source.live device r.name
      return { Outcome.none with
        gathered := some (factsOr o g), changed := some false, warnings := g.warnings }
    | _, some device => change o r q source device
    | state, none => throw (.missingConnection state)

end Run

end Converge
