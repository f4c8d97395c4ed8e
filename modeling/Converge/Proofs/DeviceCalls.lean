import Converge.Proofs.RunCourse

/-!
# What a run asks of a device

Facts are read from the output of one command of a device that may answer anything and fail at any
call. The calls of a run are those of its steps: a gathering step reads, and a pushing step edits
(`course_of_recording`), so the call discipline of a run is read off its course. A history runs
requests one after the other on one device, and every run of a history keeps the discipline.
-/

namespace Converge.Run

variable {ω : Type}

/-! ## Recorded runs -/

/-- The call that a step makes where facts are read from the output of a command. -/
def Step.call (command : String) : Step → Call
  | .gather => .get command
  | .push commands => .edit commands

section

variable {t : RuleTable} {command : String} {d : Device ω}

/-- Reading facts of a recorded device writes down one reading call. -/
theorem run_live_recording (t : RuleTable) (command : String) (d : Device ω) (name : String)
    (calls : List Call) (s : ω) :
    ((FactSource.ofTable t command).live d.recording name).run (calls, s) =
      ((((FactSource.ofTable t command).live d name).run s).1, calls ++ [.get command],
        (((FactSource.ofTable t command).live d name).run s).2) := by
  simp only [FactSource.ofTable, Session.run_bind, Device.run_recording_get]
  rcases (d.get command).run s with ⟨f | output, s₁⟩ <;> simp

/-- A device that shows some text is read as the text is. -/
theorem run_live_of_output {output : String} {s s' : ω}
    (hget : (d.get command).run s = (.ok output, s')) (name : String) :
    ((FactSource.ofTable t command).live d name).run s =
      (FactSource.ofOutput t name output, s') := by
  rw [FactSource.ofTable, Session.run_bind_ok hget, Session.run_lift]

theorem run_offline (t : RuleTable) (command name output : String) (s : ω) :
    ((FactSource.ofTable t command).offline name output).run s =
      (FactSource.ofOutput t name output, s) :=
  Session.run_lift _ _

theorem offline_of_recording {name output : String} {calls calls' : List Call} {s s' : ω}
    {result : Except Failure Gathered}
    (h : ((FactSource.ofTable t command).offline name output).run (calls, s) =
      (result, calls', s')) :
    ((FactSource.ofTable t command).offline name output).run s = (result, s') ∧ calls' = calls := by
  rw [run_offline] at h ⊢
  cases h
  exact ⟨rfl, rfl⟩

theorem live_of_recording {name : String} {calls calls' : List Call} {s s' : ω}
    {result : Except Failure Gathered}
    (h : ((FactSource.ofTable t command).live d.recording name).run (calls, s) =
      (result, calls', s')) :
    ((FactSource.ofTable t command).live d name).run s = (result, s') ∧
      calls' = calls ++ [.get command] := by
  rw [run_live_recording] at h
  cases h
  exact ⟨rfl, rfl⟩

theorem edit_of_recording {commands : List String} {calls calls' : List Call} {s s' : ω}
    {result : Except Failure Unit}
    (h : (d.recording.edit commands).run (calls, s) = (result, calls', s')) :
    (d.edit commands).run s = (result, s') ∧ calls' = calls ++ [.edit commands] := by
  rw [Device.run_recording_edit] at h
  cases h
  exact ⟨rfl, rfl⟩

variable {o : Options} {r : Resource} {q : Request}

/-- A change of a recorded device is one of the device itself, with the calls of its steps. -/
theorem changeCourse_of_recording {calls calls' : List Call} {s s' : ω}
    {result : Except Failure Outcome} {steps : List Step}
    (h : ChangeCourse o r q (FactSource.ofTable t command) d.recording (calls, s) result steps
      (calls', s')) :
    ChangeCourse o r q (FactSource.ofTable t command) d s result steps s' ∧
      calls' = calls ++ steps.map (Step.call command) := by
  cases h with
  | notGathered hg =>
    obtain ⟨hlive, hs⟩ := live_of_recording hg
    exact ⟨.notGathered hlive, hs⟩
  | notGenerated hg hc =>
    obtain ⟨hlive, hs⟩ := live_of_recording hg
    exact ⟨.notGenerated hlive hc, hs⟩
  | settled hg hc =>
    obtain ⟨hlive, hs⟩ := live_of_recording hg
    exact ⟨.settled hlive hc, hs⟩
  | checked hg hc hne hm =>
    obtain ⟨hlive, hs⟩ := live_of_recording hg
    exact ⟨.checked hlive hc hne hm, hs⟩
  | notPushed hg hc hne hm hp =>
    obtain ⟨hlive, hs₁⟩ := live_of_recording hg
    obtain ⟨hedit, hs₂⟩ := edit_of_recording hp
    exact ⟨.notPushed hlive hc hne hm hedit, by simp [hs₂, hs₁, Step.call]⟩
  | notReread hg hc hne hm hp hg' =>
    obtain ⟨hlive, hs₁⟩ := live_of_recording hg
    obtain ⟨hedit, hs₂⟩ := edit_of_recording hp
    obtain ⟨hagain, hs₃⟩ := live_of_recording hg'
    exact ⟨.notReread hlive hc hne hm hedit hagain, by simp [hs₃, hs₂, hs₁, Step.call]⟩
  | pushed hg hc hne hm hp hg' =>
    obtain ⟨hlive, hs₁⟩ := live_of_recording hg
    obtain ⟨hedit, hs₂⟩ := edit_of_recording hp
    obtain ⟨hagain, hs₃⟩ := live_of_recording hg'
    exact ⟨.pushed hlive hc hne hm hedit hagain, by simp [hs₃, hs₂, hs₁, Step.call]⟩

/-- A run with a recorded device is a run with the device itself, with the calls of its steps. -/
theorem course_of_recording {device : Option (Device ω)} {calls calls' : List Call} {s s' : ω}
    {result : Except Failure Outcome} {steps : List Step}
    (h : Course o r q (FactSource.ofTable t command) (device.map Device.recording) (calls, s)
      result steps (calls', s')) :
    Course o r q (FactSource.ofTable t command) device s result steps s' ∧
      calls' = calls ++ steps.map (Step.call command) := by
  have hsome : (device.map Device.recording).isSome = device.isSome := Option.isSome_map
  cases h with
  | refused hf => exact ⟨.refused (hsome ▸ hf), by simp⟩
  | notParsed hf hs hg =>
    obtain ⟨hoff, hcalls⟩ := offline_of_recording hg
    exact ⟨.notParsed (hsome ▸ hf) hs hoff, by simp [hcalls]⟩
  | parsed hf hs hg =>
    obtain ⟨hoff, hcalls⟩ := offline_of_recording hg
    exact ⟨.parsed (hsome ▸ hf) hs hoff, by simp [hcalls]⟩
  | notRendered hf hs hc => exact ⟨.notRendered (hsome ▸ hf) hs hc, by simp⟩
  | rendered hf hs hc => exact ⟨.rendered (hsome ▸ hf) hs hc, by simp⟩
  | notGathered hf hd hs hg =>
    obtain ⟨d, rfl, rfl⟩ := Option.map_eq_some_iff.mp hd
    obtain ⟨hlive, hcalls⟩ := live_of_recording hg
    exact ⟨.notGathered hf rfl hs hlive, hcalls⟩
  | gathered hf hd hs hg =>
    obtain ⟨d, rfl, rfl⟩ := Option.map_eq_some_iff.mp hd
    obtain ⟨hlive, hcalls⟩ := live_of_recording hg
    exact ⟨.gathered hf rfl hs hlive, hcalls⟩
  | changed hf hd hs hc =>
    obtain ⟨d, rfl, rfl⟩ := Option.map_eq_some_iff.mp hd
    obtain ⟨hchange, hcalls⟩ := changeCourse_of_recording hc
    exact ⟨.changed hf rfl hs hchange, hcalls⟩

end

/-! ## Steps of a course -/

section

variable {o : Options} {r : Resource} {q : Request} {source : FactSource ω} {s s' : ω}
  {result : Except Failure Outcome} {steps : List Step}

/-- The commands of a change are determined by the state that it starts from. -/
theorem generated_unique {device : Device ω} {g g' : Gathered} {commands commands' : List String}
    {s₁ s₂ : ω} (hg : (source.live device r.name).run s = (.ok g, s₁))
    (hc : r.generate q.state q.want (factsOr o g) = .ok commands)
    (hg' : (source.live device r.name).run s = (.ok g', s₂))
    (hc' : r.generate q.state q.want (factsOr o g') = .ok commands') : commands = commands' := by
  rw [hg] at hg'
  cases hg'
  rw [hc] at hc'
  exact Except.ok.inj hc'

/-- Facts that were gathered and commands that were generated for them are pushed, unless there are
none or the run only checks. -/
theorem push_mem_of_changeCourse {device : Device ω} {g : Gathered} {commands : List String}
    {s₁ : ω}
    (h : ChangeCourse o r q source device s result steps s') (hm : o.checkMode = false)
    (hg : (source.live device r.name).run s = (.ok g, s₁))
    (hc : r.generate q.state q.want (factsOr o g) = .ok commands) (hne : commands ≠ []) :
    Step.push commands ∈ steps := by
  cases h with
  | notGathered hg' =>
    rw [hg] at hg'
    cases hg'
  | notGenerated hg' hc' =>
    rw [hg] at hg'
    cases hg'
    rw [hc] at hc'
    cases hc'
  | settled hg' hc' => exact absurd (generated_unique hg hc hg' hc') hne
  | checked _ _ _ hm' =>
    rw [hm] at hm'
    cases hm'
  | notPushed hg' hc' => simp [generated_unique hg hc hg' hc']
  | notReread hg' hc' => simp [generated_unique hg hc hg' hc']
  | pushed hg' hc' => simp [generated_unique hg hc hg' hc']

/-- What is pushed was generated for facts that were gathered, and the run does not only check. -/
theorem generated_of_push_mem {device : Device ω} {commands : List String}
    (h : ChangeCourse o r q source device s result steps s') (hp : Step.push commands ∈ steps) :
    o.checkMode = false ∧ ∃ g s₁, (source.live device r.name).run s = (.ok g, s₁) ∧
      r.generate q.state q.want (factsOr o g) = .ok commands ∧ commands ≠ [] := by
  cases h with
  | notGathered _ => simp at hp
  | notGenerated _ _ => simp at hp
  | settled _ _ => simp at hp
  | checked _ _ _ _ => simp at hp
  | notPushed hg hc hne hm _ =>
    obtain rfl : commands = _ := by simpa using hp
    exact ⟨hm, _, _, hg, hc, hne⟩
  | notReread hg hc hne hm _ _ =>
    obtain rfl : commands = _ := by simpa using hp
    exact ⟨hm, _, _, hg, hc, hne⟩
  | pushed hg hc hne hm _ _ =>
    obtain rfl : commands = _ := by simpa using hp
    exact ⟨hm, _, _, hg, hc, hne⟩

/-- Commands are pushed exactly in a change that does not only check, whose facts were gathered and
whose commands were generated, when there are any. -/
theorem push_mem_iff {device : Option (Device ω)} {commands : List String}
    (h : Course o r q source device s result steps s') :
    Step.push commands ∈ steps ↔
      q.state.isAction = true ∧ o.checkMode = false ∧ q.fault? device.isSome = none ∧
        ∃ d g s₁, device = some d ∧ (source.live d r.name).run s = (.ok g, s₁) ∧
          r.generate q.state q.want (factsOr o g) = .ok commands ∧ commands ≠ [] := by
  cases h with
  | refused hf => simp [hf]
  | notParsed _ hs _ => simp [hs, State.isAction]
  | parsed _ hs _ => simp [hs, State.isAction]
  | notRendered _ hs _ => simp [hs, State.isAction]
  | rendered _ hs _ => simp [hs, State.isAction]
  | notGathered _ _ hs _ => simp [hs, State.isAction]
  | gathered _ _ hs _ => simp [hs, State.isAction]
  | @changed d _ _ _ hf hd ha hc =>
    constructor
    · intro hp
      obtain ⟨hm, g, s₁, hg, hgen, hne⟩ := generated_of_push_mem hc hp
      exact ⟨ha, hm, hf, d, g, s₁, hd, hg, hgen, hne⟩
    · rintro ⟨-, hm, -, d', g, s₁, hd', hg, hgen, hne⟩
      obtain rfl : d = d' := Option.some.inj (hd.symm.trans hd')
      exact push_mem_of_changeCourse hc hm hg hgen hne

/-- The steps of a run: none, or gathering with perhaps a push and gathering again behind it. -/
theorem steps_of_course {device : Option (Device ω)}
    (h : Course o r q source device s result steps s') :
    steps = [] ∨ steps = [.gather] ∨ ∃ commands,
      steps = [.gather, .push commands] ∨ steps = [.gather, .push commands, .gather] := by
  cases h with
  | changed _ _ _ hc => cases hc <;> simp
  | _ => simp

/-- A change that succeeds reports the facts it gathered, the commands that were generated for them
and whether there were any. It has facts afterwards exactly when there were; where the run only
checks they are those before. -/
theorem report_of_changeCourse {device : Device ω} {outcome : Outcome}
    (h : ChangeCourse o r q source device s (.ok outcome) steps s') :
    ∃ g s₁ commands, (source.live device r.name).run s = (.ok g, s₁) ∧
      r.generate q.state q.want (factsOr o g) = .ok commands ∧
      outcome.commands = some commands ∧ outcome.before = some (factsOr o g) ∧
      outcome.changed = some (!commands.isEmpty) ∧
      outcome.after.isSome = !commands.isEmpty ∧
      (∀ pushed, Step.push pushed ∈ steps → pushed = commands) ∧
      (o.checkMode = true → ∀ after, outcome.after = some after → after = factsOr o g) := by
  cases h with
  | settled hg hc =>
    refine ⟨_, _, _, hg, hc, rfl, rfl, rfl, rfl, by simp, ?_⟩
    intro _ after hafter
    cases hafter
  | checked hg hc hne hm =>
    refine ⟨_, _, _, hg, hc, rfl, rfl, rfl, by simp [hne], by simp, ?_⟩
    intro _ after hafter
    cases hafter
    rfl
  | pushed hg hc hne hm hp hg' =>
    refine ⟨_, _, _, hg, hc, rfl, rfl, rfl, by simp [hne], by simp, ?_⟩
    intro hcheck
    rw [hm] at hcheck
    cases hcheck

/-- A run that fails behind a push fails in the push itself or in gathering again. -/
theorem failure_of_push_mem {device : Device ω} {f : Failure} {commands : List String}
    (h : ChangeCourse o r q source device s (.error f) steps s')
    (hp : Step.push commands ∈ steps) :
    ∃ g s₁, (source.live device r.name).run s = (.ok g, s₁) ∧
      ((device.edit commands).run s₁ = (.error f, s') ∨
        ∃ s₂, (device.edit commands).run s₁ = (.ok (), s₂) ∧
          (source.live device r.name).run s₂ = (.error f, s')) := by
  cases h with
  | notGathered _ => simp at hp
  | notGenerated _ _ => simp at hp
  | notPushed hg _ _ _ hedit =>
    obtain rfl : commands = _ := by simpa using hp
    exact ⟨_, _, hg, Or.inl hedit⟩
  | notReread hg _ _ _ hedit hg' =>
    obtain rfl : commands = _ := by simpa using hp
    exact ⟨_, _, hg, Or.inr ⟨_, hedit, hg'⟩⟩

/-- Only changes push. -/
theorem change_of_push_mem {device : Option (Device ω)} {commands : List String}
    (h : Course o r q source device s result steps s') (hp : Step.push commands ∈ steps) :
    ∃ d, device = some d ∧ ChangeCourse o r q source d s result steps s' := by
  cases h with
  | changed _ hd _ hc => exact ⟨_, hd, hc⟩
  | _ => simp at hp

/-- A run in a state that changes is refused or is a change. -/
theorem change_of_isAction {device : Option (Device ω)}
    (h : Course o r q source device s result steps s') (ha : q.state.isAction = true) :
    (∃ f, result = .error f ∧ steps = []) ∨
      ∃ d, device = some d ∧ ChangeCourse o r q source d s result steps s' := by
  cases h with
  | refused _ => exact Or.inl ⟨_, rfl, rfl⟩
  | notParsed _ hs _ => simp [hs, State.isAction] at ha
  | parsed _ hs _ => simp [hs, State.isAction] at ha
  | notRendered _ hs _ => simp [hs, State.isAction] at ha
  | rendered _ hs _ => simp [hs, State.isAction] at ha
  | notGathered _ _ hs _ => simp [hs, State.isAction] at ha
  | gathered _ _ hs _ => simp [hs, State.isAction] at ha
  | changed _ hd _ hc => exact Or.inr ⟨_, hd, hc⟩

/-- Without a device there is no step. -/
theorem steps_of_unconnected (h : Course o r q source none s result steps s') : steps = [] := by
  cases h with
  | notGathered _ hd _ _ => cases hd
  | gathered _ hd _ _ => cases hd
  | changed _ hd _ _ => cases hd
  | _ => rfl

theorem steps_of_offline {device : Option (Device ω)}
    (h : Course o r q source device s result steps s')
    (hs : q.state = .parsed ∨ q.state = .rendered) : steps = [] := by
  cases h with
  | notGathered _ _ hg _ => simp [hg] at hs
  | gathered _ _ hg _ => simp [hg] at hs
  | changed _ _ ha _ => rcases hs with hs | hs <;> simp [hs, State.isAction] at ha
  | _ => rfl

/-- Gathering never faults with a device at hand, and is one step. -/
theorem steps_of_gathered {d : Device ω} (h : Course o r q source (some d) s result steps s')
    (hs : q.state = .gathered) : steps = [.gather] := by
  cases h with
  | refused hf =>
    rw [Option.isSome_some, Request.fault?_of_gathered hs] at hf
    cases hf
  | notParsed _ hp _ => simp [hs] at hp
  | parsed _ hp _ => simp [hs] at hp
  | notRendered _ hr _ => simp [hs] at hr
  | rendered _ hr _ => simp [hs] at hr
  | changed _ _ ha _ => simp [hs, State.isAction] at ha
  | _ => rfl

end

/-! ## Histories -/

/-- One run of a history as it looks from the device. -/
structure Seen (ω : Type) where
  request : Request
  /-- Whether the run has the device. -/
  connected : Bool
  before : ω
  result : Except Failure Outcome
  calls : List Call
  after : ω

section

variable (o : Options) (r : Resource) (t : RuleTable) (command : String) (d : Device ω)

/-- The device, or none. -/
def link (connected : Bool) : Option (Device ω) := if connected then some d else none

/-- One run, with the calls that the device gets. -/
def observe (q : Request) (connected : Bool) (s : ω) : Seen ω :=
  let ran := (run o r q (FactSource.ofTable t command)
    ((link d connected).map Device.recording)).run ([], s)
  ⟨q, connected, s, ran.1, ran.2.1, ran.2.2⟩

/-- Runs of one request after the other, each from the state of the device that the last one
left. -/
def history : List (Request × Bool) → ω → List (Seen ω)
  | [], _ => []
  | (q, connected) :: rest, s =>
    let seen := observe o r t command d q connected s
    seen :: history rest seen.after

/-- Whether a call changes the configuration. -/
def isEdit : Call → Bool
  | .edit _ => true
  | .get _ => false

/-- The call discipline of one run. -/
structure Disciplined (seen : Seen ω) : Prop where
  /-- Writing down the calls changes nothing. -/
  unobserved : (run o r seen.request (FactSource.ofTable t command)
    (link d seen.connected)).run seen.before = (seen.result, seen.after)
  shape : seen.calls = [] ∨ seen.calls = [.get command] ∨ ∃ commands,
    seen.calls = [.get command, .edit commands] ∨
    seen.calls = [.get command, .edit commands, .get command]
  edits_le_one : seen.calls.countP isEdit ≤ 1
  edit_iff : ∀ commands, .edit commands ∈ seen.calls ↔
    seen.request.state.isAction = true ∧ o.checkMode = false ∧
      seen.request.fault? seen.connected = none ∧
      ∃ g s₁, ((FactSource.ofTable t command).live d r.name).run seen.before = (.ok g, s₁) ∧
        r.generate seen.request.state seen.request.want (factsOr o g) = .ok commands ∧
        commands ≠ []
  unconnected : seen.connected = false → seen.calls = []
  offline : seen.request.state = .parsed ∨ seen.request.state = .rendered → seen.calls = []
  gathered : seen.request.state = .gathered → seen.connected = true →
    seen.calls = [.get command]
  success : seen.request.state.isAction = true → ∀ outcome, seen.result = .ok outcome →
    ∃ g s₁ commands,
      ((FactSource.ofTable t command).live d r.name).run seen.before = (.ok g, s₁) ∧
      r.generate seen.request.state seen.request.want (factsOr o g) = .ok commands ∧
      outcome.commands = some commands ∧ outcome.before = some (factsOr o g) ∧
      outcome.changed = some (!commands.isEmpty) ∧
      outcome.after.isSome = !commands.isEmpty ∧
      (∀ pushed, .edit pushed ∈ seen.calls → pushed = commands) ∧
      (o.checkMode = true → ∀ after, outcome.after = some after → after = factsOr o g)
  failure : ∀ f commands, seen.result = .error f → .edit commands ∈ seen.calls →
    ∃ g s₁, ((FactSource.ofTable t command).live d r.name).run seen.before = (.ok g, s₁) ∧
      ((d.edit commands).run s₁ = (.error f, seen.after) ∨
        ∃ s₂, (d.edit commands).run s₁ = (.ok (), s₂) ∧
          ((FactSource.ofTable t command).live d r.name).run s₂ = (.error f, seen.after))

variable {o r t command d}

theorem edit_mem_iff {steps : List Step} {commands : List String} :
    Call.edit commands ∈ steps.map (Step.call command) ↔ Step.push commands ∈ steps := by
  rw [List.mem_map]
  constructor
  · rintro ⟨_ | pushed, hmem, heq⟩
    · cases heq
    · cases heq
      exact hmem
  · intro h
    exact ⟨_, h, rfl⟩

@[simp]
theorem isSome_link (connected : Bool) : (link d connected).isSome = connected := by
  cases connected <;> rfl

theorem eq_of_link {connected : Bool} {d' : Device ω} (h : link d connected = some d') :
    d = d' := by
  cases connected with
  | true => exact Option.some.inj h
  | false => cases h

theorem link_of_noFault {q : Request} {connected : Bool} (h : q.fault? connected = none)
    (ha : q.state.isAction = true) : link d connected = some d := by
  have hcon := (Request.fault?_eq_none_iff.mp h).2.2 (by simp [State.contactsDevice, ha])
  rw [hcon]
  rfl

/-- An observed run takes a course of the device itself, and its calls are those of the steps. -/
theorem course_of_observe {q : Request} {connected : Bool} {s : ω} {seen : Seen ω}
    (h : observe o r t command d q connected s = seen) :
    ∃ steps, Course o r seen.request (FactSource.ofTable t command) (link d seen.connected)
        seen.before seen.result steps seen.after ∧
      seen.calls = steps.map (Step.call command) := by
  subst h
  have hran : (run o r q (FactSource.ofTable t command)
      ((link d connected).map Device.recording)).run ([], s) =
        ((observe o r t command d q connected s).result,
          (observe o r t command d q connected s).calls,
          (observe o r t command d q connected s).after) := rfl
  obtain ⟨steps, hcourse⟩ := exists_course hran
  obtain ⟨hplain, hcalls⟩ := course_of_recording hcourse
  exact ⟨steps, hplain, hcalls⟩

/-- One run keeps the discipline. -/
theorem disciplined_observe (q : Request) (connected : Bool) (s : ω) :
    Disciplined o r t command d (observe o r t command d q connected s) := by
  generalize hseen : observe o r t command d q connected s = seen
  obtain ⟨steps, hcourse, hcalls⟩ := course_of_observe hseen
  constructor
  case unobserved => exact run_of_course hcourse
  case shape =>
    rw [hcalls]
    rcases steps_of_course hcourse with rfl | rfl | ⟨commands, rfl | rfl⟩ <;> simp [Step.call]
  case edits_le_one =>
    rw [hcalls]
    rcases steps_of_course hcourse with rfl | rfl | ⟨commands, rfl | rfl⟩ <;>
      simp [Step.call, isEdit, List.countP_cons]
  case edit_iff =>
    intro commands
    rw [hcalls, edit_mem_iff, push_mem_iff hcourse, isSome_link]
    constructor
    · rintro ⟨ha, hm, hf, d', g, s₁, hd, hg, hc, hne⟩
      obtain rfl := eq_of_link hd
      exact ⟨ha, hm, hf, g, s₁, hg, hc, hne⟩
    · rintro ⟨ha, hm, hf, g, s₁, hg, hc, hne⟩
      exact ⟨ha, hm, hf, d, g, s₁, link_of_noFault hf ha, hg, hc, hne⟩
  case unconnected =>
    intro hcon
    rw [hcon] at hcourse
    rw [hcalls, steps_of_unconnected hcourse]
    rfl
  case offline =>
    intro hs
    rw [hcalls, steps_of_offline hcourse hs]
    rfl
  case gathered =>
    intro hs hcon
    rw [hcon] at hcourse
    rw [hcalls, steps_of_gathered hcourse hs]
    rfl
  case success =>
    intro ha outcome hok
    rw [hok] at hcourse
    rcases change_of_isAction hcourse ha with ⟨f, hf, -⟩ | ⟨d', hd, hchange⟩
    · cases hf
    · obtain rfl := eq_of_link hd
      obtain ⟨g, s₁, commands, hg, hc, hcommands, hbefore, hchanged, hafter, hpush, hcheck⟩ :=
        report_of_changeCourse hchange
      refine ⟨g, s₁, commands, hg, hc, hcommands, hbefore, hchanged, hafter, ?_, hcheck⟩
      intro pushed hmem
      rw [hcalls, edit_mem_iff] at hmem
      exact hpush pushed hmem
  case failure =>
    intro f commands herr hmem
    rw [hcalls, edit_mem_iff] at hmem
    rw [herr] at hcourse
    obtain ⟨d', hd, hchange⟩ := change_of_push_mem hcourse hmem
    obtain rfl := eq_of_link hd
    exact failure_of_push_mem hchange hmem

/-- A history has one run for each request. -/
theorem requests_of_history (jobs : List (Request × Bool)) (s : ω) :
    (history o r t command d jobs s).map (fun seen => (seen.request, seen.connected)) = jobs := by
  induction jobs generalizing s with
  | nil => rfl
  | cons job rest ih => exact congrArg (job :: ·) (ih _)

/-- **Every run of every history keeps the call discipline**, whatever the device answers and
wherever it fails. -/
theorem disciplined_history (o : Options) (r : Resource) (t : RuleTable) (command : String)
    (d : Device ω) (jobs : List (Request × Bool)) (s : ω) :
    (history o r t command d jobs s).map (fun seen => (seen.request, seen.connected)) = jobs ∧
      ∀ seen ∈ history o r t command d jobs s, Disciplined o r t command d seen := by
  refine ⟨requests_of_history jobs s, ?_⟩
  induction jobs generalizing s with
  | nil => exact fun seen h => nomatch h
  | cons job rest ih =>
    intro seen hseen
    rcases List.mem_cons.mp hseen with rfl | hrest
    · exact disciplined_observe job.1 job.2 s
    · exact ih _ seen hrest

end

end Converge.Run
