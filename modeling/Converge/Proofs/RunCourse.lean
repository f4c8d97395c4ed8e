import Converge.Proofs.Sequencing
import Converge.Resource

/-!
# Courses of a run

All that a run can do, said once. `ChangeCourse` and `Course` have one constructor for each way that
a run can go: what it gives, the steps that it takes with the source of facts and the device, and
the state that it leaves. `run_iff_course` says that runs are exactly these, so what holds of every
course holds of every run, for every behaviour of the source and of the device.
-/

namespace Converge

/-- A request has no fault when it wants something where it must, brings output where it is to be
parsed, and has a device where it talks to one. -/
theorem Request.fault?_eq_none_iff {q : Request} {connected : Bool} :
    q.fault? connected = none ↔
      (q.state.requiresWant = true → q.want.isEmpty = false) ∧
      (q.state = .parsed → q.output?.isSome = true) ∧
      (q.state.contactsDevice = true → connected = true) := by
  unfold fault?
  simp only [← Option.not_isSome]
  generalize q.output?.isSome = brought
  cases q.state <;> cases q.want.isEmpty <;> cases brought <;> cases connected <;> decide

/-- Gathering has no fault where there is a device. -/
theorem Request.fault?_of_gathered {q : Request} (hs : q.state = .gathered) :
    q.fault? true = none := by
  rw [Request.fault?_eq_none_iff, hs]
  exact ⟨nofun, nofun, fun _ => rfl⟩

namespace Run

/-- A step of a run with its collaborators. -/
inductive Step where
  | gather
  | push (commands : List String)
deriving DecidableEq

/-- What a change reports of the facts it found and the commands it generated. -/
def report (o : Options) (g : Gathered) (commands : List String) : Outcome :=
  { Outcome.none with
    commands := some commands
    before := some (factsOr o g)
    changed := some !commands.isEmpty
    warnings := g.warnings }

section

variable {ω : Type} (o : Options) (r : Resource) (q : Request) (source : FactSource ω)

/-- The courses of a change. -/
inductive ChangeCourse (device : Device ω) (s : ω) :
    Except Failure Outcome → List Step → ω → Prop
  | notGathered {f : Failure} {s₁ : ω} :
      (source.live device r.name).run s = (.error f, s₁) →
      ChangeCourse device s (.error f) [.gather] s₁
  | notGenerated {g : Gathered} {f : Failure} {s₁ : ω} :
      (source.live device r.name).run s = (.ok g, s₁) →
      r.generate q.state q.want (factsOr o g) = .error f →
      ChangeCourse device s (.error f) [.gather] s₁
  | settled {g : Gathered} {s₁ : ω} :
      (source.live device r.name).run s = (.ok g, s₁) →
      r.generate q.state q.want (factsOr o g) = .ok [] →
      ChangeCourse device s (.ok (report o g [])) [.gather] s₁
  | checked {g : Gathered} {commands : List String} {s₁ : ω} :
      (source.live device r.name).run s = (.ok g, s₁) →
      r.generate q.state q.want (factsOr o g) = .ok commands → commands ≠ [] →
      o.checkMode = true →
      ChangeCourse device s (.ok { report o g commands with after := some (factsOr o g) })
        [.gather] s₁
  | notPushed {g : Gathered} {commands : List String} {f : Failure} {s₁ s₂ : ω} :
      (source.live device r.name).run s = (.ok g, s₁) →
      r.generate q.state q.want (factsOr o g) = .ok commands → commands ≠ [] →
      o.checkMode = false → (device.edit commands).run s₁ = (.error f, s₂) →
      ChangeCourse device s (.error f) [.gather, .push commands] s₂
  | notReread {g : Gathered} {commands : List String} {f : Failure} {s₁ s₂ s₃ : ω} :
      (source.live device r.name).run s = (.ok g, s₁) →
      r.generate q.state q.want (factsOr o g) = .ok commands → commands ≠ [] →
      o.checkMode = false → (device.edit commands).run s₁ = (.ok (), s₂) →
      (source.live device r.name).run s₂ = (.error f, s₃) →
      ChangeCourse device s (.error f) [.gather, .push commands, .gather] s₃
  | pushed {g g' : Gathered} {commands : List String} {s₁ s₂ s₃ : ω} :
      (source.live device r.name).run s = (.ok g, s₁) →
      r.generate q.state q.want (factsOr o g) = .ok commands → commands ≠ [] →
      o.checkMode = false → (device.edit commands).run s₁ = (.ok (), s₂) →
      (source.live device r.name).run s₂ = (.ok g', s₃) →
      ChangeCourse device s
        (.ok { report o g commands with
          after := some (factsOr o g'), warnings := g.warnings ++ g'.warnings })
        [.gather, .push commands, .gather] s₃

/-- The courses of a run, with a device or without one. -/
inductive Course (device : Option (Device ω)) (s : ω) :
    Except Failure Outcome → List Step → ω → Prop
  | refused {f : Failure} : q.fault? device.isSome = some f → Course device s (.error f) [] s
  | notParsed {f : Failure} {s₁ : ω} : q.fault? device.isSome = none → q.state = .parsed →
      (source.offline r.name (q.output?.getD "")).run s = (.error f, s₁) →
      Course device s (.error f) [] s₁
  | parsed {g : Gathered} {s₁ : ω} : q.fault? device.isSome = none → q.state = .parsed →
      (source.offline r.name (q.output?.getD "")).run s = (.ok g, s₁) →
      Course device s
        (.ok { Outcome.none with parsed := some (factsOr o g), warnings := g.warnings }) [] s₁
  | notRendered {f : Failure} : q.fault? device.isSome = none → q.state = .rendered →
      r.generate q.state q.want o.emptyFacts = .error f → Course device s (.error f) [] s
  | rendered {commands : List String} : q.fault? device.isSome = none → q.state = .rendered →
      r.generate q.state q.want o.emptyFacts = .ok commands →
      Course device s (.ok { Outcome.none with rendered := some commands }) [] s
  | notGathered {d : Device ω} {f : Failure} {s₁ : ω} : q.fault? device.isSome = none →
      device = some d → q.state = .gathered →
      (source.live d r.name).run s = (.error f, s₁) → Course device s (.error f) [.gather] s₁
  | gathered {d : Device ω} {g : Gathered} {s₁ : ω} : q.fault? device.isSome = none →
      device = some d → q.state = .gathered →
      (source.live d r.name).run s = (.ok g, s₁) →
      Course device s
        (.ok { Outcome.none with
          gathered := some (factsOr o g), changed := some false, warnings := g.warnings })
        [.gather] s₁
  | changed {d : Device ω} {result : Except Failure Outcome} {steps : List Step} {s₁ : ω} :
      q.fault? device.isSome = none → device = some d → q.state.isAction = true →
      ChangeCourse o r q source d s result steps s₁ → Course device s result steps s₁

/-! ## Changes -/

/-- What is left of a change once its commands are generated. -/
def conclude (device : Device ω) (g : Gathered) (commands : List String) : Session ω Outcome := do
  if commands.isEmpty then return report o g commands
  else if o.checkMode then return { report o g commands with after := some (factsOr o g) }
  else
    device.edit commands
    let g' ← source.live device r.name
    return { report o g commands with
      after := some (factsOr o g'), warnings := g.warnings ++ g'.warnings }

theorem change_eq (device : Device ω) :
    change o r q source device = (do
      let g ← source.live device r.name
      let commands ← liftM (r.generate q.state q.want (factsOr o g))
      conclude o r source device g commands) := rfl

variable {o r q source}

theorem run_change_of_error {device : Device ω} {s s₁ : ω} {g : Gathered} {f : Failure}
    (hg : (source.live device r.name).run s = (.ok g, s₁))
    (hc : r.generate q.state q.want (factsOr o g) = .error f) :
    (change o r q source device).run s = (.error f, s₁) := by
  rw [change_eq, Session.run_bind_ok hg, hc]
  exact Session.run_bind_error (Session.run_lift _ _)

theorem run_change_of_ok {device : Device ω} {s s₁ : ω} {g : Gathered} {commands : List String}
    (hg : (source.live device r.name).run s = (.ok g, s₁))
    (hc : r.generate q.state q.want (factsOr o g) = .ok commands) :
    (change o r q source device).run s = (conclude o r source device g commands).run s₁ := by
  rw [change_eq, Session.run_bind_ok hg, hc]
  exact Session.run_bind_ok (Session.run_lift _ _)

theorem conclude_checked {device : Device ω} {g : Gathered} {commands : List String}
    (hne : commands ≠ []) (hm : o.checkMode = true) :
    conclude o r source device g commands =
      pure { report o g commands with after := some (factsOr o g) } := by
  have hfull : commands.isEmpty = false := by simpa using hne
  rw [conclude, if_neg (by simp [hfull]), if_pos hm]

theorem conclude_pushed {device : Device ω} {g : Gathered} {commands : List String}
    (hne : commands ≠ []) (hm : o.checkMode = false) :
    conclude o r source device g commands = (do
      device.edit commands
      let g' ← source.live device r.name
      return { report o g commands with
        after := some (factsOr o g'), warnings := g.warnings ++ g'.warnings }) := by
  have hfull : commands.isEmpty = false := by simpa using hne
  rw [conclude, if_neg (by simp [hfull]), if_neg (by simp [hm])]

/-- A change takes one of its courses. -/
theorem exists_changeCourse {device : Device ω} {s s' : ω} {result : Except Failure Outcome}
    (h : (change o r q source device).run s = (result, s')) :
    ∃ steps, ChangeCourse o r q source device s result steps s' := by
  rcases hg : (source.live device r.name).run s with ⟨f | g, s₁⟩
  · rw [change_eq, Session.run_bind_error hg] at h
    cases h
    exact ⟨_, .notGathered hg⟩
  rcases hc : r.generate q.state q.want (factsOr o g) with f | commands
  · rw [run_change_of_error hg hc] at h
    cases h
    exact ⟨_, .notGenerated hg hc⟩
  rw [run_change_of_ok hg hc] at h
  by_cases hne : commands = []
  · subst hne
    cases h
    exact ⟨_, .settled hg hc⟩
  cases hm : o.checkMode with
  | true =>
    rw [conclude_checked hne hm] at h
    cases h
    exact ⟨_, .checked hg hc hne hm⟩
  | false =>
    rw [conclude_pushed hne hm] at h
    rcases hp : (device.edit commands).run s₁ with ⟨f | u, s₂⟩
    · rw [Session.run_bind_error hp] at h
      cases h
      exact ⟨_, .notPushed hg hc hne hm hp⟩
    rw [Session.run_bind_ok hp] at h
    rcases hg' : (source.live device r.name).run s₂ with ⟨f | g', s₃⟩
    · rw [Session.run_bind_error hg'] at h
      cases h
      exact ⟨_, .notReread hg hc hne hm hp hg'⟩
    · rw [Session.run_bind_ok hg'] at h
      cases h
      exact ⟨_, .pushed hg hc hne hm hp hg'⟩

/-- Every course of a change is what the change does. -/
theorem run_of_changeCourse {device : Device ω} {s s' : ω} {result : Except Failure Outcome}
    {steps : List Step} (h : ChangeCourse o r q source device s result steps s') :
    (change o r q source device).run s = (result, s') := by
  cases h with
  | notGathered hg => exact Session.run_bind_error hg
  | notGenerated hg hc => exact run_change_of_error hg hc
  | settled hg hc => exact run_change_of_ok hg hc
  | checked hg hc hne hm =>
    rw [run_change_of_ok hg hc, conclude_checked hne hm]
    rfl
  | notPushed hg hc hne hm hp =>
    rw [run_change_of_ok hg hc, conclude_pushed hne hm]
    exact Session.run_bind_error hp
  | notReread hg hc hne hm hp hg' =>
    rw [run_change_of_ok hg hc, conclude_pushed hne hm, Session.run_bind_ok hp]
    exact Session.run_bind_error hg'
  | pushed hg hc hne hm hp hg' =>
    rw [run_change_of_ok hg hc, conclude_pushed hne hm, Session.run_bind_ok hp,
      Session.run_bind_ok hg']
    rfl

/-! ## Whole runs -/

/-- A request without a fault that is to do more than parse or render has a device. -/
theorem device_of_noFault {device : Option (Device ω)} (h : q.fault? device.isSome = none)
    (hs : q.state.contactsDevice = true) : ∃ d, device = some d :=
  Option.isSome_iff_exists.mp ((Request.fault?_eq_none_iff.mp h).2.2 hs)

theorem run_refused {device : Option (Device ω)} {f : Failure}
    (h : q.fault? device.isSome = some f) : run o r q source device = throw f := by
  unfold run
  rw [h]

theorem run_parsed {device : Option (Device ω)} (h : q.fault? device.isSome = none)
    (hs : q.state = .parsed) :
    run o r q source device = (do
      let g ← source.offline r.name (q.output?.getD "")
      return { Outcome.none with parsed := some (factsOr o g), warnings := g.warnings }) := by
  unfold run
  rw [h]
  simp only [hs]

theorem run_rendered {device : Option (Device ω)} (h : q.fault? device.isSome = none)
    (hs : q.state = .rendered) :
    run o r q source device = (do
      let commands ← liftM (r.generate q.state q.want o.emptyFacts)
      return { Outcome.none with rendered := some commands }) := by
  unfold run
  rw [h]
  simp only [hs]

theorem run_gathered {d : Device ω} (h : q.fault? true = none) (hs : q.state = .gathered) :
    run o r q source (some d) = (do
      let g ← source.live d r.name
      return { Outcome.none with
        gathered := some (factsOr o g), changed := some false, warnings := g.warnings }) := by
  unfold run
  rw [Option.isSome_some, h]
  simp only [hs]

theorem run_action {d : Device ω} (h : q.fault? true = none) (hs : q.state.isAction = true) :
    run o r q source (some d) = change o r q source d := by
  unfold run
  rw [Option.isSome_some, h]
  cases hq : q.state <;> simp_all [State.isAction]

/-- The states other than parsing and rendering: those that change and the one that gathers. -/
theorem state_cases (s : State) :
    s = .parsed ∨ s = .rendered ∨ s = .gathered ∨ s.isAction = true := by
  cases s <;> decide

/-- A run takes one of its courses. -/
theorem exists_course {device : Option (Device ω)} {s s' : ω} {result : Except Failure Outcome}
    (h : (run o r q source device).run s = (result, s')) :
    ∃ steps, Course o r q source device s result steps s' := by
  cases hf : q.fault? device.isSome with
  | some f =>
    rw [run_refused hf] at h
    cases h
    exact ⟨_, .refused hf⟩
  | none =>
    rcases state_cases q.state with hs | hs | hs | hs
    · rw [run_parsed hf hs] at h
      rcases hg : (source.offline r.name (q.output?.getD "")).run s with ⟨f | g, s₁⟩
      · rw [Session.run_bind_error hg] at h
        cases h
        exact ⟨_, .notParsed hf hs hg⟩
      · rw [Session.run_bind_ok hg] at h
        cases h
        exact ⟨_, .parsed hf hs hg⟩
    · rw [run_rendered hf hs, Session.run_bind, Session.run_lift] at h
      rcases hc : r.generate q.state q.want o.emptyFacts with f | commands <;> rw [hc] at h
      · cases h
        exact ⟨_, .notRendered hf hs hc⟩
      · cases h
        exact ⟨_, .rendered hf hs hc⟩
    · obtain ⟨d, rfl⟩ := device_of_noFault hf (by rw [hs]; rfl)
      rw [run_gathered hf hs] at h
      rcases hg : (source.live d r.name).run s with ⟨f | g, s₁⟩
      · rw [Session.run_bind_error hg] at h
        cases h
        exact ⟨_, .notGathered hf rfl hs hg⟩
      · rw [Session.run_bind_ok hg] at h
        cases h
        exact ⟨_, .gathered hf rfl hs hg⟩
    · obtain ⟨d, rfl⟩ := device_of_noFault hf (by simp [State.contactsDevice, hs])
      rw [run_action hf hs] at h
      obtain ⟨steps, hc⟩ := exists_changeCourse h
      exact ⟨steps, .changed hf rfl hs hc⟩

/-- Every course of a run is what the run does. -/
theorem run_of_course {device : Option (Device ω)} {s s' : ω} {result : Except Failure Outcome}
    {steps : List Step} (h : Course o r q source device s result steps s') :
    (run o r q source device).run s = (result, s') := by
  cases h with
  | refused hf =>
    rw [run_refused hf]
    rfl
  | notParsed hf hs hg =>
    rw [run_parsed hf hs]
    exact Session.run_bind_error hg
  | parsed hf hs hg =>
    rw [run_parsed hf hs]
    exact Session.run_bind_ok hg
  | notRendered hf hs hc =>
    rw [run_rendered hf hs, hc]
    rfl
  | rendered hf hs hc =>
    rw [run_rendered hf hs, hc]
    rfl
  | notGathered hf hd hs hg =>
    subst hd
    rw [run_gathered hf hs]
    exact Session.run_bind_error hg
  | gathered hf hd hs hg =>
    subst hd
    rw [run_gathered hf hs]
    exact Session.run_bind_ok hg
  | changed hf hd hs hc =>
    subst hd
    rw [run_action hf hs]
    exact run_of_changeCourse hc

/-- **The courses are what runs do.** -/
theorem run_iff_course {device : Option (Device ω)} {s s' : ω} {result : Except Failure Outcome} :
    (run o r q source device).run s = (result, s') ↔
      ∃ steps, Course o r q source device s result steps s' :=
  ⟨exists_course, fun ⟨_, h⟩ => run_of_course h⟩

end

end Run

end Converge
