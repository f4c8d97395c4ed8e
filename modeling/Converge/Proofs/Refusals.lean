import Converge.Proofs.Tree.Parts
import Converge.Proofs.Watching

/-!
# Refused requests

What is wrong with a request is looked for in a fixed order: something must be wanted where a state
brings wanted facts about or renders them, there must be output where it is to be parsed, and there
must be a device where one is talked to. The first of these that fails refuses the request
(`Refused`), before the source of facts or the device is asked for anything.

Main statement: `refused_first`.
-/

namespace Converge

namespace Request

/-- That a state needs something wanted, and the request wants nothing: there is no configuration,
or one in which no truth value, no number and no text that is not empty stands. -/
def NothingWanted (q : Request) : Prop :=
  q.state ∈ [.merged, .replaced, .overridden, .rendered] ∧ ∀ t ∈ q.config, ¬t.Informative

/-- That output is to be parsed, and there is none or one of blanks alone. -/
def NothingToParse (q : Request) : Prop :=
  q.state = .parsed ∧ ∀ s ∈ q.runningConfig, ∀ c ∈ s.toList, Text.isBlank c = true

/-- That a device is to be talked to, and there is none. -/
def Unconnected (q : Request) (connected : Bool) : Prop :=
  q.state ∈ [.gathered, .merged, .replaced, .overridden, .deleted, .purged] ∧ connected = false

/-- What refuses a request: the first that is wrong with it. -/
inductive Refused (q : Request) (connected : Bool) : Failure → Prop
  | nothingWanted : q.NothingWanted → Refused q connected (.emptyWant q.state)
  | nothingToParse : ¬q.NothingWanted → q.NothingToParse →
      Refused q connected .missingRunningConfig
  | unconnected : ¬q.NothingWanted → ¬q.NothingToParse → q.Unconnected connected →
      Refused q connected (.missingConnection q.state)

variable {q : Request} {connected : Bool}

theorem isEmpty_want_iff : q.want.isEmpty = true ↔ ∀ t ∈ q.config, ¬t.Informative := by
  unfold want
  cases q.config with
  | none => simp [Tree.isEmpty]
  | some t => simp [Tree.isEmpty_withoutEmpties_iff]

theorem output?_eq_none_iff :
    q.output? = none ↔ ∀ s ∈ q.runningConfig, ∀ c ∈ s.toList, Text.isBlank c = true := by
  unfold output?
  cases q.runningConfig with
  | none => simp
  | some s => simp [Option.filter, Text.allBlank]

theorem nothingWanted_iff :
    q.NothingWanted ↔ q.state.requiresWant = true ∧ q.want.isEmpty = true := by
  rw [NothingWanted, isEmpty_want_iff]
  cases q.state <;> simp [State.requiresWant]

theorem nothingToParse_iff : q.NothingToParse ↔ q.state = .parsed ∧ q.output? = none := by
  rw [NothingToParse, output?_eq_none_iff]

theorem unconnected_iff :
    q.Unconnected connected ↔ q.state.contactsDevice = true ∧ connected = false := by
  unfold Unconnected
  cases q.state <;> simp [State.contactsDevice, State.isAction]

instance : Decidable q.NothingWanted := decidable_of_iff _ nothingWanted_iff.symm

instance : Decidable q.NothingToParse := decidable_of_iff _ nothingToParse_iff.symm

instance : Decidable (q.Unconnected connected) := decidable_of_iff _ unconnected_iff.symm

theorem fault?_eq (q : Request) (connected : Bool) :
    q.fault? connected =
      if q.NothingWanted then some (.emptyWant q.state)
      else if q.NothingToParse then some .missingRunningConfig
      else if q.Unconnected connected then some (.missingConnection q.state)
      else none := by
  simp [fault?, nothingWanted_iff, nothingToParse_iff, unconnected_iff]

/-- A request is refused for its fault. -/
theorem refused_iff {f : Failure} : q.Refused connected f ↔ q.fault? connected = some f := by
  rw [fault?_eq]
  constructor
  · intro h
    cases h with
    | nothingWanted hwant => rw [if_pos hwant]
    | nothingToParse hwant hparse => rw [if_neg hwant, if_pos hparse]
    | unconnected hwant hparse hlink => rw [if_neg hwant, if_neg hparse, if_pos hlink]
  · intro h
    split at h
    · rename_i hwant
      cases h
      exact .nothingWanted hwant
    split at h
    · rename_i hwant hparse
      cases h
      exact .nothingToParse hwant hparse
    split at h
    · rename_i hwant hparse hlink
      cases h
      exact .unconnected hwant hparse hlink
    · cases h

end Request

namespace Run

variable {ω : Type} {o : Options} {r : Resource} {q : Request} {source : FactSource ω}
  {device : Option (Device ω)}

/-- That a failure comes from what a run, from some state on, asks of the source of facts, the
resource or the device. -/
inductive Raised (o : Options) (r : Resource) (q : Request) (source : FactSource ω)
    (device : Option (Device ω)) (s : ω) (f : Failure) : Prop
  | offline {s' : ω} : q.state = .parsed →
      (source.offline r.name (q.output?.getD "")).run s = (.error f, s') →
      Raised o r q source device s f
  | rendering : q.state = .rendered → r.generate q.state q.want o.emptyFacts = .error f →
      Raised o r q source device s f
  | live {d : Device ω} {s' : ω} : q.state.contactsDevice = true → device = some d →
      (source.live d r.name).run s = (.error f, s') → Raised o r q source device s f
  | generating {d : Device ω} {g : Gathered} {s' : ω} : q.state.isAction = true →
      device = some d → (source.live d r.name).run s = (.ok g, s') →
      r.generate q.state q.want (factsOr o g) = .error f → Raised o r q source device s f
  | edit {d : Device ω} {g : Gathered} {commands : List String} {s₁ s₂ : ω} :
      q.state.isAction = true → o.checkMode = false → device = some d →
      (source.live d r.name).run s = (.ok g, s₁) →
      r.generate q.state q.want (factsOr o g) = .ok commands → commands ≠ [] →
      (d.edit commands).run s₁ = (.error f, s₂) → Raised o r q source device s f
  | again {d : Device ω} {g : Gathered} {commands : List String} {s₁ s₂ s₃ : ω} :
      q.state.isAction = true → o.checkMode = false → device = some d →
      (source.live d r.name).run s = (.ok g, s₁) →
      r.generate q.state q.want (factsOr o g) = .ok commands → commands ≠ [] →
      (d.edit commands).run s₁ = (.ok (), s₂) →
      (source.live d r.name).run s₂ = (.error f, s₃) → Raised o r q source device s f

theorem raised_of_changeCourse {d : Device ω} {s s' : ω} {f : Failure} {steps : List Step}
    (ha : q.state.isAction = true) (hd : device = some d)
    (h : ChangeCourse o r q source d s (.error f) steps s') :
    Raised o r q source device s f := by
  cases h with
  | notGathered hg => exact .live (by simp [State.contactsDevice, ha]) hd hg
  | notGenerated hg hc => exact .generating ha hd hg hc
  | notPushed hg hc hne hm hp => exact .edit ha hm hd hg hc hne hp
  | notReread hg hc hne hm hp hg' => exact .again ha hm hd hg hc hne hp hg'

/-- A run that fails is refused, or a collaborator has failed. -/
theorem refused_or_raised {s s' : ω} {f : Failure}
    (h : (run o r q source device).run s = (.error f, s')) :
    q.Refused device.isSome f ∨ Raised o r q source device s f := by
  obtain ⟨steps, hcourse⟩ := exists_course h
  cases hcourse with
  | refused hf => exact Or.inl (Request.refused_iff.mpr hf)
  | notParsed _ hs hg => exact Or.inr (.offline hs hg)
  | notRendered _ hs hc => exact Or.inr (.rendering hs hc)
  | notGathered _ hd hs hg => exact Or.inr (.live (by rw [hs]; rfl) hd hg)
  | changed _ hd ha hc => exact Or.inr (raised_of_changeCourse ha hd hc)

/-- A refused run asks for nothing. -/
theorem watch_of_refused {s : ω} {f : Failure} (h : q.Refused device.isSome f) :
    watch o r q source device s = ⟨.error f, [], s⟩ := by
  refine watch_eq_of_run ?_
  rw [run_refused (by rw [Option.isSome_map]; exact Request.refused_iff.mp h)]
  rfl

/-- **What is wrong with a request refuses it first.** A refused request fails with what is wrong
with it, and neither the source of facts nor the device is asked for anything. A request that is not
refused fails only with what the source, the resource or the device gives. -/
theorem refused_first (o : Options) (r : Resource) (q : Request) (source : FactSource ω)
    (device : Option (Device ω)) (s : ω) :
    (run o r q source device).run s =
        ((watch o r q source device s).result, (watch o r q source device s).after) ∧
      (∀ f, q.Refused device.isSome f → watch o r q source device s = ⟨.error f, [], s⟩) ∧
      (∀ f, ¬Raised o r q source device s f →
        ((watch o r q source device s).result = .error f ↔ q.Refused device.isSome f)) ∧
      ((∀ f, ¬q.Refused device.isSome f) → ∀ f, (watch o r q source device s).result = .error f →
        Raised o r q source device s f) := by
  have hran := run_eq_watch o r q source device s
  have hfails : ∀ f, (watch o r q source device s).result = .error f →
      q.Refused device.isSome f ∨ Raised o r q source device s f := fun f hf =>
    refused_or_raised (hf ▸ hran)
  refine ⟨hran, fun f => watch_of_refused, fun f hraised => ⟨fun hf => ?_, fun hf => ?_⟩, ?_⟩
  · exact (hfails f hf).resolve_right hraised
  · rw [watch_of_refused hf]
  · exact fun hnone f hf => (hfails f hf).resolve_left (hnone f)

/-- Empty texts and nulls are nothing wanted, which is found before the missing device. -/
example (o : Options) (r : Resource) (source : FactSource ω) (s : ω) :
    watch o r ⟨.merged, some (.map [("tags", .list [.text "", .null])]), none⟩ source none s =
      ⟨.error (.emptyWant .merged), [], s⟩ := rfl

end Run

end Converge
