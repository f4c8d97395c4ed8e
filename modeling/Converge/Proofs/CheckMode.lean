import Converge.Proofs.Watching

/-!
# Checking foretells the run

A run that only checks and the run itself, from the same state of the same collaborators, are one
and the same up to the push. A check that fails or that generates no command is the run itself;
where there are commands the run goes on and pushes exactly these, once (`check_course`). What it
reports then differs from the check at most in the facts afterwards and in further warnings.

Main statement: `check_foretells`.
-/

namespace Converge

/-- The options with checking on or off. -/
def Options.checking (o : Options) (b : Bool) : Options := { o with checkMode := b }

namespace Run

variable {ω : Type} {o : Options} {r : Resource} {q : Request} {source : FactSource ω}

/-! ## Up to the push -/

/-- Where nothing is changed, checking makes no difference. -/
theorem run_checking_of_not_isAction (device : Option (Device ω)) (h : q.state.isAction = false)
    (b b' : Bool) :
    run (o.checking b) r q source device = run (o.checking b') r q source device := by
  cases hf : q.fault? device.isSome with
  | some f => rw [run_refused hf, run_refused hf]
  | none =>
    rcases state_cases q.state with hs | hs | hs | hs
    · rw [run_parsed hf hs, run_parsed hf hs]
      rfl
    · rw [run_rendered hf hs, run_rendered hf hs]
      rfl
    · obtain ⟨d, rfl⟩ := device_of_noFault hf (by rw [hs]; rfl)
      rw [run_gathered hf hs, run_gathered hf hs]
      rfl
    · rw [h] at hs
      cases hs

/-- What is left of a change behind a check: the push, and gathering again. -/
def pushing (o : Options) (r : Resource) (source : FactSource ω) (device : Device ω) (g : Gathered)
    (commands : List String) : Session ω Outcome := do
  device.edit commands
  let g' ← source.live device r.name
  return { report o g commands with
    after := some (factsOr o g'), warnings := g.warnings ++ g'.warnings }

/-- A check only gathers. It is the change itself, or the change goes on behind it to push the
commands that the check reports. -/
theorem check_course {device : Device ω} {s s' : ω} {result : Except Failure Outcome}
    (h : (change (o.checking true) r q source device).run s = (result, s')) :
    (∃ gathered, (source.live device r.name).run s = (gathered, s')) ∧
      (((change (o.checking false) r q source device).run s = (result, s') ∧
          ∀ outcome, result = .ok outcome → outcome.commands = some []) ∨
        ∃ g commands, commands ≠ [] ∧
          result = .ok { report o g commands with after := some (factsOr o g) } ∧
          (change (o.checking false) r q source device).run s =
            (pushing o r source device g commands).run s') := by
  obtain ⟨steps, hcourse⟩ := exists_changeCourse h
  cases hcourse with
  | notGathered hg =>
    exact ⟨⟨_, hg⟩, Or.inl ⟨run_of_changeCourse (.notGathered hg), by simp⟩⟩
  | notGenerated hg hc =>
    exact ⟨⟨_, hg⟩, Or.inl ⟨run_of_changeCourse (.notGenerated hg hc), by simp⟩⟩
  | settled hg hc =>
    refine ⟨⟨_, hg⟩, Or.inl ⟨run_of_changeCourse (.settled hg hc), ?_⟩⟩
    rintro outcome ⟨⟩
    rfl
  | @checked g commands _ hg hc hne _ =>
    have hreal : r.generate q.state q.want (factsOr (o.checking false) g) = .ok commands := hc
    refine ⟨⟨_, hg⟩, Or.inr ⟨g, commands, hne, rfl, ?_⟩⟩
    rw [run_change_of_ok hg hreal, conclude_pushed hne rfl]
    rfl
  | notPushed _ _ _ hm _ => cases hm
  | notReread _ _ _ hm _ _ => cases hm
  | pushed _ _ _ hm _ _ => cases hm

/-- Pushing edits once, and reports as a check does, but for the facts afterwards and further
warnings. -/
theorem edits_of_pushing {d : Device ω} {g : Gathered} {commands : List String}
    {asks asks' : List Ask} {s s' : ω} {result : Except Failure Outcome}
    (h : (pushing o r source.watched d.watched g commands).run (asks, s) = (result, asks', s')) :
    asks'.filter Ask.isEdit = asks.filter Ask.isEdit ++ [.edit commands] ∧
      ∀ outcome, result = .ok outcome → ∃ g' : Gathered, outcome = { report o g commands with
        after := some (factsOr o g'), warnings := g.warnings ++ g'.warnings } := by
  unfold pushing at h
  rcases hp : (d.watched.edit commands).run (asks, s) with ⟨f | u, asks₁, s₁⟩
  · rw [Session.run_bind_error hp] at h
    cases h
    refine ⟨?_, by simp⟩
    rw [asks_of_edit hp, List.filter_append]
    rfl
  · rw [Session.run_bind_ok hp] at h
    rcases hg : (source.watched.live d.watched r.name).run (asks₁, s₁) with ⟨f | g', asks₂, s₂⟩
    · rw [Session.run_bind_error hg] at h
      cases h
      refine ⟨?_, by simp⟩
      rw [asks_of_live hg, asks_of_edit hp, List.filter_append, List.filter_append]
      simp [Ask.isEdit]
    · rw [Session.run_bind_ok hg] at h
      cases h
      refine ⟨?_, ?_⟩
      · rw [asks_of_live hg, asks_of_edit hp, List.filter_append, List.filter_append]
        simp [Ask.isEdit]
      · rintro outcome ⟨⟩
        exact ⟨g', rfl⟩

/-! ## Two runs -/

/-- How a check and the run itself belong together. -/
structure Foretells (q : Request) (check real : Watched ω) : Prop where
  /-- A check that fails is a run that fails and pushes nothing. -/
  failure : ∀ f, check.result = .error f →
    real.result = .error f ∧ real.asks.filter Ask.isEdit = []
  /-- A check pushes nothing. -/
  unedited : check.asks.filter Ask.isEdit = []
  /-- The run pushes the commands of the check, once, when there are any. -/
  edits : q.state.isAction = true → ∀ outcome, check.result = .ok outcome →
    ∃ commands, outcome.commands = some commands ∧
      real.asks.filter Ask.isEdit = if commands = [] then [] else [.edit commands]
  /-- What both report is the same up to the facts afterwards and further warnings. -/
  report : q.state.isAction = true → ∀ outcome outcome', check.result = .ok outcome →
    real.result = .ok outcome' →
      outcome'.commands = outcome.commands ∧ outcome'.before = outcome.before ∧
      outcome'.changed = outcome.changed ∧ outcome'.after.isSome = outcome.after.isSome ∧
      outcome.warnings <+: outcome'.warnings
  /-- Where nothing is changed, the check is the run. -/
  unchanging : q.state.isAction = false → real = check

/-- A check that is the run itself, and edits nothing, foretells it. -/
theorem foretells_self {seen : Watched ω} (hnone : seen.asks.filter Ask.isEdit = [])
    (hcommands : q.state.isAction = true → ∀ outcome, seen.result = .ok outcome →
      outcome.commands = some []) : Foretells q seen seen where
  failure _ hf := ⟨hf, hnone⟩
  unedited := hnone
  edits ha outcome hok := ⟨[], hcommands ha outcome hok, by rw [if_pos rfl, hnone]⟩
  report _ outcome outcome' hok hok' := by
    obtain rfl : outcome = outcome' := by simpa using hok.symm.trans hok'
    exact ⟨rfl, rfl, rfl, rfl, List.prefix_refl _⟩
  unchanging _ := rfl

/-- A run that changes nothing asks for no edit. -/
theorem edits_of_not_isAction {device : Option (Device ω)} {s : ω}
    (h : q.state.isAction = false) :
    (watch o r q source device s).asks.filter Ask.isEdit = [] := by
  rcases hran : (run o r q source.watched (device.map Device.watched)).run ([], s) with
    ⟨result, asks, s'⟩
  rw [watch_eq_of_run hran]
  obtain ⟨steps, hcourse⟩ := exists_course hran
  dsimp only
  rw [edits_of_course hcourse]
  cases hcourse with
  | changed _ _ ha _ =>
    rw [h] at ha
    cases ha
  | _ => rfl

/-- A check of a request that is not refused foretells the change. -/
theorem foretells_change {d : Device ω} {s : ω} (hf : q.fault? true = none)
    (ha : q.state.isAction = true) :
    Foretells q (watch (o.checking true) r q source (some d) s)
      (watch (o.checking false) r q source (some d) s) := by
  rcases hcheck : (change (o.checking true) r q source.watched d.watched).run ([], s) with
    ⟨result, asks, s₁⟩
  have hran : ∀ b, run (o.checking b) r q source.watched ((some d).map Device.watched) =
      change (o.checking b) r q source.watched d.watched := fun b => run_action hf ha
  obtain ⟨⟨gathered, hlive⟩, hcourse⟩ := check_course hcheck
  have hasks : asks.filter Ask.isEdit = [] := by simp [asks_of_live hlive, Ask.isEdit]
  rw [watch_eq_of_run (hran true ▸ hcheck)]
  rcases hcourse with ⟨hreal, hnone⟩ | ⟨g, commands, hne, rfl, hreal⟩
  · rw [watch_eq_of_run (hran false ▸ hreal)]
    exact foretells_self hasks fun _ => hnone
  · rcases hpush : (pushing o r source.watched d.watched g commands).run (asks, s₁) with
      ⟨result', asks', s₂⟩
    rw [hpush] at hreal
    rw [watch_eq_of_run (hran false ▸ hreal)]
    obtain ⟨hedits, hreport⟩ := edits_of_pushing hpush
    refine ⟨by simp, hasks, ?_, ?_, by simp [ha]⟩
    · rintro _ outcome ⟨⟩
      refine ⟨commands, rfl, ?_⟩
      rw [if_neg hne]
      simpa [hasks] using hedits
    · rintro _ outcome outcome' ⟨⟩ hok
      obtain ⟨g', rfl⟩ := hreport outcome' hok
      exact ⟨rfl, rfl, rfl, rfl, List.prefix_append _ _⟩

/-- **A check foretells the run** from the same state of the same collaborators, whatever these
are, and watching either of the two changes nothing about it. -/
theorem check_foretells (o : Options) (r : Resource) (q : Request) (source : FactSource ω)
    (device : Option (Device ω)) (s : ω) :
    Foretells q (watch (o.checking true) r q source device s)
        (watch (o.checking false) r q source device s) ∧
      ∀ b, (run (o.checking b) r q source device).run s =
        ((watch (o.checking b) r q source device s).result,
          (watch (o.checking b) r q source device s).after) := by
  refine ⟨?_, fun b => run_eq_watch (o.checking b) r q source device s⟩
  cases ha : q.state.isAction with
  | false =>
    have hsame : watch (o.checking false) r q source device s =
        watch (o.checking true) r q source device s := by
      rw [watch, watch, run_checking_of_not_isAction _ ha false true]
    rw [hsame]
    exact foretells_self (edits_of_not_isAction ha) (by simp [ha])
  | true =>
    cases hf : q.fault? device.isSome with
    | some f =>
      have hrefused : ∀ b, watch (o.checking b) r q source device s = ⟨.error f, [], s⟩ := by
        intro b
        refine watch_eq_of_run ?_
        rw [run_refused (by rwa [Option.isSome_map])]
        rfl
      rw [hrefused, hrefused]
      exact foretells_self rfl (by simp)
    | none =>
      obtain ⟨d, rfl⟩ := device_of_noFault hf (by simp [State.contactsDevice, ha])
      exact foretells_change hf ha

end Run

end Converge
