import Converge.Proofs.RunCourse

/-!
# Watched runs

What a run asks of the source of facts and of the device, whatever these do. Watched, they write
down what is asked of them before they do it. A watched source that is asked about a device turns to
the device itself, so what stands in the notes was asked by the run and not by the source.

Watching changes nothing about a run (`run_eq_watch`).
-/

namespace Converge

variable {ω α β : Type}

/-- What a run asks for. -/
inductive Ask where
  | live (resource : String)
  | offline (resource output : String)
  | get (command : String)
  | edit (commands : List String)
deriving DecidableEq

/-- Whether a device is asked to take commands. -/
def Ask.isEdit : Ask → Bool
  | edit _ => true
  | _ => false

/-- A computation that writes down what is asked for. -/
def noted (a : Ask) (act : Session ω α) : Session (List Ask × ω) α := fun (asks, s) =>
  match act.run s with
  | (r, s) => (r, asks ++ [a], s)

namespace Device

/-- The device that writes down what is asked of it. -/
def watched (d : Device ω) : Device (List Ask × ω) where
  get command := noted (.get command) (d.get command)
  edit commands := noted (.edit commands) (d.edit commands)

/-- The device behind one that writes down what is asked of it. -/
def unwatched (d : Device (List Ask × ω)) : Device ω where
  get command := fun s =>
    match (d.get command).run ([], s) with
    | (r, _, s) => (r, s)
  edit commands := fun s =>
    match (d.edit commands).run ([], s) with
    | (r, _, s) => (r, s)

@[simp]
theorem unwatched_watched (d : Device ω) : d.watched.unwatched = d := rfl

end Device

/-- The source that writes down what is asked of it. -/
def FactSource.watched (source : FactSource ω) : FactSource (List Ask × ω) where
  live device resource := noted (.live resource) (source.live device.unwatched resource)
  offline resource output := noted (.offline resource output) (source.offline resource output)

/-! ## Doing the same -/

/-- Whether a computation with notes does what a computation without them does. -/
def Follows (act' : Session (List Ask × ω) α) (act : Session ω α) : Prop :=
  ∀ asks s, ∃ more, act'.run (asks, s) = ((act.run s).1, asks ++ more, (act.run s).2)

namespace Follows

theorem lift (r : Except Failure α) :
    Follows (liftM r : Session (List Ask × ω) α) (liftM r : Session ω α) := by
  intro asks s
  exact ⟨[], by rw [Session.run_lift, Session.run_lift, List.append_nil]⟩

theorem pure (a : α) : Follows (pure a : Session (List Ask × ω) α) (pure a : Session ω α) :=
  lift (.ok a)

theorem noted (a : Ask) (act : Session ω α) : Follows (noted a act) act :=
  fun _ _ => ⟨[a], rfl⟩

theorem bind {x' : Session (List Ask × ω) α} {x : Session ω α}
    {f' : α → Session (List Ask × ω) β} {f : α → Session ω β} (hx : Follows x' x)
    (hf : ∀ a, Follows (f' a) (f a)) : Follows (x' >>= f') (x >>= f) := by
  intro asks s
  obtain ⟨first, hfirst⟩ := hx asks s
  rcases h : x.run s with ⟨e | a, s₁⟩ <;> rw [h] at hfirst
  · exact ⟨first, by rw [Session.run_bind_error hfirst, Session.run_bind_error h]⟩
  · obtain ⟨more, hmore⟩ := hf a (asks ++ first) s₁
    refine ⟨first ++ more, ?_⟩
    rw [Session.run_bind_ok hfirst, Session.run_bind_ok h, hmore, List.append_assoc]

end Follows

namespace Run

variable {o : Options} {r : Resource} {q : Request} {source : FactSource ω}

theorem follows_conclude (d : Device ω) (g : Gathered) (commands : List String) :
    Follows (conclude o r source.watched d.watched g commands)
      (conclude o r source d g commands) := by
  unfold conclude
  split
  · exact .pure _
  · split
    · exact .pure _
    · exact .bind (.noted _ _) fun _ => .bind (.noted _ _) fun _ => .pure _

theorem follows_change (d : Device ω) :
    Follows (change o r q source.watched d.watched) (change o r q source d) := by
  rw [change_eq, change_eq]
  exact .bind (.noted _ _) fun g => .bind (.lift _) fun _ => follows_conclude d g _

/-- A watched run does what the run does. -/
theorem follows_run (device : Option (Device ω)) :
    Follows (run o r q source.watched (device.map Device.watched)) (run o r q source device) := by
  have hsome : (device.map Device.watched).isSome = device.isSome := Option.isSome_map
  cases hf : q.fault? device.isSome with
  | some f =>
    rw [run_refused hf, run_refused (hsome ▸ hf)]
    exact .lift (.error f)
  | none =>
    have hf' : q.fault? (device.map Device.watched).isSome = none := hsome ▸ hf
    rcases state_cases q.state with hs | hs | hs | hs
    · rw [run_parsed hf hs, run_parsed hf' hs]
      exact .bind (.noted _ _) fun _ => .pure _
    · rw [run_rendered hf hs, run_rendered hf' hs]
      exact .bind (.lift _) fun _ => .pure _
    · obtain ⟨d, rfl⟩ := device_of_noFault hf (by rw [hs]; rfl)
      rw [Option.map_some, run_gathered hf hs, run_gathered hf hs]
      exact .bind (.noted _ _) fun _ => .pure _
    · obtain ⟨d, rfl⟩ := device_of_noFault hf (by simp [State.contactsDevice, hs])
      rw [Option.map_some, run_action hf hs, run_action hf hs]
      exact follows_change d

end Run

/-! ## Watching a run -/

/-- A run as it looks from its collaborators. -/
structure Watched (ω : Type) where
  result : Except Failure Outcome
  asks : List Ask
  after : ω

namespace Run

variable (o : Options) (r : Resource) (q : Request) (source : FactSource ω)
  (device : Option (Device ω)) (s : ω)

/-- One run with what it asks for. -/
def watch : Watched ω :=
  let ran := (run o r q source.watched (device.map Device.watched)).run ([], s)
  ⟨ran.1, ran.2.1, ran.2.2⟩

/-- Watching a run changes nothing about it. -/
theorem run_eq_watch :
    (run o r q source device).run s =
      ((watch o r q source device s).result, (watch o r q source device s).after) := by
  have hfollows : Follows (run o r q source.watched (device.map Device.watched))
      (run o r q source device) := follows_run device
  obtain ⟨asks, hasks⟩ := hfollows [] s
  rw [watch, hasks]
  rfl

/-! ## Notes of steps -/

variable {o r q source}

theorem watch_eq_of_run {result : Except Failure Outcome} {asks : List Ask} {s s' : ω}
    {device : Option (Device ω)}
    (h : (run o r q source.watched (device.map Device.watched)).run ([], s) = (result, asks, s')) :
    watch o r q source device s = ⟨result, asks, s'⟩ := by
  rw [watch, h]

theorem asks_of_live {d : Device ω} {name : String} {asks asks' : List Ask} {s s' : ω}
    {result : Except Failure Gathered}
    (h : (source.watched.live d.watched name).run (asks, s) = (result, asks', s')) :
    asks' = asks ++ [.live name] := by
  cases h
  rfl

theorem asks_of_offline {name output : String} {asks asks' : List Ask} {s s' : ω}
    {result : Except Failure Gathered}
    (h : (source.watched.offline name output).run (asks, s) = (result, asks', s')) :
    asks' = asks ++ [.offline name output] := by
  cases h
  rfl

theorem asks_of_edit {d : Device ω} {commands : List String} {asks asks' : List Ask} {s s' : ω}
    {result : Except Failure Unit}
    (h : (d.watched.edit commands).run (asks, s) = (result, asks', s')) :
    asks' = asks ++ [.edit commands] := by
  cases h
  rfl

/-- What a step asks a device to take, if it pushes. -/
def Step.edit? : Step → Option Ask
  | .gather => none
  | .push commands => some (.edit commands)

theorem mem_filterMap_edit?_iff {steps : List Step} {commands : List String} :
    .edit commands ∈ steps.filterMap Step.edit? ↔ Step.push commands ∈ steps := by
  rw [List.mem_filterMap]
  constructor
  · rintro ⟨_ | pushed, hmem, hedit⟩
    · cases hedit
    · cases hedit
      exact hmem
  · intro h
    exact ⟨_, h, rfl⟩

/-- A watched change asks for the edits that its steps push. -/
theorem edits_of_changeCourse {d : Device ω} {asks asks' : List Ask} {s s' : ω}
    {result : Except Failure Outcome} {steps : List Step}
    (h : ChangeCourse o r q source.watched d.watched (asks, s) result steps (asks', s')) :
    asks'.filter Ask.isEdit = asks.filter Ask.isEdit ++ steps.filterMap Step.edit? := by
  cases h with
  | notGathered hg => simp [asks_of_live hg, Ask.isEdit, Step.edit?]
  | notGenerated hg _ => simp [asks_of_live hg, Ask.isEdit, Step.edit?]
  | settled hg _ => simp [asks_of_live hg, Ask.isEdit, Step.edit?]
  | checked hg _ _ _ => simp [asks_of_live hg, Ask.isEdit, Step.edit?]
  | @notPushed _ _ _ s₁ _ hg _ _ _ hp =>
    obtain ⟨asks₁, s₁⟩ := s₁
    rw [asks_of_edit hp, asks_of_live hg, List.filter_append, List.filter_append,
      List.append_assoc]
    rfl
  | @notReread _ _ _ s₁ s₂ _ hg _ _ _ hp hg' =>
    obtain ⟨asks₁, s₁⟩ := s₁
    obtain ⟨asks₂, s₂⟩ := s₂
    simp only [asks_of_live hg', asks_of_edit hp, asks_of_live hg, List.filter_append,
      List.append_assoc]
    rfl
  | @pushed _ _ _ s₁ s₂ _ hg _ _ _ hp hg' =>
    obtain ⟨asks₁, s₁⟩ := s₁
    obtain ⟨asks₂, s₂⟩ := s₂
    simp only [asks_of_live hg', asks_of_edit hp, asks_of_live hg, List.filter_append,
      List.append_assoc]
    rfl

/-- A watched run asks for the edits that its steps push. -/
theorem edits_of_course {device : Option (Device ω)} {asks asks' : List Ask} {s s' : ω}
    {result : Except Failure Outcome} {steps : List Step}
    (h : Course o r q source.watched (device.map Device.watched) (asks, s) result steps
      (asks', s')) :
    asks'.filter Ask.isEdit = asks.filter Ask.isEdit ++ steps.filterMap Step.edit? := by
  cases h with
  | refused _ => simp
  | notParsed _ _ hg => simp [asks_of_offline hg, Ask.isEdit]
  | parsed _ _ hg => simp [asks_of_offline hg, Ask.isEdit]
  | notRendered _ _ _ => simp
  | rendered _ _ _ => simp
  | notGathered _ hd _ hg =>
    obtain ⟨d, -, rfl⟩ := Option.map_eq_some_iff.mp hd
    simp [asks_of_live hg, Ask.isEdit, Step.edit?]
  | gathered _ hd _ hg =>
    obtain ⟨d, -, rfl⟩ := Option.map_eq_some_iff.mp hd
    simp [asks_of_live hg, Ask.isEdit, Step.edit?]
  | changed _ hd _ hc =>
    obtain ⟨d, -, rfl⟩ := Option.map_eq_some_iff.mp hd
    exact edits_of_changeCourse hc

end Run

end Converge
