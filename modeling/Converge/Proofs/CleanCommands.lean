import Converge.Proofs.DeviceCalls
import Converge.Proofs.Reapplied
import Converge.Proofs.Text.CleanLine
import Converge.Proofs.Tree.Numbers
import Converge.Proofs.Watching

/-!
# Clean commands

Whatever a template or a function makes of the data, the command text of a rule is made of clean
lines: texts are cut and cleaned, and numbers and truth values are written without blanks. Words in
front that break no line keep them clean. What a run reports or pushes was generated
(`generated_of_watch`), so every command that leaves it is a clean line.

Main statement: `watch_clean`.
-/

namespace Converge

open Text

/-! ## Command text -/

theorem Rendering.cleanLine_of_mem_itemLines {t : Tree} {s : String} (h : s ∈ itemLines t) :
    CleanLine s := by
  cases t with
  | text => exact cleanLine_of_mem_cleanLines h
  | bool b =>
    cases b with
    | true =>
      obtain rfl := List.mem_singleton.mp h
      exact .of_forall (by decide) (by simp [Json.leafText, isBlank])
    | false => cases h
  | int i =>
    obtain rfl := List.mem_singleton.mp h
    exact .of_forall (integerText_ne_empty i) fun c hc => not_blank_of_mem_integerText hc
  | float x =>
    obtain rfl := List.mem_singleton.mp h
    refine .of_forall (DecimalLayout.text_ne_empty (by decide) (by decide)) fun c hc => ?_
    exact DecimalLayout.not_blank_of_mem_text (by simp [DecimalLayout.data, isBlank]) hc
  | null => cases h
  | list _ => cases h
  | map _ => cases h

theorem Rendering.cleanLine_of_mem_valueLines {t : Tree} {s : String} (h : s ∈ valueLines t) :
    CleanLine s := by
  unfold valueLines at h
  split at h
  · obtain ⟨item, -, hs⟩ := List.mem_flatMap.mp h
    exact cleanLine_of_mem_itemLines hs
  · exact cleanLine_of_mem_itemLines h

theorem Rendering.cleanLine_of_mem_ofValue {t : Option Tree} {s : String}
    (h : s ∈ (ofValue t).toLines) : CleanLine s := by
  rw [ofValue, toLines_ofLines] at h
  cases t with
  | none => cases h
  | some t => exact cleanLine_of_mem_valueLines h

theorem Rule.cleanLine_of_mem_commandText {r : Rule} {negate : Bool} {data : Tree} {s : String}
    (h : s ∈ (r.commandText negate data).toLines) : CleanLine s := by
  unfold commandText at h
  split at h
  · cases h
  · split at h
    · exact Rendering.cleanLine_of_mem_ofValue h
    · cases h

/-! ## Commands of a dialect -/

/-- That no line is broken by the words in front of commands. -/
structure Prefixes.Unbroken (p : Prefixes) : Prop where
  set : ∀ w ∈ p.set, '\n' ∉ w.toList
  remove : '\n' ∉ p.remove.toList

theorem Prefixes.Unbroken.word? {p : Prefixes} (h : p.Unbroken) {negate : Bool} :
    ∀ w ∈ p.word? negate, '\n' ∉ w.toList := by
  intro w hw
  cases negate with
  | true =>
    obtain rfl : p.remove = w := by simpa [Prefixes.word?] using hw
    exact h.remove
  | false => exact h.set w (Option.filter_eq_some_iff.mp hw).1

section

variable {d : Dialect} (hd : d.prefixes.Unbroken)

include hd

theorem Dialect.cleanLine_of_mem_lines {data : Tree} {name : String} {negate : Bool} {s : String}
    (h : s ∈ d.lines data name negate) : CleanLine s := by
  unfold lines render RuleTable.require at h
  cases hr : d.table.get? name with
  | none => simp [hr, Except.map] at h
  | some r =>
    simp only [hr, Except.map, Prefixes.toLines_apply] at h
    split at h
    · exact r.cleanLine_of_mem_commandText h
    · rename_i w hw
      obtain ⟨line, hline, rfl⟩ := List.mem_map.mp h
      exact (r.cleanLine_of_mem_commandText hline).behind (hd.word? w hw)

theorem Comparison.cleanLine_of_mem_needed {want current : Tree} {name s : String}
    (h : s ∈ needed d want current name) : CleanLine s := by
  unfold needed at h
  split at h
  · cases h
  · split at h
    · cases h
    · exact Dialect.cleanLine_of_mem_lines hd h

theorem Resource.cleanLine_of_mem_generate {name : String} {state : State} {want current : Tree}
    {commands : List String} (h : (ofDialect name d).generate state want current = .ok commands) :
    ∀ s ∈ commands, CleanLine s := by
  rw [generate_eq_goal] at h
  obtain rfl := Except.ok.inj h
  intro s hs
  obtain ⟨rule, -, hneeded⟩ := List.mem_flatMap.mp hs
  exact Comparison.cleanLine_of_mem_needed hd hneeded

end

/-! ## Commands of a run -/

namespace Run

variable {ω : Type} {o : Options} {r : Resource} {q : Request} {source : FactSource ω}
  {device : Option (Device ω)} {s : ω}

theorem rendered_of_changeCourse {device : Device ω} {s' : ω} {outcome : Outcome}
    {steps : List Step} (h : ChangeCourse o r q source device s (.ok outcome) steps s') :
    outcome.rendered = none := by
  cases h <;> rfl

/-- The commands that a successful run reports were generated. -/
theorem generated_of_report {s' : ω} {outcome : Outcome} {steps : List Step}
    (h : Course o r q source device s (.ok outcome) steps s') {commands : List String}
    (hreport : outcome.commands = some commands ∨ outcome.rendered = some commands) :
    ∃ current, r.generate q.state q.want current = .ok commands := by
  cases h with
  | parsed _ _ _ => rcases hreport with hreport | hreport <;> cases hreport
  | gathered _ _ _ _ => rcases hreport with hreport | hreport <;> cases hreport
  | rendered _ _ hc =>
    rcases hreport with hreport | hreport
    · cases hreport
    · cases hreport
      exact ⟨_, hc⟩
  | changed _ _ _ hchange =>
    rcases hreport with hreport | hreport
    · obtain ⟨g, s₁, generated, -, hc, hcommands, -⟩ := report_of_changeCourse hchange
      obtain rfl : generated = commands := Option.some.inj (hcommands.symm.trans hreport)
      exact ⟨_, hc⟩
    · rw [rendered_of_changeCourse hchange] at hreport
      cases hreport

/-- What a run reports or pushes was generated for its state and what it wants. -/
theorem generated_of_watch {commands : List String} :
    (∀ outcome, (watch o r q source device s).result = .ok outcome →
      outcome.commands = some commands ∨ outcome.rendered = some commands →
      ∃ current, r.generate q.state q.want current = .ok commands) ∧
    (.edit commands ∈ (watch o r q source device s).asks →
      ∃ current, r.generate q.state q.want current = .ok commands) := by
  rcases hran : (run o r q source.watched (device.map Device.watched)).run ([], s) with
    ⟨result, asks, s'⟩
  rw [watch_eq_of_run hran]
  obtain ⟨steps, hcourse⟩ := exists_course hran
  constructor
  · rintro outcome rfl hreport
    exact generated_of_report hcourse hreport
  · intro hedit
    have hmem : .edit commands ∈ asks.filter Ask.isEdit := List.mem_filter.mpr ⟨hedit, rfl⟩
    rw [edits_of_course hcourse, List.filter_nil, List.nil_append, mem_filterMap_edit?_iff,
      push_mem_iff hcourse] at hmem
    obtain ⟨-, -, -, _, g, _, -, -, hc, -⟩ := hmem
    exact ⟨factsOr o g, hc⟩

/-- That every command that a run lets out is a clean line: those that it reports when it succeeds,
and those that it asks the device to take. -/
structure Clean (seen : Watched ω) : Prop where
  commands : ∀ outcome, seen.result = .ok outcome → ∀ commands ∈ outcome.commands,
    ∀ c ∈ commands, CleanLine c
  rendered : ∀ outcome, seen.result = .ok outcome → ∀ commands ∈ outcome.rendered,
    ∀ c ∈ commands, CleanLine c
  edits : ∀ commands, .edit commands ∈ seen.asks → ∀ c ∈ commands, CleanLine c

/-- **Every command that leaves a run is a clean line**, whatever the rules make of whatever data,
as long as the words in front of commands break no line. Watching the run changes nothing about
it. -/
theorem watch_clean {d : Dialect} (hd : d.prefixes.Unbroken) (o : Options) (name : String)
    (q : Request) (source : FactSource ω) (device : Option (Device ω)) (s : ω) :
    (run o (Resource.ofDialect name d) q source device).run s =
        ((watch o (Resource.ofDialect name d) q source device s).result,
          (watch o (Resource.ofDialect name d) q source device s).after) ∧
      Clean (watch o (Resource.ofDialect name d) q source device s) := by
  refine ⟨run_eq_watch _ _ _ _ _ _, ⟨?_, ?_, ?_⟩⟩
  · intro outcome hok commands hcommands
    obtain ⟨current, hc⟩ := generated_of_watch.1 outcome hok (Or.inl hcommands)
    exact Resource.cleanLine_of_mem_generate hd hc
  · intro outcome hok commands hrendered
    obtain ⟨current, hc⟩ := generated_of_watch.1 outcome hok (Or.inr hrendered)
    exact Resource.cleanLine_of_mem_generate hd hc
  · intro commands hedit
    obtain ⟨current, hc⟩ := generated_of_watch.2 hedit
    exact Resource.cleanLine_of_mem_generate hd hc

/-! ## A banner -/

/-- The language of a banner: `banner` in front of each line of the wanted value, which a function
hands on as it is. -/
def bannerDialect : Dialect where
  table := ⟨[{
      name := "banner"
      pattern := (Pattern.compile? "banner").getD ⟨"banner", [], #[], 0⟩
      result := .empty
      shared := false
      setval := some (.function fun data => (data.get? "banner").getD .null)
      remval := none
      compval := none }], (∅ : Index).insert "banner" 0, rfl⟩
  prefixes := ⟨some "banner", "no"⟩

/-- Lines are cut at line feeds and freed of the blanks behind them, blank ones are left out, and a
carriage return within a line stays. A list in the list has no lines. -/
theorem watch_clean_banner :
    (watch ⟨false, .empty⟩ (Resource.ofDialect "banner" bannerDialect)
        ⟨.merged, some (.map [("banner", .list [.text "a \r\n\u3000\n b\u2003\rc\u00a0\n",
          .list [.text "d"], .bool true, .int 7])]), none⟩
        (FactSource.ofTable bannerDialect.table "show")
        (some ⟨fun _ => pure "", fun _ => pure ()⟩) ()).asks =
      [.live "banner", .edit ["banner a", "banner  b\u2003\rc", "banner true", "banner 7"],
        .live "banner"] ∧
    Clean (watch ⟨false, .empty⟩ (Resource.ofDialect "banner" bannerDialect)
        ⟨.merged, some (.map [("banner", .list [.text "a \r\n\u3000\n b\u2003\rc\u00a0\n",
          .list [.text "d"], .bool true, .int 7])]), none⟩
        (FactSource.ofTable bannerDialect.table "show")
        (some ⟨fun _ => pure "", fun _ => pure ()⟩) ()) := by
  have hd : bannerDialect.prefixes.Unbroken := ⟨by decide, by decide⟩
  exact ⟨by decide +kernel, (watch_clean hd _ _ _ _ _ _).2⟩

end Run

end Converge
