import Converge.Proofs.DeviceCalls
import Mathlib.Data.List.Basic

/-!
# Facts offline and live

Output that is parsed offline, a device that is gathered and a device that is changed come to the
rule table by different ways. Where the text is the same, the table gives the same answer on each of
them, as `run_live_of_output` and `run_offline` say, and what a run finds is made of that answer
alone (`findings_eq`).

Main statement: `offline_agrees_with_live`.
-/

namespace Converge.Run

variable {ω : Type}

/-- What a run finds in some text: the facts that a table reads from it or, with a warning, those of
a device that reports none. -/
def findings (o : Options) (t : RuleTable) (name text : String) : Except Failure Gathered :=
  match Facts.ofText t text with
  | .error f => .error (.passedOn f)
  | .ok facts =>
    if facts.isEmpty then
      .ok ⟨o.emptyFacts, ["no " ++ name ++ " facts found in device output"]⟩
    else .ok ⟨facts, []⟩

theorem findings_eq (o : Options) (t : RuleTable) (name text : String) :
    findings o t name text =
      (FactSource.ofOutput t name text).map fun g => ⟨factsOr o g, g.warnings⟩ := by
  unfold findings FactSource.ofOutput
  rcases Facts.ofText t text with f | facts
  · rfl
  · cases hempty : facts.isEmpty <;> simp [hempty, factsOr, Except.map]

section

variable {t : RuleTable} {command text : String} {device : Device ω} {s s' : ω}

theorem run_live_recording_of_output (hget : (device.get command).run s = (.ok text, s'))
    (name : String) (calls : List Call) :
    ((FactSource.ofTable t command).live device.recording name).run (calls, s) =
      (FactSource.ofOutput t name text, calls ++ [.get command], s') := by
  rw [run_live_recording, run_live_of_output hget]

/-- Where output is brought along that is not blank, parsing has no fault. -/
theorem fault?_of_parsed {q : Request} (hs : q.state = .parsed) (hq : q.runningConfig = some text)
    (htext : Text.allBlank text = false) (connected : Bool) :
    q.output? = some text ∧ q.fault? connected = none := by
  have houtput : q.output? = some text := by
    rw [Request.output?, hq, Option.filter_some, htext]
    rfl
  refine ⟨houtput, ?_⟩
  rw [Request.fault?_eq_none_iff, hs, houtput]
  exact ⟨nofun, fun _ => rfl, nofun⟩

variable (o : Options) (r : Resource) {q : Request}

theorem run_parsed_of_output (hs : q.state = .parsed) (hq : q.runningConfig = some text)
    (htext : Text.allBlank text = false) (link : Option (Device ω)) (s : ω) :
    (run o r q (FactSource.ofTable t command) link).run s =
      ((findings o t r.name text).map fun g =>
        { Outcome.none with parsed := some g.facts, warnings := g.warnings }, s) := by
  obtain ⟨houtput, hfault⟩ := fault?_of_parsed hs hq htext link.isSome
  rw [run_parsed hfault hs, Session.run_bind, houtput, Option.getD_some, run_offline, findings_eq]
  rcases FactSource.ofOutput t r.name text with f | g <;> rfl

variable (hget : (device.get command).run s = (.ok text, s'))

include hget

theorem run_gathered_of_output (hs : q.state = .gathered) (calls : List Call) :
    (run o r q (FactSource.ofTable t command) (some device.recording)).run (calls, s) =
      ((findings o t r.name text).map fun g => { Outcome.none with
          gathered := some g.facts, changed := some false, warnings := g.warnings },
        calls ++ [.get command], s') := by
  rw [run_gathered (Request.fault?_of_gathered hs) hs, Session.run_bind,
    run_live_recording_of_output hget, findings_eq]
  rcases FactSource.ofOutput t r.name text with f | g <;> rfl

/-- Where the text cannot be read, a change ends with the failure before anything is pushed. -/
theorem run_action_of_failure {f : Failure} (hread : findings o t r.name text = .error f)
    (ha : q.state.isAction = true) (hfault : q.fault? true = none) (calls : List Call) :
    (run o r q (FactSource.ofTable t command) (some device.recording)).run (calls, s) =
      (.error f, calls ++ [.get command], s') := by
  have hout : FactSource.ofOutput t r.name text = .error f := by
    rw [findings_eq] at hread
    rcases hout : FactSource.ofOutput t r.name text with g | g <;> rw [hout] at hread <;>
      cases hread
    rfl
  have hlive := run_live_recording_of_output (t := t) hget r.name calls
  rw [hout] at hlive
  rw [run_action hfault ha, change_eq, Session.run_bind_error hlive]

/-- A change that succeeds reports what the text says as the facts before it. -/
theorem before_of_action {outcome : Outcome} {calls : List Call} {after : List Call × ω}
    (ha : q.state.isAction = true)
    (hrun : (run o r q (FactSource.ofTable t command) (some device.recording)).run (calls, s) =
      (.ok outcome, after)) :
    ∃ g, findings o t r.name text = .ok g ∧ outcome.before = some g.facts := by
  obtain ⟨steps, hcourse⟩ := exists_course hrun
  rcases change_of_isAction hcourse ha with ⟨f, hfails, -⟩ | ⟨d, hd, hchange⟩
  · cases hfails
  obtain rfl := Option.some.inj hd
  obtain ⟨g, s₁, commands, hg, -, -, hbefore, -⟩ := report_of_changeCourse hchange
  rw [run_live_recording_of_output hget] at hg
  have hout : FactSource.ofOutput t r.name text = .ok g := (Prod.mk.inj hg).1
  refine ⟨⟨factsOr o g, g.warnings⟩, ?_, hbefore⟩
  rw [findings_eq, hout]
  rfl

end

/-- **The same text says the same offline and live.** Parsing a text, gathering from a device that
shows it and changing such a device all find what the table reads from the text: the first two
report it with the same warnings, and a change that succeeds has it as the facts before. Where the
text cannot be read all fail alike, changes before they push anything. -/
theorem offline_agrees_with_live (t : RuleTable) (command : String) (o : Options) (r : Resource)
    (device : Device ω) {text : String} (htext : Text.allBlank text = false) {s s' : ω}
    (hget : (device.get command).run s = (.ok text, s')) (calls : List Call) :
    (∀ (q : Request) (link : Option (Device ω)), q.state = .parsed →
      q.runningConfig = some text →
      (run o r q (FactSource.ofTable t command) (link.map Device.recording)).run (calls, s) =
        ((findings o t r.name text).map fun g =>
          { Outcome.none with parsed := some g.facts, warnings := g.warnings }, calls, s)) ∧
    (∀ q : Request, q.state = .gathered →
      (run o r q (FactSource.ofTable t command) (some device.recording)).run (calls, s) =
        ((findings o t r.name text).map fun g => { Outcome.none with
            gathered := some g.facts, changed := some false, warnings := g.warnings },
          calls ++ [.get command], s')) ∧
    (∀ q : Request, q.state.isAction = true →
      (∀ outcome after,
        (run o r q (FactSource.ofTable t command) (some device.recording)).run (calls, s) =
          (.ok outcome, after) →
        ∃ g, findings o t r.name text = .ok g ∧ outcome.before = some g.facts) ∧
      (∀ f, findings o t r.name text = .error f → q.fault? true = none →
        (run o r q (FactSource.ofTable t command) (some device.recording)).run (calls, s) =
          (.error f, calls ++ [.get command], s'))) := by
  refine ⟨?_, ?_, ?_⟩
  · intro q link hs hq
    exact run_parsed_of_output o r hs hq htext (link.map Device.recording) (calls, s)
  · intro q hs
    exact run_gathered_of_output o r hget hs calls
  · intro q ha
    refine ⟨fun outcome after hrun => before_of_action o r hget ha hrun, ?_⟩
    intro f hread hfault
    exact run_action_of_failure o r hget hread ha hfault calls

/-! ## Lanes -/

/-- The language of a line that tells a lane; its result adds to the text that was captured. -/
def laneDialect : Dialect where
  table := (RuleTable.ofSpecs [⟨"lane", "^lane (?P<_>[0-9]+)$",
    .map [("next", .text "\x7b\x7b _ + 1 \x7d\x7d")], false, none, none, none⟩]
    ).toOption.getD .empty
  prefixes := .standard

/-- A device that shows a lane and takes everything. -/
def laneDevice : Device Unit := ⟨fun _ => pure "lane 7", fun _ => pure ()⟩

/-- How adding to a text fails. -/
def laneFailure : Failure :=
  .passedOn (.template "\x7b\x7b _ + 1 \x7d\x7d" .invalidOperation)

/-- A text is no number, so a line that tells a lane fails in every state, and nothing is pushed. -/
theorem offline_agrees_with_live_lane :
    (run ⟨false, .list []⟩ (Resource.ofDialect "lane" laneDialect) ⟨.parsed, none, some "lane 7"⟩
        (FactSource.ofTable laneDialect.table "show")
        (none : Option (Device (List Call × Unit)))).run ([], ()) =
      (.error laneFailure, [], ()) ∧
    (run ⟨false, .list []⟩ (Resource.ofDialect "lane" laneDialect) ⟨.gathered, none, none⟩
        (FactSource.ofTable laneDialect.table "show") (some laneDevice.recording)).run ([], ()) =
      (.error laneFailure, [.get "show"], ()) ∧
    (run ⟨false, .list []⟩ (Resource.ofDialect "lane" laneDialect) ⟨.deleted, none, none⟩
        (FactSource.ofTable laneDialect.table "show") (some laneDevice.recording)).run ([], ()) =
      (.error laneFailure, [.get "show"], ()) := by
  have hread : Facts.ofText laneDialect.table "lane 7" =
      .error (.template "\x7b\x7b _ + 1 \x7d\x7d" .invalidOperation) := by decide +kernel
  have hfound : findings ⟨false, .list []⟩ laneDialect.table "lane" "lane 7" =
      .error laneFailure := by
    rw [findings, hread]
    rfl
  have htext : Text.allBlank "lane 7" = false := by decide
  obtain ⟨hparsed, hgathered, haction⟩ := offline_agrees_with_live laneDialect.table "show"
    ⟨false, .list []⟩ (Resource.ofDialect "lane" laneDialect) laneDevice htext
    (Session.run_pure "lane 7" ()) []
  have hoffline := hparsed ⟨.parsed, none, some "lane 7"⟩ none rfl rfl
  have hlive := hgathered ⟨.gathered, none, none⟩ rfl
  have hdeleted := (haction ⟨.deleted, none, none⟩ rfl).2 _ hfound rfl
  have hname : (Resource.ofDialect "lane" laneDialect).name = "lane" := rfl
  rw [hname, hfound] at hoffline hlive
  exact ⟨hoffline, hlive, hdeleted⟩

end Converge.Run
