import Converge.CommandLine
import Converge.Proofs.DeviceCalls
import Converge.Proofs.Directories
import Mathlib.Data.List.Basic

/-!
# The file of pushed commands

The device on the command line keeps what it takes: commands come behind those that it has taken
before, and their text behind the text that was added to its file before, a line for each command.
However many edits there are, the file gets the text of all their commands in order.

A run reads files and adds text to the end of at most one of them: the file for pushed commands gets
the commands that were generated. All that can go wrong goes wrong before that. Behind the push the
facts are read again from the text that was shown before, so what could be read once is read again,
and no failure comes after a change of a file.

`pushed_of_run` says what a changed file stands for, and `run_of_pushes` what a run does that has
something to push.

Main statements: `files_of_edits`, `run_changes_push_file`.
-/

namespace Converge.CommandLine

/-- Commands as the text that is added to a file: each with a line end behind it. -/
def pushedText (commands : List String) : String :=
  String.join (commands.map fun command => command ++ "\n")

theorem pushedText_flatten (edits : List (List String)) :
    pushedText edits.flatten = String.join (edits.map pushedText) := by
  induction edits with
  | nil => rfl
  | cons commands rest ih =>
    rw [List.flatten_cons, pushedText, List.map_append, String.join_append, List.map_cons,
      String.join_cons, ← ih]
    rfl

namespace Setting

variable {c : Setting} {o : RunOptions}

/-! ## The device that a file stands for -/

theorem run_note (s : String) (j : Journal) :
    ∃ notes, (c.note s).run j = (.ok (), { j with notes }) := by
  cases h : c.informs with
  | true => exact ⟨j.notes ++ [s], by simp [note, h]⟩
  | false => exact ⟨j.notes, by simp [note, h]⟩

/-- Where a file can be opened the text of commands comes behind what was added before; otherwise
nothing is added. -/
theorem run_addLines (c : Setting) (path : String) (commands : List String) (j : Journal) :
    ∃ notes, (c.addLines path commands).run j =
      if c.world.appendable path then
        (.ok (), ⟨notes, j.pushed, j.added ++ [(path, pushedText commands)]⟩)
      else (.error (.reported ("Could not open " ++ path)), { j with notes }) := by
  by_cases hopen : c.world.appendable path = true
  · obtain ⟨notes, hnotes⟩ := c.run_note ("[INFO  netrm::device] appended " ++
      Nat.repr commands.length ++ " command(s) to " ++ path)
      ⟨j.notes, j.pushed, j.added ++ [(path, pushedText commands)]⟩
    refine ⟨notes, ?_⟩
    rw [addLines, if_pos hopen, if_pos hopen]
    exact (Session.run_bind_ok (Session.run_modify _ _)).trans hnotes
  · refine ⟨j.notes, ?_⟩
    rw [addLines, if_neg hopen, if_neg hopen]
    rfl

/-- Taking commands puts them behind those that were taken before, and their text behind what was
added before, if there is a file for it. Where the file cannot be opened nothing is taken. -/
theorem run_edit_device (c : Setting) (shown : String) (commands : List String)
    (push : Option String) (j : Journal) :
    ∃ notes, ((c.device shown push).edit commands).run j =
      match push with
      | none => (.ok (), ⟨notes, j.pushed ++ commands, j.added⟩)
      | some path =>
        if c.world.appendable path then (.ok (),
          ⟨notes, j.pushed ++ commands, j.added ++ [(path, pushedText commands)]⟩)
        else (.error (.reported ("Could not open " ++ path)), { j with notes }) := by
  obtain ⟨first, hfirst⟩ := c.run_note ("[INFO  rmtemplate::controller] pushing " ++
    Nat.repr commands.length ++ " command(s) to the device") j
  rcases push with _ | path
  · exact ⟨first, Session.run_bind_ok hfirst⟩
  obtain ⟨notes, hlines⟩ := c.run_addLines path commands { j with notes := first }
  refine ⟨notes, (Session.run_bind_ok hfirst).trans ?_⟩
  dsimp only
  by_cases hopen : c.world.appendable path = true
  · rw [if_pos hopen] at hlines ⊢
    exact Session.run_bind_ok hlines
  · rw [if_neg hopen] at hlines ⊢
    exact Session.run_bind_error hlines

/-- Something is added only by an edit that succeeds, and that has a file for the commands. -/
theorem added_of_edit {shown : String} {commands : List String} {push : Option String}
    {j j' : Journal} {result : Except Failure Unit}
    (h : ((c.device shown push).edit commands).run j = (result, j')) (hadded : j'.added ≠ j.added) :
    result = .ok () ∧ ∃ path, push = some path ∧ c.world.appendable path = true ∧
      j'.pushed = j.pushed ++ commands ∧ j'.added = j.added ++ [(path, pushedText commands)] := by
  obtain ⟨notes, hedit⟩ := run_edit_device c shown commands push j
  rw [h] at hedit
  rcases push with _ | path
  · cases hedit
    exact absurd rfl hadded
  dsimp only at hedit
  by_cases hopen : c.world.appendable path = true
  · rw [if_pos hopen] at hedit
    cases hedit
    exact ⟨rfl, path, rfl, hopen, rfl, rfl⟩
  · rw [if_neg hopen] at hedit
    cases hedit
    exact absurd rfl hadded

/-- However often it is asked, the device shows the same and notes nothing. -/
theorem run_live_device (t : RuleTable) (command name shown : String) (push : Option String)
    (j : Journal) :
    ((FactSource.ofTable t command).live (c.device shown push) name).run j =
      (FactSource.ofOutput t name shown, j) :=
  Run.run_live_of_output rfl name

/-- Edits put their commands behind one another, and add a text each. -/
theorem run_edits_device {path : String} (hopen : c.world.appendable path = true) (shown : String)
    (edits : List (List String)) (j : Journal) :
    ∃ notes, (forM edits (c.device shown (some path)).edit).run j =
      (.ok (), ⟨notes, j.pushed ++ edits.flatten,
        j.added ++ edits.map fun commands => (path, pushedText commands)⟩) := by
  induction edits generalizing j with
  | nil => exact ⟨j.notes, by simp⟩
  | cons commands rest ih =>
    obtain ⟨first, hfirst⟩ := run_edit_device c shown commands (some path) j
    dsimp only at hfirst
    rw [if_pos hopen] at hfirst
    obtain ⟨notes, hrest⟩ :=
      ih ⟨first, j.pushed ++ commands, j.added ++ [(path, pushedText commands)]⟩
    refine ⟨notes, ?_⟩
    rw [List.forM_cons, Session.run_bind_ok hfirst, hrest]
    simp

/-- A change that has something added has succeeded, and has put what it generated behind what was
there: once, to the file for pushed commands. -/
theorem pushed_of_changeCourse {t : RuleTable} {command shown : String} {push : Option String}
    {p : Options} {r : Resource} {q : Request} {j j' : Journal} {result : Except Failure Outcome}
    {steps : List Run.Step}
    (h : Run.ChangeCourse p r q (FactSource.ofTable t command) (c.device shown push) j result steps
      j') (hadded : j'.added ≠ j.added) :
    (∃ outcome, result = .ok outcome) ∧ p.checkMode = false ∧
      ∃ path g commands, push = some path ∧ c.world.appendable path = true ∧
        FactSource.ofOutput t r.name shown = .ok g ∧
        r.generate q.state q.want (Run.factsOr p g) = .ok commands ∧ commands ≠ [] ∧
        j'.pushed = j.pushed ++ commands ∧
        j'.added = j.added ++ [(path, pushedText commands)] := by
  have hunmoved : ∀ {found : Except Failure Gathered} {j₁ j₂ : Journal},
      ((FactSource.ofTable t command).live (c.device shown push) r.name).run j₁ = (found, j₂) →
      FactSource.ofOutput t r.name shown = found ∧ j₁ = j₂ := by
    intro found j₁ j₂ hlive
    rw [run_live_device] at hlive
    exact Prod.mk.inj hlive
  cases h with
  | notGathered hg => exact absurd (congrArg Journal.added (hunmoved hg).2.symm) hadded
  | notGenerated hg _ => exact absurd (congrArg Journal.added (hunmoved hg).2.symm) hadded
  | settled hg _ => exact absurd (congrArg Journal.added (hunmoved hg).2.symm) hadded
  | checked hg _ _ _ => exact absurd (congrArg Journal.added (hunmoved hg).2.symm) hadded
  | notPushed hg _ _ _ hp =>
    obtain ⟨-, rfl⟩ := hunmoved hg
    cases (added_of_edit hp hadded).1
  | notReread hg _ _ _ _ hg' =>
    -- The second reading repeats the first, which succeeded.
    have hboth := (hunmoved hg).1.symm.trans (hunmoved hg').1
    cases hboth
  | @pushed g g' commands _ _ _ hg hc hne hm hp hg' =>
    obtain ⟨hread, rfl⟩ := hunmoved hg
    obtain ⟨-, rfl⟩ := hunmoved hg'
    obtain ⟨-, path, hpush, hopen, htaken, htext⟩ := added_of_edit hp hadded
    exact ⟨⟨_, rfl⟩, hm, path, g, commands, hpush, hopen, hread, hc, hne, htaken, htext⟩

/-! ## Runs -/

/-- What a run comes to generate: the rules, what is wanted and what the device shows can be read,
nothing is wrong with the request, the rules read facts from what is shown, and the commands lead
from these to what is wanted. -/
inductive Generates (c : Setting) (o : RunOptions) : List String → Prop
  | intro {d : Dialect} {config : Option Tree} {path shown : String} {facts : Tree}
      {commands : List String} : c.dialect o.rules = .ok d → o.want.mapM c.want = .ok config →
      o.running = some path → c.world.text? (c.expanded path) = some shown →
      Request.fault? ⟨o.state, config, none⟩ true = none →
      Facts.ofText d.table shown = .ok facts →
      (Resource.ofDialect o.resource d).generate o.state (Request.want ⟨o.state, config, none⟩)
        (if facts.isEmpty then c.settings.emptyFacts else facts) = .ok commands →
      Generates c o commands

/-- That a run has commands to push: it is to change something and not only to check, and it
generates commands. -/
structure Pushes (c : Setting) (o : RunOptions) (commands : List String) : Prop where
  isAction : o.state.isAction = true
  unchecked : o.check = false ∧ c.settings.checkMode = false
  generates : c.Generates o commands
  nonempty : commands ≠ []

theorem request_eq_ok {q : Request} {device : Option (Device Journal)}
    (h : c.request o = .ok (q, device)) :
    device = none ∨ ∃ config path shown, o.want.mapM c.want = .ok config ∧
      o.running = some path ∧ c.world.text? (c.expanded path) = some shown ∧
      q = ⟨o.state, config, none⟩ ∧ device = some (c.device shown (o.push.map c.expanded)) := by
  rcases hwant : o.want.mapM c.want with t | config
  · simp [request, hwant, bind, Except.bind] at h
  simp only [request, hwant, bind, Except.bind] at h
  split at h
  · -- Parsing has no device.
    split at h
    · cases h
    · cases h
      exact Or.inl rfl
  split at h
  · rcases hrunning : o.running with _ | path <;> simp only [hrunning] at h
    · cases h
      exact Or.inl rfl
    rcases hshown : c.world.text? (c.expanded path) with _ | shown <;> simp only [hshown] at h
    · cases h
    · cases h
      exact Or.inr ⟨config, path, shown, rfl, rfl, hshown, rfl, rfl⟩
  · cases h
    exact Or.inl rfl

theorem run_of_ready {d : Dialect} {q : Request} {device : Option (Device Journal)}
    (hd : c.dialect o.rules = .ok d) (hq : c.request o = .ok (q, device)) :
    c.run o =
      match (Run.run (c.runOptions o) (Resource.ofDialect o.resource d) q
        (FactSource.ofTable d.table c.settings.showCommand) device).run .empty with
      | (.error f, j) => ⟨"", some (.failed f), j⟩
      | (.ok outcome, j) =>
        ⟨c.runOutput o outcome, none, { j with notes := j.notes ++ c.checkNotes o outcome }⟩ := by
  rw [run, hd, hq]
  rfl

/-- A run that cannot read its files pushes nothing. -/
theorem run_cases : (∃ t, c.run o = ⟨"", some t, .empty⟩) ∨
    ∃ d q device, c.dialect o.rules = .ok d ∧ c.request o = .ok (q, device) := by
  rcases hd : c.dialect o.rules with t | d
  · exact Or.inl ⟨t, by rw [run, hd]; rfl⟩
  rcases hq : c.request o with t | ⟨q, device⟩
  · exact Or.inl ⟨t, by rw [run, hd, hq]; rfl⟩
  · exact Or.inr ⟨d, q, device, rfl, rfl⟩

/-- Only a change that is not refused leaves anything in the journal. -/
theorem unmoved_or_changed (c : Setting) (shown push : Option String) {t : RuleTable}
    {command : String} {p : Options} {r : Resource} {q : Request} {j j' : Journal}
    {result : Except Failure Outcome}
    (h : (Run.run p r q (FactSource.ofTable t command) (shown.map (c.device · push))).run j =
      (result, j')) :
    j' = j ∨ q.fault? true = none ∧ q.state.isAction = true ∧ ∃ text steps, shown = some text ∧
      Run.ChangeCourse p r q (FactSource.ofTable t command) (c.device text push) j result steps
        j' := by
  have hread : ∀ {d : Device Journal} {found : Except Failure Gathered},
      shown.map (c.device · push) = some d →
      ((FactSource.ofTable t command).live d r.name).run j = (found, j') → j' = j := by
    rintro d found hd hlive
    obtain ⟨text, -, rfl⟩ := Option.map_eq_some_iff.mp hd
    rw [run_live_device] at hlive
    exact (Prod.mk.inj hlive).2.symm
  have hoffline : ∀ {output : String} {found : Except Failure Gathered},
      ((FactSource.ofTable t command).offline r.name output).run j = (found, j') → j' = j := by
    intro output found hparsed
    rw [Run.run_offline] at hparsed
    exact (Prod.mk.inj hparsed).2.symm
  obtain ⟨steps, hcourse⟩ := Run.exists_course h
  cases hcourse with
  | refused _ => exact Or.inl rfl
  | notParsed _ _ hg => exact Or.inl (hoffline hg)
  | parsed _ _ hg => exact Or.inl (hoffline hg)
  | notRendered _ _ _ => exact Or.inl rfl
  | rendered _ _ _ => exact Or.inl rfl
  | notGathered _ hd _ hg => exact Or.inl (hread hd hg)
  | gathered _ hd _ hg => exact Or.inl (hread hd hg)
  | changed hf hd ha hc =>
    obtain ⟨text, htext, rfl⟩ := Option.map_eq_some_iff.mp hd
    rw [hd] at hf
    exact Or.inr ⟨hf, ha, text, steps, htext, hc⟩

/-- What a run adds is the text of commands that it had to push, once, and the run has succeeded. -/
theorem pushed_of_run (h : (c.run o).journal.added ≠ []) :
    (c.run o).trouble = none ∧ ∃ path commands, o.push.map c.expanded = some path ∧
      c.world.appendable path = true ∧ c.Pushes o commands ∧
      (c.run o).journal.pushed = commands ∧
      (c.run o).journal.added = [(path, pushedText commands)] := by
  rcases run_cases (c := c) (o := o) with ⟨t, hrun⟩ | ⟨d, q, device, hd, hq⟩
  · rw [hrun] at h
    exact absurd rfl h
  rw [run_of_ready hd hq] at h ⊢
  rcases hran : (Run.run (c.runOptions o) (Resource.ofDialect o.resource d) q
    (FactSource.ofTable d.table c.settings.showCommand) device).run .empty with ⟨result, j⟩
  rw [hran] at h
  have hadded : j.added ≠ Journal.empty.added := by
    rcases result with f | outcome <;> exact h
  rcases request_eq_ok hq with rfl | ⟨config, file, shown, hwant, hrunning, hshown, rfl, rfl⟩
  · rcases unmoved_or_changed c none none hran with rfl |
      ⟨-, -, text, -, htext, -⟩
    · exact absurd rfl hadded
    · cases htext
  rcases unmoved_or_changed c (some shown) _ hran with rfl |
    ⟨hf, ha, _, steps, ⟨⟩, hc⟩
  · exact absurd rfl hadded
  obtain ⟨⟨outcome, rfl⟩, hm, path, g, commands, hpush, hopen, hread, hgen, hne, htaken, htext⟩ :=
    pushed_of_changeCourse hc hadded
  have hfacts : Facts.ofText d.table shown = .ok g.facts := by
    unfold FactSource.ofOutput at hread
    split at hread
    · cases hread
    · rename_i facts hfacts
      cases hread
      exact hfacts
  have hunchecked : o.check = false ∧ c.settings.checkMode = false := by
    simpa [runOptions] using hm
  have hgenerates : c.Generates o commands :=
    .intro hd hwant hrunning hshown hf hfacts hgen
  exact ⟨rfl, path, commands, hpush, hopen, ⟨ha, hunchecked, hgenerates, hne⟩, htaken, htext⟩

theorem request_of_change {config : Option Tree} {path shown : String}
    (ha : o.state.isAction = true) (hwant : o.want.mapM c.want = .ok config)
    (hrunning : o.running = some path) (hshown : c.world.text? (c.expanded path) = some shown) :
    c.request o =
      .ok (⟨o.state, config, none⟩, some (c.device shown (o.push.map c.expanded))) := by
  have hparsed : o.state ≠ .parsed := by
    rintro h
    rw [h] at ha
    cases ha
  have hcontacts : o.state.contactsDevice = true := by simp [State.contactsDevice, ha]
  simp only [request, hwant, bind, Except.bind, hrunning, hshown]
  rw [if_neg hparsed, if_pos hcontacts]
  rfl

/-- A run that has commands to push succeeds, and adds their text where there is a file for it. It
fails only where that file cannot be opened, and then it adds nothing. -/
theorem run_of_pushes {commands : List String} (h : c.Pushes o commands) :
    match o.push.map c.expanded with
    | none => (c.run o).trouble = none ∧ (c.run o).journal.added = []
    | some path =>
      if c.world.appendable path then (c.run o).trouble = none ∧
        (c.run o).journal.added = [(path, pushedText commands)]
      else (c.run o).trouble = some (.failed (.reported ("Could not open " ++ path))) ∧
        (c.run o).journal.added = [] := by
  obtain ⟨ha, hcheck, hgenerates, hne⟩ := h
  obtain @⟨d, config, file, shown, facts, _, hd, hwant, hrunning, hshown, hf, hfacts, hgen⟩ :=
    hgenerates
  have hm : (c.runOptions o).checkMode = false := by simpa [runOptions] using hcheck
  have hready := run_of_ready hd (request_of_change ha hwant hrunning hshown)
  -- Both times the facts are gathered, the device shows the same text.
  have hlive : ∀ j, ((FactSource.ofTable d.table c.settings.showCommand).live
      (c.device shown (o.push.map c.expanded)) o.resource).run j =
      (.ok ⟨facts, if facts.isEmpty then ["no " ++ o.resource ++
        " facts found in device output"] else []⟩, j) := by
    intro j
    rw [run_live_device, FactSource.ofOutput, hfacts]
  have hstart := hlive .empty
  have hdone : ∀ j, ((c.device shown (o.push.map c.expanded)).edit commands).run .empty =
      (.ok (), j) → (c.run o).trouble = none ∧ (c.run o).journal.added = j.added := by
    intro j hedit
    have hran := Run.run_of_course (.changed (r := Resource.ofDialect o.resource d) hf rfl ha
      (.pushed hstart hgen hne hm hedit (hlive _)))
    rw [hready, hran]
    exact ⟨rfl, rfl⟩
  obtain ⟨notes, hedit⟩ := run_edit_device c shown commands (o.push.map c.expanded) .empty
  rcases hpush : o.push.map c.expanded with _ | path
  · rw [hpush] at hedit hdone
    exact hdone _ hedit
  rw [hpush] at hedit hdone
  dsimp only at hedit ⊢
  by_cases hopen : c.world.appendable path = true
  · rw [if_pos hopen] at hedit ⊢
    exact hdone _ hedit
  · rw [if_neg hopen] at hedit ⊢
    rw [hpush] at hready hstart
    have hran := Run.run_of_course (.changed (r := Resource.ofDialect o.resource d) hf rfl ha
      (.notPushed hstart hgen hne hm hedit))
    rw [hready, hran]
    exact ⟨rfl, rfl⟩

end Setting

/-! ## The directory behind edits and runs -/

theorem Ending.exitCode_eq_zero_iff {e : Ending} : e.exitCode = 0 ↔ e.trouble = none := by
  cases h : e.trouble <;> simp [exitCode, h]

namespace Directory

/-- The file for pushed commands: where the path that a run was given leads to. -/
def pushKey? (d : Directory) (o : RunOptions) : Option String :=
  (o.push.map (FilePath.expanded (some d.name))).bind d.key?

theorem appendable_world (d : Directory) (input settings : Option String) (path : String) :
    (d.world input settings).appendable path = (d.key? path).isSome :=
  rfl

end Directory

/-- **Edits add up.** However many edits a device takes, its file gets the text of all their
commands in order behind what it had before, and no other file gets anything. -/
theorem files_of_edits {c : Setting} {d : Directory} {input settings : Option String}
    {path key : String} {edits : List (List String)} (hc : c.world = d.world input settings)
    (hkey : d.key? path = some key) (hne : edits ≠ []) (shown : String) :
    ∃ j, (forM edits (c.device shown (some path)).edit).run .empty = (.ok (), j) ∧
      j.pushed = edits.flatten ∧
      Fields.get? key (d.appendAll j.added).files =
        some (((Fields.get? key d.files).getD (.ofText "")).append (pushedText edits.flatten)) ∧
      ∀ other, key ≠ other →
        Fields.get? other (d.appendAll j.added).files = Fields.get? other d.files := by
  have hopen : c.world.appendable path = true := by
    rw [hc, Directory.appendable_world, hkey]
    rfl
  obtain ⟨notes, hrun⟩ := Setting.run_edits_device hopen shown edits .empty
  have htexts : edits.map (fun commands => (path, pushedText commands)) =
      (edits.map pushedText).map fun text => (path, text) := by simp
  have hafter : d.appendAll (edits.map fun commands => (path, pushedText commands)) =
      d.append path (pushedText edits.flatten) := by
    rw [htexts, Directory.appendAll_texts d path (by simpa using hne), pushedText_flatten]
  refine ⟨_, hrun, rfl, ?_⟩
  dsimp only [Journal.empty]
  rw [List.nil_append, hafter]
  refine ⟨Directory.get?_append_self hkey _, ?_⟩
  intro other hother
  exact Directory.get?_append_of_ne hkey _ hother

/-- A file that was not there has the commands of two edits, a line for each. -/
example :
    let d : Directory := ⟨"home", []⟩
    let c : Setting := ⟨d.world none none, .standard, 0, false⟩
    let edits := [["hostname R2"], ["no ip routing", "ip routing"]]
    let j := ((forM edits (c.device "" (some "pushed.txt")).edit : Session Journal Unit).run
      .empty).2
    j.pushed.length = 3 ∧ ((d.appendAll j.added).world none none).text? "pushed.txt" =
      some "hostname R2\nno ip routing\nip routing\n" := by
  decide +kernel

section

variable {i : Invocation} {o : RunOptions} (hi : i.command = .run o)

include hi

theorem perform_of_load {w : World} {st : Settings} (hst : Settings.load w i.config = .ok st) :
    perform w i = (⟨w, st, i.verbosity, i.quiet⟩ : Setting).run o := by
  rw [perform, hst, hi]
  rfl

/-- A directory that differs behind a run got the text of commands that the run had to push. -/
theorem after_cases (d : Directory) (input settings : Option String) :
    d.after (perform (d.world input settings) i) = d ∨
      ∃ st path key commands, Settings.load (d.world input settings) i.config = .ok st ∧
        d.pushKey? o = some key ∧ d.key? path = some key ∧
        (⟨d.world input settings, st, i.verbosity, i.quiet⟩ : Setting).Pushes o commands ∧
        (perform (d.world input settings) i).exitCode = 0 ∧
        d.after (perform (d.world input settings) i) = d.append path (pushedText commands) := by
  rcases hst : Settings.load (d.world input settings) i.config with t | st
  · refine Or.inl ?_
    rw [perform, hst]
    rfl
  have hrun := perform_of_load hi hst
  by_cases hadded : (perform (d.world input settings) i).journal.added = []
  · refine Or.inl ?_
    rw [Directory.after, hadded]
    rfl
  rw [hrun] at hadded
  obtain ⟨htrouble, path, commands, hpush, hopen, hpushes, -, htext⟩ :=
    Setting.pushed_of_run hadded
  rw [Directory.appendable_world] at hopen
  obtain ⟨key, hkey⟩ := Option.isSome_iff_exists.mp hopen
  refine Or.inr ⟨st, path, key, commands, rfl, ?_, hkey, hpushes, ?_, ?_⟩
  · exact (congrArg (Option.bind · d.key?) hpush).trans hkey
  · rw [hrun, Ending.exitCode_eq_zero_iff, htrouble]
  · rw [hrun, Directory.after, htext]
    rfl

/-- A run that has commands to push adds their text to the end of the file for it. -/
theorem after_of_pushes {d : Directory} {input settings : Option String} {st : Settings}
    {commands : List String} (hst : Settings.load (d.world input settings) i.config = .ok st)
    (hpushes : (⟨d.world input settings, st, i.verbosity, i.quiet⟩ : Setting).Pushes o commands) :
    match d.pushKey? o with
    | some key => (perform (d.world input settings) i).exitCode = 0 ∧
      Fields.get? key (d.after (perform (d.world input settings) i)).files =
        some (((Fields.get? key d.files).getD (.ofText "")).append (pushedText commands))
    | none => (perform (d.world input settings) i).exitCode = (if o.push.isSome then 1 else 0) ∧
      d.after (perform (d.world input settings) i) = d := by
  have hrun := Setting.run_of_pushes hpushes
  rw [perform_of_load hi hst]
  rcases hpush : o.push with _ | path
  · rw [hpush] at hrun
    obtain ⟨htrouble, hadded⟩ := hrun
    simp [Directory.pushKey?, hpush, Ending.exitCode, Directory.after, Directory.appendAll,
      htrouble, hadded]
  rw [hpush] at hrun
  dsimp only [Option.map_some] at hrun
  rw [Directory.appendable_world] at hrun
  have hkey : d.pushKey? o = d.key? (FilePath.expanded (some d.name) path) := by
    rw [Directory.pushKey?, hpush]
    rfl
  rw [hkey]
  rcases hopen : d.key? (FilePath.expanded (some d.name) path) with _ | key
  · have hclosed : ¬(d.key? (FilePath.expanded (some d.name) path)).isSome = true := by
      simp [hopen]
    obtain ⟨htrouble, hadded⟩ := (if_neg hclosed).mp hrun
    simp [Ending.exitCode, Directory.after, Directory.appendAll, htrouble, hadded]
  · have hopens : (d.key? (FilePath.expanded (some d.name) path)).isSome = true := by
      simp [hopen]
    obtain ⟨htrouble, hadded⟩ := (if_pos hopens).mp hrun
    refine ⟨Ending.exitCode_eq_zero_iff.mpr htrouble, ?_⟩
    rw [Directory.after, hadded]
    exact Directory.get?_append_self hopen _

end

/-- **A run touches no file but the one for pushed commands, and that only by adding what it
generated.** That file is changed only by a run that has commands to push, and then the commands
stand behind what it had before, a line for each, and the run has succeeded. -/
theorem run_changes_push_file (d : Directory) (input settings : Option String) (i : Invocation)
    (o : RunOptions) (hi : i.command = .run o) :
    let w := d.world input settings
    let e := perform w i
    (∀ key, d.pushKey? o ≠ some key →
      Fields.get? key (d.after e).files = Fields.get? key d.files) ∧
    (e.exitCode ≠ 0 → d.after e = d) ∧
    (d.after e ≠ d → ∃ st commands, Settings.load w i.config = .ok st ∧
      (⟨w, st, i.verbosity, i.quiet⟩ : Setting).Pushes o commands) ∧
    ∀ st commands, Settings.load w i.config = .ok st →
      (⟨w, st, i.verbosity, i.quiet⟩ : Setting).Pushes o commands →
      match d.pushKey? o with
      | some key => e.exitCode = 0 ∧ Fields.get? key (d.after e).files =
          some (((Fields.get? key d.files).getD (.ofText "")).append (pushedText commands))
      | none => e.exitCode = (if o.push.isSome then 1 else 0) ∧ d.after e = d := by
  intro w e
  have hcases := after_cases hi d input settings
  refine ⟨?_, ?_, ?_, fun st commands hst hpushes => after_of_pushes hi hst hpushes⟩
  · intro key hkey
    rcases hcases with hsame | ⟨-, path, pushed, commands, -, hpushed, hpath, -, -, hafter⟩
    · exact congrArg (fun d : Directory => Fields.get? key d.files) hsame
    · have hne : pushed ≠ key := by
        rintro rfl
        exact hkey hpushed
      exact (congrArg (fun d : Directory => Fields.get? key d.files) hafter).trans
        (Directory.get?_append_of_ne hpath _ hne)
  · intro hexit
    rcases hcases with hsame | ⟨-, -, -, -, -, -, -, -, hzero, -⟩
    · exact hsame
    · exact absurd hzero hexit
  · intro hchanged
    rcases hcases with hsame | ⟨st, -, -, commands, hst, -, -, hpushes, -, -⟩
    · exact absurd hsame hchanged
    · exact ⟨st, commands, hst, hpushes⟩

/-! ## A transfer unit -/

/-- A directory with a rule for the transfer unit, the wanted one, what a device shows, and a file
that has got commands before. -/
def mtuDirectory : Directory :=
  ⟨"home", [("rules.json", .ofText ("\x7b\"rules\":[\x7b\"name\":\"mtu\"," ++
      "\"pattern\":\"^mtu (?P<_>[0-9]+)$\",\"result\":\x7b\"mtu\":\"\x7b\x7b _ \x7d\x7d\"\x7d," ++
      "\"setval\":\"mtu \x7b\x7b mtu \x7d\x7d\"\x7d]\x7d")),
    ("want.json", .ofText "\x7b\"mtu\":9000\x7d"), ("running", .ofText "mtu 1500\n"),
    ("pushed", .ofText "mtu 1400\n")]⟩

def mtuRun : RunOptions :=
  ⟨"rules.json", .merged, some "want.json", some "running", some "pushed", false, "mtu", false⟩

/-- The world of the directory, without a file of settings. -/
def mtuSetting : Setting := ⟨mtuDirectory.world none (some "config.toml"), .standard, 0, false⟩

/-- The language of the rule. -/
def mtuDialect : Dialect :=
  (mtuSetting.dialect mtuRun.rules).toOption.getD ⟨.empty, .standard⟩

theorem dialect_mtu : mtuSetting.dialect mtuRun.rules = .ok mtuDialect := by
  have hread : (mtuSetting.dialect mtuRun.rules).isOk = true := by decide +kernel
  exact Session.eq_ok_of_isOk hread _

theorem want_mtu :
    mtuRun.want.mapM mtuSetting.want = .ok (some (.map [("mtu", .int 9000)])) := by
  have hread : (mtuRun.want.mapM mtuSetting.want).isOk = true := by decide +kernel
  have hvalue : (mtuRun.want.mapM mtuSetting.want).toOption.getD none =
      some (.map [("mtu", .int 9000)]) := by decide +kernel
  rw [Session.eq_ok_of_isOk hread none, hvalue]

/-- The unit that the device shows is not the wanted one. -/
theorem pushes_mtu : mtuSetting.Pushes mtuRun ["mtu 9000"] where
  isAction := rfl
  unchecked := ⟨rfl, rfl⟩
  generates := by
    have hshown : mtuSetting.world.text? (mtuSetting.expanded "running") = some "mtu 1500\n" := by
      decide +kernel
    have hfacts : Facts.ofText mtuDialect.table "mtu 1500\n" =
        .ok (.map [("mtu", .int 1500)]) := by decide +kernel
    exact .intro dialect_mtu want_mtu rfl hshown rfl hfacts (by decide +kernel)
  nonempty := List.cons_ne_nil _ _

/-- A run on the directory succeeds and adds the one command. -/
theorem run_changes_push_file_mtu :
    Fields.get? "pushed" (mtuDirectory.after (perform mtuSetting.world ⟨0, false, none,
      .run mtuRun⟩)).files = some (.ofText "mtu 1400\nmtu 9000\n") ∧
    (perform mtuSetting.world ⟨0, false, none, .run mtuRun⟩).exitCode = 0 ∧
    Fields.get? "running" (mtuDirectory.after (perform mtuSetting.world ⟨0, false, none,
      .run mtuRun⟩)).files = some (.ofText "mtu 1500\n") := by
  obtain ⟨hframe, -, -, hpushes⟩ := run_changes_push_file mtuDirectory none (some "config.toml")
    ⟨0, false, none, .run mtuRun⟩ mtuRun rfl
  have hkey : mtuDirectory.pushKey? mtuRun = some "pushed" := by decide +kernel
  have hload : Settings.load (mtuDirectory.world none (some "config.toml")) none =
      .ok .standard := by rfl
  have hadded := hpushes .standard ["mtu 9000"] hload pushes_mtu
  rw [hkey] at hadded
  refine ⟨hadded.2.trans rfl, hadded.1, (hframe "running" ?_).trans rfl⟩
  rw [hkey]
  decide

end Converge.CommandLine
