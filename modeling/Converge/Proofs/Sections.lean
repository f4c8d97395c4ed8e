import Converge.Proofs.FactsData
import Converge.Proofs.LineMeaning
import Converge.Proofs.Tree.Merging

/-!
# Sections

Lines whose first matching line belongs to a shared rule are a section: whatever was captured before
them, they are read as if they stood alone. The fragments of the lines before a section and of the
section are then the fragments of all lines, and the facts of all lines are those of the two parts,
merged, as long as the fragments agree on which places hold maps.

`readFrom` parts the two things that the facts of lines are made of: which fragments the lines
contribute, which depends on what is in force, and how fragments are merged, which does not.

Main statement: `ofLines_append_sections`.
-/

namespace Converge.Facts

variable (t : RuleTable)

/-! ## Fragments in order -/

/-- The fragments that lines contribute behind some captures, or the first failure. -/
def readFrom (inForce : Fields Tree) : List String → Except Failure (List Tree)
  | [] => .ok []
  | line :: rest =>
    match t.firstMatch line with
    | none => readFrom inForce rest
    | some (r, captures) =>
      (r.result.fill (.map (context inForce r captures))).bind fun fragment =>
        (readFrom (inForceAfter inForce r captures) rest).map (fragment.toList ++ ·)

/-- A line that no rule matches is passed over. -/
theorem readFrom_cons_of_none {line : String} (h : t.firstMatch line = none)
    (inForce : Fields Tree) (rest : List String) :
    readFrom t inForce (line :: rest) = readFrom t inForce rest := by
  rw [readFrom, h]

theorem readFrom_cons_of_some {line : String} {r : Rule} {captures : Fields Tree}
    (h : t.firstMatch line = some (r, captures)) (inForce : Fields Tree) (rest : List String) :
    readFrom t inForce (line :: rest) =
      (r.result.fill (.map (context inForce r captures))).bind fun fragment =>
        (readFrom t (inForceAfter inForce r captures) rest).map (fragment.toList ++ ·) := by
  rw [readFrom, h]

theorem extended_eq_foldl (facts : Tree) (fragment : Option Tree) :
    extended facts fragment = fragment.toList.foldl Tree.merged facts := by
  cases fragment <;> rfl

/-- Reading facts is reading fragments and merging them in order. -/
theorem ofLinesFrom_eq_readFrom (inForce : Fields Tree) (facts : Tree) (lines : List String) :
    ofLinesFrom t inForce facts lines =
      (readFrom t inForce lines).map (·.foldl Tree.merged facts) := by
  induction lines generalizing inForce facts with
  | nil => rfl
  | cons line rest ih =>
    rcases hm : t.firstMatch line with _ | ⟨r, captures⟩
    · rw [readFrom_cons_of_none t hm, ofLinesFrom, hm]
      exact ih inForce facts
    · rw [readFrom_cons_of_some t hm, ofLinesFrom, hm]
      dsimp only
      rcases r.result.fill (.map (context inForce r captures)) with f | fragment
      · rfl
      · have hrest := ih (inForceAfter inForce r captures) (extended facts fragment)
        rw [Except.bind, hrest, Except.bind]
        rcases readFrom t (inForceAfter inForce r captures) rest with f | us
        · rfl
        · simp only [Except.map, List.foldl_append, extended_eq_foldl]

theorem readFrom_append (inForce : Fields Tree) (lines more : List String) :
    readFrom t inForce (lines ++ more) =
      (readFrom t inForce lines).bind fun us =>
        (readFrom t (inForceBehind t inForce lines) more).map (us ++ ·) := by
  induction lines generalizing inForce with
  | nil =>
    have hbehind : inForceBehind t inForce [] = inForce := rfl
    rw [List.nil_append, hbehind]
    cases readFrom t inForce more <;> rfl
  | cons line rest ih =>
    rw [List.cons_append]
    rcases hm : t.firstMatch line with _ | ⟨r, captures⟩
    · rw [readFrom_cons_of_none t hm, readFrom_cons_of_none t hm, inForceBehind_cons_of_none t hm]
      exact ih inForce
    · rw [readFrom_cons_of_some t hm, readFrom_cons_of_some t hm, inForceBehind_cons_of_some t hm,
        ih]
      rcases r.result.fill (.map (context inForce r captures)) with f | fragment
      · rfl
      rcases readFrom t (inForceAfter inForce r captures) rest with f | us
      · rfl
      rcases readFrom t (inForceBehind t (inForceAfter inForce r captures) rest) more with f | vs
      · rfl
      · simp only [Except.bind, Except.map, List.append_assoc]

theorem readFrom_singleton (before : List String) (line : String) :
    readFrom t (inForceBehind t [] before) [line] =
      ((lineContribution t before line).getD (.ok none)).map Option.toList := by
  rw [lineContribution]
  rcases hm : t.firstMatch line with _ | ⟨r, captures⟩
  · rw [readFrom_cons_of_none t hm]
    rfl
  · rw [readFrom_cons_of_some t hm, Option.map_some, Option.getD_some]
    dsimp only [context]
    generalize r.result.fill _ = outcome
    cases outcome with
    | error f => rfl
    | ok fragment => simp [Except.bind, Except.map, readFrom]

/-- The fragments that are read are those that the lines contribute, place by place. -/
theorem fragments_of_readFrom {lines : List String} {us : List Tree}
    (h : readFrom t [] lines = .ok us) : fragments t lines = us := by
  induction lines using List.reverseRecOn generalizing us with
  | nil =>
    cases h
    rfl
  | append_singleton lines line ih =>
    rw [readFrom_append, readFrom_singleton] at h
    obtain ⟨vs, hvs, h⟩ := Session.bind_eq_ok_iff.mp h
    obtain ⟨ws, hws, rfl⟩ := Session.map_eq_ok_iff.mp h
    rw [fragments_append_singleton, ih hvs]
    rcases hline : lineContribution t lines line with _ | (f | fragment) <;> rw [hline] at hws <;>
      cases hws <;> rfl

/-- What holds of all that the results of the rules can stand for holds of the fragments of
lines. -/
theorem forall_of_readFrom {P : Tree → Prop}
    (hfill : ∀ r ∈ t.rules, ∀ context u, r.result.fill context = .ok (some u) → P u)
    {inForce : Fields Tree} {lines : List String} {us : List Tree}
    (h : readFrom t inForce lines = .ok us) : ∀ u ∈ us, P u := by
  induction lines generalizing inForce us with
  | nil =>
    cases h
    exact fun u hu => absurd hu List.not_mem_nil
  | cons line rest ih =>
    rcases hm : t.firstMatch line with _ | ⟨r, captures⟩
    · rw [readFrom_cons_of_none t hm] at h
      exact ih h
    · rw [readFrom_cons_of_some t hm] at h
      obtain ⟨fragment, hfragment, h⟩ := Session.bind_eq_ok_iff.mp h
      obtain ⟨vs, hvs, rfl⟩ := Session.map_eq_ok_iff.mp h
      intro u hu
      rcases List.mem_append.mp hu with hfirst | hlater
      · obtain rfl := Option.mem_toList.mp hfirst
        exact hfill r (RuleTable.mem_of_firstMatch hm) _ u hfragment
      · exact ih hvs u hlater

theorem wellFormed_of_readFrom {t : RuleTable} (ht : t.WellFormed) {inForce : Fields Tree}
    {lines : List String} {us : List Tree} (h : readFrom t inForce lines = .ok us) :
    ∀ u ∈ us, u.WellFormed :=
  forall_of_readFrom t (fun r hr _ _ hu => Skeleton.wellFormed_fill (ht r hr) hu) h

/-- Facts of lines are fragments that were read. -/
theorem ofLines_eq_ok_iff {lines : List String} {f : Tree} :
    ofLines t lines = .ok f ↔
      readFrom t [] lines = .ok (fragments t lines) ∧
        (fragments t lines).foldl Tree.merged .empty = f := by
  rw [ofLines, ofLinesFrom_eq_readFrom, Session.map_eq_ok_iff]
  constructor
  · rintro ⟨us, hus, rfl⟩
    rw [fragments_of_readFrom t hus]
    exact ⟨hus, rfl⟩
  · rintro ⟨hread, rfl⟩
    exact ⟨_, hread, rfl⟩

/-! ## Where a section begins -/

/-- Whether the first of some lines that a rule matches, if there is one, is one of a shared
rule. -/
def OpensShared (lines : List String) : Prop :=
  ∀ line, lines.find? (fun l => (t.firstMatch l).isSome) = some line →
    (sharedCaptures? t line).isSome = true

theorem opensShared_of_find? {lines : List String} {line : String}
    (hfirst : lines.find? (fun l => (t.firstMatch l).isSome) = some line)
    (hshared : (sharedCaptures? t line).isSome = true) : OpensShared t lines := by
  intro other hother
  rw [hfirst] at hother
  cases hother
  exact hshared

/-- What is in force before a section does not count in it. -/
theorem readFrom_of_opensShared {lines : List String} (h : OpensShared t lines)
    (inForce : Fields Tree) : readFrom t inForce lines = readFrom t [] lines := by
  induction lines with
  | nil => rfl
  | cons line rest ih =>
    rcases hm : t.firstMatch line with _ | ⟨r, captures⟩
    · rw [readFrom_cons_of_none t hm, readFrom_cons_of_none t hm]
      refine ih fun first hfirst => h first ?_
      rw [List.find?_cons_of_neg (by simp [hm]), hfirst]
    · have hshared := h line (by rw [List.find?_cons_of_pos (by simp [hm])])
      have hr : r.shared = true := by
        by_contra hr
        simp [sharedCaptures?, hm, hr] at hshared
      simp only [readFrom_cons_of_some t hm, context, inForceAfter, hr, if_true]

/-- Lines without one of a shared rule leave in force what was. -/
theorem inForceBehind_of_unshared {lines : List String}
    (h : ∀ line ∈ lines, sharedCaptures? t line = none) (inForce : Fields Tree) :
    inForceBehind t inForce lines = inForce := by
  rw [inForceBehind, List.findSome?_eq_none_iff.mpr fun line hline =>
    h line (List.mem_reverse.mp hline)]
  rfl

/-- Lines do not change how a section behind them is read, and without a line of a shared rule they
change it nowhere. -/
theorem readFrom_behind {lines more : List String}
    (h : OpensShared t more ∨ ∀ line ∈ lines, sharedCaptures? t line = none) :
    readFrom t (inForceBehind t [] lines) more = readFrom t [] more := by
  rcases h with hopens | hunshared
  · exact readFrom_of_opensShared t hopens _
  · rw [inForceBehind_of_unshared t hunshared]

variable {t}

/-- **The facts of a text and of a section behind it** are the facts of both parts, merged, where
the fragments of all lines hold maps at the same keys, and the empty map that they are merged into
does, too. -/
theorem ofLines_append_sections {lines more : List String} {f g : Tree} (ht : t.WellFormed)
    (hf : ofLines t lines = .ok f) (hg : ofLines t more = .ok g)
    (hsection : OpensShared t more ∨ ∀ line ∈ lines, sharedCaptures? t line = none)
    (hshape : Tree.OneShape (.empty :: (fragments t lines ++ fragments t more))) :
    ofLines t (lines ++ more) = .ok (f.merged g) := by
  obtain ⟨hus, rfl⟩ := (ofLines_eq_ok_iff t).mp hf
  obtain ⟨hvs, rfl⟩ := (ofLines_eq_ok_iff t).mp hg
  generalize fragments t lines = us at hus hshape ⊢
  generalize fragments t more = vs at hvs hshape ⊢
  have hwell := wellFormed_of_readFrom ht hus
  have hread : readFrom t [] (lines ++ more) = .ok (us ++ vs) := by
    rw [readFrom_append, hus, Except.bind, readFrom_behind t hsection, hvs, Except.map]
  have hfirst : (us.foldl Tree.merged .empty).isMap = true := by
    have hempty : ∀ u ∈ Tree.empty :: us, Tree.SameShape u .empty := fun u hu =>
      hshape u (List.cons_subset_cons _ (List.subset_append_left us vs) hu) _ List.mem_cons_self
    rw [List.forall_mem_cons] at hempty
    exact Tree.sameShape_foldl_merged hwell hempty.1 hempty.2 [] _ _ rfl rfl
  have hbehind : Tree.OneShape (.empty :: vs) :=
    hshape.subset (List.cons_subset_cons _ (List.subset_append_right us vs))
  rw [ofLines, ofLinesFrom_eq_readFrom, hread, Except.map, List.foldl_append,
    Tree.foldl_merged (Tree.wellFormed_foldl_merged Tree.wellFormed_empty hwell) hfirst
      (wellFormed_of_readFrom ht hvs) hbehind]

/-! ## Interfaces -/

/-- The rules of two lines: an interface begins a section, and its MTU is told below it. -/
def interfaceSpecs : List RuleSpec :=
  [⟨"interface", "^interface (?P<_>.+)$", .map [("\x7b\x7b _ \x7d\x7d", .map [])], true, none,
      none, none⟩,
    ⟨"mtu", "^ mtu (?P<__>[0-9]+)$",
      .map [("\x7b\x7b _ \x7d\x7d", .map [("mtu", .text "\x7b\x7b __ \x7d\x7d")])], false,
      none, none, none⟩]

def interfaceTable : RuleTable :=
  (RuleTable.ofSpecs interfaceSpecs).toOption.getD .empty

theorem wellFormed_interfaceTable : interfaceTable.WellFormed := by
  rw [interfaceTable]
  cases ht : RuleTable.ofSpecs interfaceSpecs with
  | ok t =>
    refine RuleTable.wellFormed_ofSpecs ?_ ht
    simp [interfaceSpecs, Tree.WellFormed, Tree.WellFormedFields, Fields.keys]
  | error f => exact fun r hr => absurd hr List.not_mem_nil

/-- What the table reads from the sections of two interfaces, each of which begins with its name. -/
theorem interfaceTable_sections :
    fragments interfaceTable ["interface eth0", " mtu 1500"] =
        [.map [("eth0", .map [])], .map [("eth0", .map [("mtu", .int 1500)])]] ∧
      fragments interfaceTable ["!", "interface eth1", " mtu 9000"] =
        [.map [("eth1", .map [])], .map [("eth1", .map [("mtu", .int 9000)])]] ∧
      ofLines interfaceTable ["interface eth0", " mtu 1500"] =
        .ok (.map [("eth0", .map [("mtu", .int 1500)])]) ∧
      ofLines interfaceTable ["!", "interface eth1", " mtu 9000"] =
        .ok (.map [("eth1", .map [("mtu", .int 9000)])]) ∧
      ofLines interfaceTable (["interface eth0", " mtu 1500"] ++ ["interface eth1"]) =
        .ok (.map [("eth0", .map [("mtu", .int 1500)]), ("eth1", .map [])]) ∧
      ["interface eth0", " mtu 1500"].find? (fun l => (interfaceTable.firstMatch l).isSome) =
        some "interface eth0" ∧
      ["!", "interface eth1", " mtu 9000"].find? (fun l => (interfaceTable.firstMatch l).isSome) =
        some "interface eth1" ∧
      (sharedCaptures? interfaceTable "interface eth0").isSome = true ∧
      (sharedCaptures? interfaceTable "interface eth1").isSome = true := by
  decide +kernel

/-- The MTU of the second interface stays its own behind the lines of the first. -/
theorem ofLines_append_interfaces :
    ofLines interfaceTable
        (["interface eth0", " mtu 1500"] ++ ["!", "interface eth1", " mtu 9000"]) =
      .ok ((Tree.map [("eth0", .map [("mtu", .int 1500)])]).merged
        (.map [("eth1", .map [("mtu", .int 9000)])])) := by
  obtain ⟨hfragments, hfragments', hf, hg, -, -, hfirst, -, hshared⟩ := interfaceTable_sections
  have hshape : ∀ u ∈ Tree.empty :: (fragments interfaceTable ["interface eth0", " mtu 1500"] ++
        fragments interfaceTable ["!", "interface eth1", " mtu 9000"]),
      ∀ v ∈ Tree.empty :: (fragments interfaceTable ["interface eth0", " mtu 1500"] ++
        fragments interfaceTable ["!", "interface eth1", " mtu 9000"]),
      u.shapesAgree v = true := by
    rw [hfragments, hfragments']
    decide
  have hopens : OpensShared interfaceTable ["!", "interface eth1", " mtu 9000"] :=
    opensShared_of_find? interfaceTable hfirst hshared
  exact ofLines_append_sections wellFormed_interfaceTable hf hg (Or.inl hopens)
    fun u hu v hv => Tree.sameShape_of_shapesAgree (hshape u hu v hv)

end Converge.Facts
