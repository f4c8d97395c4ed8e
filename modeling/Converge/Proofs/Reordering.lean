import Converge.Proofs.Sections
import Converge.Proofs.Tree.Folding

/-!
# Lines again, and sections in another order

A section is read alike wherever it stands. So lines that are read a second time contribute the same
fragments a second time, and these change nothing any more (`ofLines_append_self`). Two sections
whose facts have no key in common have the same facts in either order, each with the keys of the
section that comes first in front (`ofLines_append_comm`).
-/

namespace Converge.Facts

variable {t : RuleTable}

/-! ## Lines read again -/

/-- **Lines that are read again** give the facts that they gave, or the failure. The lines open with
one of a shared rule, as far as a rule matches them, or none of them is one of a shared rule. -/
theorem ofLines_append_self (ht : t.WellFormed) {lines : List String}
    (h : OpensShared t lines ∨ ∀ line ∈ lines, sharedCaptures? t line = none) :
    ofLines t (lines ++ lines) = ofLines t lines := by
  -- The second reading starts from what the first one shared, and does not see it.
  rw [ofLines, ofLines, ofLinesFrom_eq_readFrom, ofLinesFrom_eq_readFrom, readFrom_append,
    readFrom_behind t h]
  rcases hread : readFrom t [] lines with f | us
  · rfl
  · have hwell := wellFormed_of_readFrom ht hread
    have hagain := Tree.foldl_merged_again Tree.wellFormed_empty hwell rfl
    simp only [Except.bind, Except.map, List.foldl_append, hagain]

/-- What a device shows of two interfaces, where the second MTU of the first one replaces the
other. -/
def shownInterfaces : List String :=
  ["interface eth0", " mtu 1500", "interface eth1", " mtu 9000", "interface eth0", " mtu 1400"]

/-- Shown twice, the first interface still has the MTU that was told last, in its place. -/
theorem ofLines_interfaces_twice :
    ofLines interfaceTable (shownInterfaces ++ shownInterfaces) =
      .ok (.map [("eth0", .map [("mtu", .int 1400)]), ("eth1", .map [("mtu", .int 9000)])]) := by
  have hshown : shownInterfaces.find? (fun l => (interfaceTable.firstMatch l).isSome) =
        some "interface eth0" ∧
      (sharedCaptures? interfaceTable "interface eth0").isSome = true ∧
      ofLines interfaceTable shownInterfaces =
        .ok (.map [("eth0", .map [("mtu", .int 1400)]), ("eth1", .map [("mtu", .int 9000)])]) := by
    decide +kernel
  obtain ⟨hfirst, hshared, hfacts⟩ := hshown
  have hopens : OpensShared interfaceTable shownInterfaces :=
    opensShared_of_find? interfaceTable hfirst hshared
  rw [ofLines_append_self wellFormed_interfaceTable (Or.inl hopens), hfacts]

/-! ## Sections in another order -/

theorem ofLines_append_of_apart {lines more : List String} {es fs : Fields Tree} (ht : t.WellFormed)
    (hlines : ofLines t lines = .ok (.map es)) (hmore : ofLines t more = .ok (.map fs))
    (hopens : OpensShared t more) (hmaps : ∀ u ∈ fragments t more, u.isMap = true)
    (hapart : ∀ key ∈ Fields.keys fs, key ∉ Fields.keys es) :
    ofLines t (lines ++ more) = .ok (.map (es ++ fs)) := by
  obtain ⟨hus, hes⟩ := (ofLines_eq_ok_iff t).mp hlines
  obtain ⟨hvs, hfs⟩ := (ofLines_eq_ok_iff t).mp hmore
  generalize fragments t lines = us at hus hes
  generalize fragments t more = vs at hvs hfs hmaps
  -- No fragment brings a key that the section's facts lack, so all its keys are new.
  have hnew : ∀ v ∈ vs, ∀ key, (Tree.field? key v).isSome = true → key ∉ Fields.keys es := by
    intro v hv key hkey
    have hthere := Tree.isSome_field?_foldl_merged (t := .empty) rfl (wellFormed_of_readFrom ht hvs)
      hmaps hv hkey
    rw [hfs] at hthere
    exact hapart key (Fields.mem_keys_iff.mpr (Option.isSome_iff_exists.mp hthere))
  obtain ⟨gs, hgs, hbehind⟩ := Tree.foldl_merged_behind es [] hmaps hnew
  have hsame : gs = fs := Tree.map.inj (hgs.symm.trans hfs)
  rw [List.append_nil] at hbehind
  rw [ofLines, ofLinesFrom_eq_readFrom, readFrom_append, hus, Except.bind,
    readFrom_of_opensShared t hopens, hvs, Except.map, Except.map, List.foldl_append, hes, hbehind,
    hsame]

/-- **Sections without a common key may come in any order.** In either order their facts are the
entries of both, those of the first section in front, and that is the same value. -/
theorem ofLines_append_comm {lines more : List String} {f g : Tree} (ht : t.WellFormed)
    (hf : ofLines t lines = .ok f) (hg : ofLines t more = .ok g) (hlines : OpensShared t lines)
    (hmore : OpensShared t more)
    (hmaps : ∀ u ∈ fragments t lines ++ fragments t more, u.isMap = true)
    (hapart : ∀ key, Tree.field? key f = none ∨ Tree.field? key g = none) :
    ∃ es fs, f = .map es ∧ g = .map fs ∧ ofLines t (lines ++ more) = .ok (.map (es ++ fs)) ∧
      ofLines t (more ++ lines) = .ok (.map (fs ++ es)) ∧
      (Tree.map (es ++ fs)).same (.map (fs ++ es)) = true := by
  have hfirst : ∀ u ∈ fragments t lines, u.isMap = true := fun u hu =>
    hmaps u (List.mem_append_left _ hu)
  have hsecond : ∀ u ∈ fragments t more, u.isMap = true := fun u hu =>
    hmaps u (List.mem_append_right _ hu)
  have hfmap : f.isMap = true :=
    ((ofLines_eq_ok_iff t).mp hf).2 ▸ Tree.isMap_foldl_merged rfl hfirst
  have hgmap : g.isMap = true :=
    ((ofLines_eq_ok_iff t).mp hg).2 ▸ Tree.isMap_foldl_merged rfl hsecond
  obtain ⟨es, rfl⟩ := Tree.isMap_iff.mp hfmap
  obtain ⟨fs, rfl⟩ := Tree.isMap_iff.mp hgmap
  have hnew : ∀ key ∈ Fields.keys fs, key ∉ Fields.keys es := by
    intro key hkey
    obtain ⟨v, hv⟩ := Fields.mem_keys_iff.mp hkey
    have hnone : Fields.get? key fs ≠ none := by simp [hv]
    exact Fields.get?_eq_none_iff.mp ((hapart key).resolve_right hnone)
  have hnew' : ∀ key ∈ Fields.keys es, key ∉ Fields.keys fs := fun key hkey hother =>
    hnew key hother hkey
  have hwell : ∀ {ls : List String} {gs : Fields Tree}, ofLines t ls = .ok (.map gs) →
      (Tree.map gs).WellFormed := fun h => wellFormed_ofLinesFrom ht Tree.wellFormed_empty h
  exact ⟨es, fs, rfl, rfl, ofLines_append_of_apart ht hf hg hmore hsecond hnew,
    ofLines_append_of_apart ht hg hf hlines hfirst hnew',
    Tree.same_map_append_comm (hwell hf) (hwell hg) hnew⟩

/-- Two interfaces keep their own MTU in either order, and stand in the order of their lines. -/
theorem ofLines_interfaces_swapped :
    ofLines interfaceTable
          (["interface eth0", " mtu 1500"] ++ ["!", "interface eth1", " mtu 9000"]) =
        .ok (.map [("eth0", .map [("mtu", .int 1500)]), ("eth1", .map [("mtu", .int 9000)])]) ∧
      ofLines interfaceTable
          (["!", "interface eth1", " mtu 9000"] ++ ["interface eth0", " mtu 1500"]) =
        .ok (.map [("eth1", .map [("mtu", .int 9000)]), ("eth0", .map [("mtu", .int 1500)])]) ∧
      (Tree.map [("eth0", .map [("mtu", .int 1500)]), ("eth1", .map [("mtu", .int 9000)])]).same
        (.map [("eth1", .map [("mtu", .int 9000)]), ("eth0", .map [("mtu", .int 1500)])]) = true := by
  obtain ⟨hfragments, hfragments', hf, hg, -, hfirst, hfirst', hshared, hshared'⟩ :=
    interfaceTable_sections
  have hlines : OpensShared interfaceTable ["interface eth0", " mtu 1500"] :=
    opensShared_of_find? interfaceTable hfirst hshared
  have hmore : OpensShared interfaceTable ["!", "interface eth1", " mtu 9000"] :=
    opensShared_of_find? interfaceTable hfirst' hshared'
  have hmaps : ∀ u ∈ fragments interfaceTable ["interface eth0", " mtu 1500"] ++
      fragments interfaceTable ["!", "interface eth1", " mtu 9000"], u.isMap = true := by
    rw [hfragments, hfragments']
    decide
  have hapart : ∀ key, Tree.field? key (.map [("eth0", .map [("mtu", .int 1500)])]) = none ∨
      Tree.field? key (.map [("eth1", .map [("mtu", .int 9000)])]) = none := by
    intro key
    by_cases hkey : "eth0" = key
    · subst hkey
      exact Or.inr (by decide)
    · exact Or.inl (by simp [Tree.field?, Fields.get?, hkey])
  obtain ⟨es, fs, hes, hfs, hboth⟩ :=
    ofLines_append_comm wellFormed_interfaceTable hf hg hlines hmore hmaps hapart
  obtain rfl := Tree.map.inj hes
  obtain rfl := Tree.map.inj hfs
  exact hboth

end Converge.Facts
