import Converge.Proofs.Sections
import Converge.Proofs.Tree.Folding

/-!
# Facts that grow

Facts begin as a map without entries, and a fragment that is a map only adds keys behind those that
are there. A fragment that is no map takes the place of all that was read before it, so facts grow
as long as the results of the rules are maps or null, and not longer.

Main statement: `ofLines_grows`.
-/

namespace Converge

theorem Fields.keys_prefix_put {α : Type} (key : String) (v : α) (fs : Fields α) :
    keys fs <+: keys (put key v fs) := by
  by_cases h : key ∈ keys fs
  · exact (keys_put_of_mem h v).symm ▸ List.prefix_rfl
  · rw [keys_put_of_not_mem h]
    exact List.prefix_append _ _

namespace Tree

/-- The keys at the top of a tree, in order; only a map has any. -/
def topKeys : Tree → List String
  | map es => Fields.keys es
  | _ => []

theorem keys_prefix_mergedFields (es fs : Fields Tree) :
    Fields.keys es <+: Fields.keys (mergedFields es fs) := by
  induction fs generalizing es with
  | nil => exact List.prefix_rfl
  | cons e rest ih =>
    obtain ⟨k, v⟩ := e
    rw [mergedFields]
    exact (Fields.keys_prefix_put k _ es).trans (ih _)

/-- A map that is merged over a tree adds its keys behind those of the tree. -/
theorem topKeys_prefix_merged {other : Tree} (h : other.isMap = true) (base : Tree) :
    base.topKeys <+: (base.merged other).topKeys := by
  obtain ⟨fs, rfl⟩ := isMap_iff.mp h
  cases base with
  | map es =>
    simp only [merged, topKeys]
    exact keys_prefix_mergedFields es fs
  | _ => exact List.nil_prefix

theorem topKeys_prefix_foldl_merged {us : List Tree} (hus : ∀ u ∈ us, u.isMap = true) (t : Tree) :
    t.topKeys <+: (us.foldl merged t).topKeys := by
  induction us generalizing t with
  | nil => exact List.prefix_rfl
  | cons u rest ih =>
    rw [List.forall_mem_cons] at hus
    exact (topKeys_prefix_merged hus.1 t).trans (ih hus.2 _)

/-- The last of some trees that are merged one after the other decides whether a map comes out. -/
theorem isMap_foldl_merged_eq (us : List Tree) (t : Tree) :
    (us.foldl merged t).isMap = (us.getLast?.getD t).isMap := by
  induction us using List.reverseRecOn with
  | nil => rfl
  | append_singleton before last _ =>
    rw [List.foldl_concat, isMap_merged, List.getLast?_concat, Option.getD_some]

end Tree

/-- What a map stands for is a map. -/
theorem Skeleton.isMap_of_fill {entries : List (String × Skeleton)} {context u : Tree}
    (h : (map entries).fill context = .ok (some u)) : u.isMap = true := by
  rw [fill] at h
  obtain ⟨fs, -, hu⟩ := Session.map_eq_ok_iff.mp h
  cases hu
  rfl

/-- A record that has a map for its result, or none, gives a rule whose result is a map. -/
theorem Rule.exists_map_of_ofSpec {s : RuleSpec} {r : Rule}
    (hs : s.result = .null ∨ s.result.isMap = true) (h : Rule.ofSpec s = .ok r) :
    ∃ entries, r.result = .map entries := by
  obtain ⟨p, -, rfl⟩ := Rule.exists_pattern_of_ofSpec h
  rcases hs with hnull | hmap
  · exact ⟨[], by rw [hnull]; rfl⟩
  · obtain ⟨es, hes⟩ := Tree.isMap_iff.mp hmap
    exact ⟨Skeleton.ofFields es, by rw [hes]; rfl⟩

namespace Facts

variable {t : RuleTable}

theorem isMap_of_readFrom {specs : List RuleSpec} (ht : RuleTable.ofSpecs specs = .ok t)
    (hmaps : ∀ s ∈ specs, s.result = .null ∨ s.result.isMap = true) {inForce : Fields Tree}
    {lines : List String} {us : List Tree} (h : readFrom t inForce lines = .ok us) :
    ∀ u ∈ us, u.isMap = true := by
  refine forall_of_readFrom t (fun r hr context u hu => ?_) h
  obtain ⟨s, hs, hspec⟩ := RuleTable.exists_spec_of_mem ht r hr
  obtain ⟨entries, hresult⟩ := Rule.exists_map_of_ofSpec (hmaps s hs) hspec
  rw [hresult] at hu
  exact Skeleton.isMap_of_fill hu

/-- Facts of lines that are followed by more go on with the fragments of the others. -/
theorem exists_ofLines_of_append {lines more : List String} {f : Tree}
    (h : ofLines t (lines ++ more) = .ok f) :
    ∃ g us, ofLines t lines = .ok g ∧
      fragments t (lines ++ more) = fragments t lines ++ us ∧ us.foldl Tree.merged g = f := by
  obtain ⟨hread, rfl⟩ := (ofLines_eq_ok_iff t).mp h
  rw [readFrom_append] at hread
  obtain ⟨us, hus, hread⟩ := Session.bind_eq_ok_iff.mp hread
  obtain ⟨vs, -, hvs⟩ := Session.map_eq_ok_iff.mp hread
  obtain rfl := fragments_of_readFrom t hus
  refine ⟨(fragments t lines).foldl Tree.merged .empty, vs, ?_, hvs.symm, ?_⟩
  · exact (ofLines_eq_ok_iff t).mpr ⟨hus, rfl⟩
  · rw [← hvs, List.foldl_append]

/-- **What facts are behind more lines.** Where lines and more lines can be read, so can the first
lines alone. Facts are a map unless the last fragment is none. As long as the fragments of the other
lines are maps the keys stay in front, in their order, and new ones come behind them; but nothing is
left of the first lines when one of these fragments is no map. In a table whose results are maps or
null facts are always maps, and always grow. -/
theorem ofLines_grows {specs : List RuleSpec} (ht : RuleTable.ofSpecs specs = .ok t)
    {lines more : List String} {f : Tree} (h : ofLines t (lines ++ more) = .ok f) :
    ∃ g us, ofLines t lines = .ok g ∧ fragments t (lines ++ more) = fragments t lines ++ us ∧
      g.isMap = ((fragments t lines).getLast?.getD .empty).isMap ∧
      f.isMap = ((fragments t (lines ++ more)).getLast?.getD .empty).isMap ∧
      ((∀ u ∈ us, u.isMap = true) → g.topKeys <+: f.topKeys) ∧
      ((∃ u ∈ us, ¬u.isMap = true) → us.foldl Tree.merged .empty = f) ∧
      ((∀ s ∈ specs, s.result = .null ∨ s.result.isMap = true) →
        g.isMap = true ∧ f.isMap = true ∧ g.topKeys <+: f.topKeys) := by
  obtain ⟨g, us, hg, hsplit, hf⟩ := exists_ofLines_of_append h
  obtain ⟨hreadFirst, hfirst⟩ := (ofLines_eq_ok_iff t).mp hg
  obtain ⟨hreadAll, hall⟩ := (ofLines_eq_ok_iff t).mp h
  have hgrows : (∀ u ∈ us, u.isMap = true) → g.topKeys <+: f.topKeys := fun hus =>
    hf ▸ Tree.topKeys_prefix_foldl_merged hus g
  refine ⟨g, us, hg, hsplit, ?_, ?_, hgrows, ?_, ?_⟩
  · rw [← hfirst, Tree.isMap_foldl_merged_eq]
  · rw [← hall, Tree.isMap_foldl_merged_eq]
  · rintro ⟨u, hu, hmap⟩
    rw [Tree.foldl_merged_eq_of_mem hu hmap .empty g, hf]
  · intro hmaps
    have hread := isMap_of_readFrom ht hmaps hreadAll
    refine ⟨?_, ?_, hgrows ?_⟩
    · exact hfirst ▸ Tree.isMap_foldl_merged rfl (isMap_of_readFrom ht hmaps hreadFirst)
    · exact hall ▸ Tree.isMap_foldl_merged rfl hread
    · intro u hu
      exact hread u (hsplit ▸ List.mem_append_right _ hu)

/-! ## Interfaces and banners -/

theorem ofSpecs_interfaceSpecs : RuleTable.ofSpecs interfaceSpecs = .ok interfaceTable := by
  have hread : (RuleTable.ofSpecs interfaceSpecs).isOk = true := by decide +kernel
  exact Session.eq_ok_of_isOk hread _

/-- An interface stays in front when another one comes behind it. -/
theorem ofLines_grows_interfaces :
    ∃ g f, ofLines interfaceTable ["interface eth0", " mtu 1500"] = .ok g ∧
      ofLines interfaceTable (["interface eth0", " mtu 1500"] ++ ["interface eth1"]) = .ok f ∧
      g.isMap = true ∧ f.isMap = true ∧ g.topKeys <+: f.topKeys ∧
      f.topKeys = ["eth0", "eth1"] := by
  obtain ⟨-, -, -, -, hread, -⟩ := interfaceTable_sections
  have hmaps : ∀ s ∈ interfaceSpecs, s.result = .null ∨ s.result.isMap = true := by
    simp [interfaceSpecs, Tree.isMap]
  obtain ⟨g, us, hg, -, -, -, -, -, hgrows⟩ := ofLines_grows ofSpecs_interfaceSpecs hread
  obtain ⟨hfirst, hall, hkeys⟩ := hgrows hmaps
  exact ⟨g, _, hg, hread, hfirst, hall, hkeys, rfl⟩

/-- The rules of a host name and of a banner, whose result is a text. -/
def bannerSpecs : List RuleSpec :=
  [⟨"hostname", "^hostname (?P<_>.+)$", .map [("hostname", .text "\x7b\x7b _ \x7d\x7d")], false,
      none, none, none⟩,
    ⟨"banner", "^banner$", .text "none", false, none, none, none⟩]

def bannerTable : RuleTable :=
  (RuleTable.ofSpecs bannerSpecs).toOption.getD .empty

/-- A text in the place of a map leaves nothing of the host name that was read before. -/
theorem ofLines_banner :
    (RuleTable.ofSpecs bannerSpecs).isOk = true ∧
    ofLines bannerTable ["hostname R1"] = .ok (.map [("hostname", .text "R1")]) ∧
    ofLines bannerTable (["hostname R1"] ++ ["banner"]) = .ok (.text "none") := by
  decide +kernel

end Facts

end Converge
