import Converge.CommandLine.World
import Converge.Proofs.Text.Splitting

/-!
# Places in a directory

A path is followed from one directory to the next, and so the place that it leads to stands in a
directory. Text that is added to a file there makes no directory: every path leads to where it led
before. So texts that are added to one file come behind one another, as if they were one text.

Main statements: `key?_append`, `appendAll_texts`.
-/

namespace Converge.CommandLine

theorem Content.append_append (c : Content) (first second : String) :
    (c.append first).append second = c.append (first ++ second) := by
  simp [append, String.append_assoc]

namespace Directory

variable {d e : Directory} {here there : List String}

/-! ## Directories -/

theorem isDirectory_iff : d.isDirectory here = true ↔ here = [] ∨
    ∃ path ∈ Fields.keys d.files, here.length < (segments path).length ∧
      here.reverse <+: segments path := by
  simp [isDirectory, Fields.keys, List.prefix_iff_eq_take, @eq_comm _ here.reverse]

/-- What is above a directory is a directory. -/
theorem isDirectory_of_suffix (h : d.isDirectory here = true) (hsuffix : there <:+ here) :
    d.isDirectory there = true := by
  rw [isDirectory_iff] at h ⊢
  rcases h with rfl | ⟨path, hpath, hlength, hprefix⟩
  · exact Or.inl (List.suffix_nil.mp hsuffix)
  · have hshorter : there.length ≤ here.length := hsuffix.length_le
    have hfront : there.reverse <+: segments path :=
      (List.reverse_prefix.mpr hsuffix).trans hprefix
    exact Or.inr ⟨path, hpath, by omega, hfront⟩

/-! ## Places -/

/-- That a place stands in a directory, and has segments as paths have them. -/
structure Placed (d : Directory) (here : List String) : Prop where
  above : d.isDirectory here.tail = true
  undivided : ∀ s ∈ here, '/' ∉ s.toList

theorem placed_root : d.Placed [] := ⟨rfl, by simp⟩

theorem not_mem_of_mem_segments {path s : String} (h : s ∈ segments path) : '/' ∉ s.toList := by
  obtain ⟨piece, hpiece, rfl⟩ := List.mem_map.mp h
  rw [String.toList_ofList]
  exact Text.not_mem_of_mem_splitOn hpiece

/-- The path of a place has its segments. -/
theorem segments_pathOf (h : d.Placed here) (hne : here ≠ []) :
    segments (pathOf here) = here.reverse := by
  have hpieces : here.reverse.map String.toList ≠ [] := by simpa using hne
  have hundivided : ∀ piece ∈ here.reverse.map String.toList, '/' ∉ piece := by
    intro piece hpiece
    obtain ⟨s, hs, rfl⟩ := List.mem_map.mp hpiece
    exact h.undivided s (List.mem_reverse.mp hs)
  have hsplit := Text.splitOn_intercalate hpieces hundivided
  rw [segments, pathOf, String.toList_intercalate]
  refine (congrArg (List.map String.ofList) hsplit).trans ?_
  simp

/-- From place to place a path leads to a place. -/
theorem placed_of_follow {rest : List String} (h : d.Placed here)
    (hrest : ∀ s ∈ rest, '/' ∉ s.toList) (hfollow : d.follow here rest = some there) :
    d.Placed there := by
  fun_induction follow d here rest with
  | case1 here =>
    cases hfollow
    exact h
  | case2 => cases hfollow
  | case3 here s rest _ _ ih =>
    exact ih h (List.forall_mem_cons.mp hrest).2 hfollow
  | case4 => cases hfollow
  | case5 rest last above _ _ ih =>
    -- Two dots lead up, where everything is a directory.
    have hup : d.isDirectory above.tail = true :=
      isDirectory_of_suffix h.above (List.tail_suffix above)
    have hsegments : ∀ s ∈ above, '/' ∉ s.toList := fun s hs =>
      h.undivided s (List.mem_cons_of_mem _ hs)
    exact ih ⟨hup, hsegments⟩ (List.forall_mem_cons.mp hrest).2 hfollow
  | case6 here s rest hdirectory _ _ ih =>
    have hdown : d.isDirectory here = true := by simpa using hdirectory
    obtain ⟨hs, hmore⟩ := List.forall_mem_cons.mp hrest
    exact ih ⟨hdown, List.forall_mem_cons.mpr ⟨hs, h.undivided⟩⟩ hmore hfollow

theorem placed_of_resolve {path : String} (h : d.resolve path = some here) : d.Placed here := by
  have hsegments : ∀ inside : String, d.follow [] (segments inside) = some here → d.Placed here :=
    fun inside => placed_of_follow placed_root fun _ => not_mem_of_mem_segments
  unfold resolve at h
  split at h
  · exact hsegments _ h
  split at h
  · cases h
    exact placed_root
  split at h
  · cases h
  · exact hsegments _ h

theorem key?_eq_some_iff {path key : String} : d.key? path = some key ↔
    ∃ here, d.resolve path = some here ∧ d.isDirectory here = false ∧ pathOf here = key := by
  rw [key?, Option.bind_eq_some_iff]
  refine exists_congr fun here => and_congr_right fun _ => ?_
  cases d.isDirectory here <;> simp

/-! ## Where paths lead -/

theorem follow_congr (h : ∀ here, d.isDirectory here = e.isDirectory here) (rest : List String) :
    d.follow here rest = e.follow here rest := by
  induction rest generalizing here with
  | nil => rfl
  | cons s rest ih =>
    rw [follow.eq_def, follow.eq_def e]
    simp only [h here, ih]

/-- Where paths lead depends on the directories. -/
theorem key?_congr (hname : d.name = e.name)
    (h : ∀ here, d.isDirectory here = e.isDirectory here) (path : String) :
    d.key? path = e.key? path := by
  have hresolve : d.resolve path = e.resolve path := by
    simp only [resolve, hname, follow_congr h]
  simp only [key?, hresolve, h]

/-- A file at a place that is no directory makes no directory. -/
theorem isDirectory_put (hplaced : d.Placed there) (hfile : d.isDirectory there = false)
    (content : Content) (here : List String) :
    isDirectory { d with files := Fields.put (pathOf there) content d.files } here =
      d.isDirectory here := by
  by_cases hold : pathOf there ∈ Fields.keys d.files
  · have hkeys := Fields.keys_put_of_mem hold content
    rw [Bool.eq_iff_iff, isDirectory_iff, isDirectory_iff, hkeys]
  have hkeys := Fields.keys_put_of_not_mem hold content
  rw [Bool.eq_iff_iff]
  constructor
  · intro h
    rw [isDirectory_iff, hkeys] at h
    rcases h with hroot | ⟨path, hpath, hlength, hprefix⟩
    · exact isDirectory_iff.mpr (Or.inl hroot)
    rcases List.mem_append.mp hpath with hpath | hpath
    · exact isDirectory_iff.mpr (Or.inr ⟨path, hpath, hlength, hprefix⟩)
    -- On the way to the new file there are only directories.
    rcases there with _ | ⟨last, above⟩
    · cases hfile
    have hsegments := segments_pathOf hplaced (List.cons_ne_nil last above)
    rw [List.mem_singleton.mp hpath, hsegments] at hlength hprefix
    have hsuffix : here <:+ last :: above := List.reverse_prefix.mp hprefix
    rcases List.suffix_cons_iff.mp hsuffix with rfl | habove
    · simp at hlength
    · exact isDirectory_of_suffix hplaced.above habove
  · intro h
    rw [isDirectory_iff] at h ⊢
    rw [hkeys]
    refine h.imp_right ?_
    rintro ⟨path, hpath, hfront⟩
    exact ⟨path, List.mem_append_left _ hpath, hfront⟩

/-! ## Files -/

/-- Text that is added to a file changes nothing about where paths lead. -/
theorem key?_append (d : Directory) (path text other : String) :
    (d.append path text).key? other = d.key? other := by
  rw [append]
  rcases hkey : d.key? path with _ | key
  · rfl
  · obtain ⟨there, hthere, hfile, rfl⟩ := key?_eq_some_iff.mp hkey
    apply key?_congr
    · rfl
    · exact isDirectory_put (placed_of_resolve hthere) hfile _

section

variable {path key : String} (h : d.key? path = some key) (text : String)

include h

theorem get?_append_self : Fields.get? key (d.append path text).files =
    some (((Fields.get? key d.files).getD (.ofText "")).append text) := by
  rw [append, h]
  exact Fields.get?_put_self _ _ _

theorem get?_append_of_ne {other : String} (hne : key ≠ other) :
    Fields.get? other (d.append path text).files = Fields.get? other d.files := by
  rw [append, h]
  exact Fields.get?_put_of_ne hne _ _

end

/-- A text that is added behind a text comes behind it. -/
theorem append_append (d : Directory) (path first second : String) :
    (d.append path first).append path second = d.append path (first ++ second) := by
  rcases hkey : d.key? path with _ | key
  · simp only [append, hkey]
  have hagain : (d.append path first).key? path = some key := by rw [key?_append, hkey]
  have hbetween := get?_append_self hkey first
  rw [append, hagain]
  dsimp only
  rw [hbetween, append, append, hkey]
  simp only [Option.getD_some, Content.append_append, Fields.put_put_self]

/-- Texts that are added to one file are added as one text. -/
theorem appendAll_texts {texts : List String} (d : Directory) (path : String) (hne : texts ≠ []) :
    d.appendAll (texts.map fun text => (path, text)) = d.append path (String.join texts) := by
  induction texts generalizing d with
  | nil => exact absurd rfl hne
  | cons text rest ih =>
    rcases rest with _ | ⟨next, more⟩
    · simp [appendAll]
    · rw [List.map_cons, appendAll, ih _ (List.cons_ne_nil _ _), append_append, ← String.join_cons]

end Directory

end Converge.CommandLine
