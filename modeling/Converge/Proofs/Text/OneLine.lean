import Converge.Text.Find
import Converge.Text.Lines
import Mathlib.Data.List.Basic

/-!
# Texts that are one line

A text without line ends and without blanks at its ends is one line, which cleaning leaves alone.
-/

namespace Converge.Text

theorem not_blank_of_isDigit {c : Char} (h : c.isDigit = true) : isBlank c = false := by
  have hrange : 48 ≤ c.toNat ∧ c.toNat ≤ 57 := by
    simpa [Char.isDigit, UInt32.le_iff_toNat_le] using h
  simp only [isBlank, Bool.or_eq_false_iff, Bool.and_eq_false_iff, decide_eq_false_iff_not,
    beq_eq_false_iff_ne]
  omega

theorem trimEnd_append_of_ne_nil (cs : List Char) {ds : List Char} (h : trimEnd ds ≠ []) :
    trimEnd (cs ++ ds) = cs ++ trimEnd ds := by
  induction cs with
  | nil => rfl
  | cons c cs ih =>
    rw [List.cons_append, trimEnd, ih]
    split
    · rename_i hnil
      exact absurd (List.append_eq_nil_iff.mp hnil).2 h
    · rfl

theorem trimEnd_append_of_eq_nil (cs : List Char) {ds : List Char} (h : trimEnd ds = []) :
    trimEnd (cs ++ ds) = trimEnd cs := by
  induction cs with
  | nil => exact h
  | cons c cs ih => simp only [List.cons_append, trimEnd, ih]

theorem trimEnd_concat_of_not_blank (cs : List Char) {c : Char} (h : isBlank c = false) :
    trimEnd (cs ++ [c]) = cs ++ [c] := by
  have hlast : trimEnd [c] = [c] := by simp [trimEnd, h]
  rw [trimEnd_append_of_ne_nil cs (by simp [hlast]), hlast]

theorem trimEnd_of_forall {cs : List Char} (h : ∀ c ∈ cs, isBlank c = false) :
    trimEnd cs = cs := by
  rcases List.eq_nil_or_concat' cs with rfl | ⟨front, c, rfl⟩
  · rfl
  · exact trimEnd_concat_of_not_blank front (h c (by simp))

theorem prefix_trimEnd (cs : List Char) : trimEnd cs <+: cs := by
  induction cs with
  | nil => exact List.prefix_refl []
  | cons c cs ih =>
    rw [trimEnd]
    split
    · split
      · exact List.prefix_append [] (c :: cs)
      · exact List.prefix_append [c] cs
    · exact (List.prefix_cons_inj c).mpr ih

theorem trim_eq_self_iff {cs : List Char} :
    trim cs = cs ↔ trimStart cs = cs ∧ trimEnd cs = cs := by
  constructor
  · intro h
    have hlength : cs.length ≤ (trimStart cs).length := by
      conv_lhs => rw [← h]
      exact (prefix_trimEnd _).length_le
    have hstart : trimStart cs = cs :=
      (List.dropWhile_sublist isBlank).eq_of_length_le hlength
    exact ⟨hstart, by rwa [trim, hstart] at h⟩
  · rintro ⟨hstart, hend⟩
    rw [trim, hstart, hend]

theorem lines_of_not_mem {cs : List Char} (h : '\n' ∉ cs) (hne : cs ≠ []) : lines cs = [cs] := by
  induction cs with
  | nil => exact absurd rfl hne
  | cons c cs ih =>
    have hc : c ≠ '\n' := fun hc => h (by simp [hc])
    have hcs : '\n' ∉ cs := fun hcs => h (List.mem_cons_of_mem c hcs)
    rw [lines]
    · rcases cs with _ | ⟨d, ds⟩
      · rfl
      · rw [ih hcs (List.cons_ne_nil d ds)]
    · exact hc
    · rintro rest - rfl
      exact hcs List.mem_cons_self

/-- Cleaning leaves a text alone that breaks no line and has no blank behind it. -/
theorem cleanLines_of_trimEnd {s : String} (hne : s ≠ "") (hbreak : '\n' ∉ s.toList)
    (hend : trimEnd s.toList = s.toList) : cleanLines s = [s] := by
  have hchars : s.toList ≠ [] := by simpa using hne
  rw [cleanLines, lines_of_not_mem hbreak hchars]
  simp [hend, hne]

/-- A text that is one line, neither empty nor with blanks at its ends. -/
structure OneLine (s : String) : Prop where
  nonempty : s ≠ ""
  unbroken : '\n' ∉ s.toList
  trimmed : trimmed s = s

namespace OneLine

variable {s t : String}

theorem trim_toList (h : OneLine s) : trim s.toList = s.toList := by
  rw [← String.ofList_inj, String.ofList_toList]
  exact h.trimmed

theorem not_blank_head (h : OneLine s) : ∀ c ∈ s.toList.head?, isBlank c = false := by
  have hstart := (trim_eq_self_iff.mp h.trim_toList).1
  intro c hc
  obtain ⟨cs, hcs⟩ := List.head?_eq_some_iff.mp hc
  rw [hcs, trimStart] at hstart
  by_contra hblank
  have hlength := congrArg List.length hstart
  rw [List.dropWhile_cons_of_pos (by simpa using hblank)] at hlength
  have hshorter := (List.dropWhile_sublist (l := cs) isBlank).length_le
  simp at hlength
  omega

/-- A text without blanks is one line. -/
theorem of_forall (hne : s ≠ "") (h : ∀ c ∈ s.toList, isBlank c = false) : OneLine s where
  nonempty := hne
  unbroken hmem := absurd (h _ hmem) (by decide)
  trimmed := by
    have hstart : trimStart s.toList = s.toList := by
      rcases hchars : s.toList with _ | ⟨c, cs⟩
      · rfl
      · simp [trimStart, h c (by simp [hchars])]
    rw [Text.trimmed, trim_eq_self_iff.mpr ⟨hstart, trimEnd_of_forall h⟩, String.ofList_toList]

theorem join (hs : OneLine s) (ht : OneLine t) : OneLine (s ++ " " ++ t) where
  nonempty := by simp
  unbroken := by simp [hs.unbroken, ht.unbroken]
  trimmed := by
    have hend : trimEnd t.toList = t.toList := (trim_eq_self_iff.mp ht.trim_toList).2
    have hne : t.toList ≠ [] := by simpa using ht.nonempty
    have hchars : (s ++ " " ++ t).toList = (s.toList ++ [' ']) ++ t.toList := by simp
    have hwhole : trim (s ++ " " ++ t).toList = (s ++ " " ++ t).toList := by
      refine trim_eq_self_iff.mpr ⟨?_, ?_⟩
      · have hfront : s.toList ≠ [] := by simpa using hs.nonempty
        obtain ⟨c, cs, hcs⟩ := List.exists_cons_of_ne_nil hfront
        have hc := hs.not_blank_head c (by simp [hcs])
        simp [trimStart, hcs, hc]
      · rw [hchars, trimEnd_append_of_ne_nil _ (by rwa [hend]), hend]
    rw [Text.trimmed, hwhole, String.ofList_toList]

/-- Cleaning leaves one line alone. -/
theorem cleanLines_eq (h : OneLine s) : cleanLines s = [s] :=
  cleanLines_of_trimEnd h.nonempty h.unbroken (trim_eq_self_iff.mp h.trim_toList).2

end OneLine

/-! ### Ends of a text -/

theorem before?_append_self (cs ending : List Char) : before? ending (cs ++ ending) = some cs := by
  induction cs with
  | nil =>
    rcases ending with _ | ⟨c, rest⟩
    · rfl
    · simp [before?]
  | cons c cs ih =>
    have hlength : ending ≠ c :: (cs ++ ending) := by
      intro h
      have := congrArg List.length h
      simp at this
      omega
    rw [List.cons_append, before?, if_neg hlength, ih]
    rfl

theorem before?_concat_of_ne {a b : Char} (h : a ≠ b) (cs : List Char) :
    before? [a] (cs ++ [b]) = none := by
  induction cs with
  | nil => simp [before?, h]
  | cons c cs ih =>
    have hlength : [a] ≠ c :: (cs ++ [b]) := by simp
    rw [List.cons_append, before?, if_neg hlength, ih]
    rfl

theorem after?_eq_some_iff {start cs rest : List Char} :
    after? start cs = some rest ↔ cs = start ++ rest := by
  induction start generalizing cs with
  | nil => simp [after?]
  | cons a start ih =>
    rcases cs with _ | ⟨c, cs⟩
    · simp [after?]
    · by_cases hac : a = c
      · simp [after?, hac, ih]
      · simp [after?, hac, Ne.symm hac]

theorem contains_of_not_mem {c : Char} {part cs : List Char} (hc : c ∈ part) (h : c ∉ cs) :
    contains part cs = false := by
  induction cs with
  | nil => simpa [contains] using List.ne_nil_of_mem hc
  | cons d cs ih =>
    have hstart : startsWith part (d :: cs) = false := by
      rcases hafter : after? part (d :: cs) with _ | rest
      · simp [startsWith, hafter]
      · rw [after?_eq_some_iff.mp hafter] at h
        exact absurd (List.mem_append_left rest hc) h
    rw [contains, hstart, ih (fun hcs => h (List.mem_cons_of_mem d hcs))]
    rfl

end Converge.Text
