import Converge.Proofs.Text.OneLine

/-!
# Clean lines

A text that stands on a line of its own and shows something, with nothing blank behind it. Unlike
one line (`OneLine`) it may have blanks in front. Cleaning cuts any text into clean lines, whatever
ends its lines and whatever blanks are in it, and a clean line stays clean with a text in front that
breaks no line.
-/

namespace Converge.Text

/-- A text that breaks no line, is not blank and has no blank behind it. -/
structure CleanLine (s : String) : Prop where
  unbroken : '\n' ∉ s.toList
  visible : allBlank s = false
  ended : ∀ c ∈ s.toList.getLast?, isBlank c = false

theorem not_mem_of_mem_lines {cs line : List Char} (h : line ∈ lines cs) : '\n' ∉ line := by
  induction cs using lines.induct generalizing line with
  | case1 => cases h
  | case2 rest ih | case3 rest ih =>
    rw [lines] at h
    rcases List.mem_cons.mp h with rfl | hrest
    · exact List.not_mem_nil
    · exact ih hrest
  | case4 c rest hc hcr hnil ih =>
    have hlast : lines (c :: rest) = [[c]] := by simp [lines, hnil]
    rw [hlast] at h
    obtain rfl := List.mem_singleton.mp h
    simpa using Ne.symm hc
  | case5 c rest hc hcr first more hlines ih =>
    have hlonger : lines (c :: rest) = (c :: first) :: more := by simp [lines, hlines]
    rw [hlonger] at h
    rw [hlines] at ih
    rcases List.mem_cons.mp h with rfl | hmore
    · have hfirst := ih List.mem_cons_self
      simpa [hfirst] using Ne.symm hc
    · exact ih (List.mem_cons_of_mem first hmore)

/-- What is left in front of blanks is nothing or ends with what is not blank. -/
theorem trimEnd_eq_nil_or_concat (cs : List Char) :
    trimEnd cs = [] ∨ ∃ front c, trimEnd cs = front ++ [c] ∧ isBlank c = false := by
  induction cs with
  | nil => exact Or.inl rfl
  | cons c cs ih =>
    rw [trimEnd]
    rcases ih with hnil | ⟨front, d, hends, hd⟩
    · rw [hnil]
      cases hc : isBlank c with
      | true => exact Or.inl rfl
      | false => exact Or.inr ⟨[], c, rfl, hc⟩
    · rw [hends]
      exact Or.inr ⟨c :: front, d, by simp, hd⟩

namespace CleanLine

variable {s p : String}

theorem of_concat {front : List Char} {c : Char} (hs : s.toList = front ++ [c])
    (hbreak : '\n' ∉ s.toList) (hc : isBlank c = false) : CleanLine s where
  unbroken := hbreak
  visible := by simp [allBlank, hs, hc]
  ended := by simp [hs, hc]

theorem of_forall (hne : s ≠ "") (h : ∀ c ∈ s.toList, isBlank c = false) : CleanLine s := by
  have hchars : s.toList ≠ [] := by simpa using hne
  obtain ⟨front, c, hs⟩ := (List.eq_nil_or_concat' _).resolve_left hchars
  exact of_concat hs (fun hbreak => absurd (h _ hbreak) (by decide)) (h c (by simp [hs]))

theorem exists_concat (h : CleanLine s) :
    ∃ front c, s.toList = front ++ [c] ∧ isBlank c = false := by
  rcases List.eq_nil_or_concat' s.toList with hnil | ⟨front, c, hs⟩
  · have hvisible := h.visible
    simp [allBlank, hnil] at hvisible
  · exact ⟨front, c, hs, h.ended c (by simp [hs])⟩

/-- What breaks no line may stand in front of a clean line. -/
theorem behind (hp : '\n' ∉ p.toList) (h : CleanLine s) : CleanLine (p ++ " " ++ s) := by
  obtain ⟨front, c, hs, hc⟩ := h.exists_concat
  have hbreak : '\n' ∉ (p ++ " " ++ s).toList := by simp [hp, h.unbroken]
  have hends : (p ++ " " ++ s).toList = (p.toList ++ ' ' :: front) ++ [c] := by simp [hs]
  exact of_concat hends hbreak hc

theorem ne_empty (h : CleanLine s) : s ≠ "" := by
  rintro rfl
  exact absurd h.visible (by decide)

theorem trimEnd_toList (h : CleanLine s) : trimEnd s.toList = s.toList := by
  obtain ⟨front, c, hs, hc⟩ := h.exists_concat
  rw [hs, trimEnd_concat_of_not_blank front hc]

/-- Cleaning leaves a clean line alone. -/
theorem cleanLines_eq (h : CleanLine s) : cleanLines s = [s] :=
  cleanLines_of_trimEnd h.ne_empty h.unbroken h.trimEnd_toList

end CleanLine

/-- **Cleaning gives clean lines.** -/
theorem cleanLine_of_mem_cleanLines {s line : String} (h : line ∈ cleanLines s) :
    CleanLine line := by
  rw [cleanLines, List.mem_filterMap] at h
  obtain ⟨kept, hkept, hline⟩ := h
  obtain ⟨whole, hwhole, rfl⟩ := List.mem_map.mp hkept
  rcases trimEnd_eq_nil_or_concat whole with hnil | ⟨front, c, hends, hc⟩
  · simp [hnil] at hline
  · have hbreak : '\n' ∉ trimEnd whole := fun hmem =>
      not_mem_of_mem_lines hwhole ((prefix_trimEnd whole).subset hmem)
    obtain rfl : String.ofList (trimEnd whole) = line := by simpa [hends] using hline
    exact .of_concat (by rw [String.toList_ofList, hends]) (by rwa [String.toList_ofList]) hc

end Converge.Text
