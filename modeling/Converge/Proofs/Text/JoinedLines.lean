import Converge.Proofs.Text.CleanLine

/-!
# Lines joined to a text

A line feed behind a line ends it, as long as the line has no carriage return at its end that would
be taken for a part of the line end; a carriage return with a line feed ends any line. So clean
lines with line feeds between them are cleaned to themselves.

Main statement: `cleanLines_intercalate`.
-/

namespace Converge.Text

/-- What breaks no line goes in front of the first line of the text behind it, unless a carriage
return and a line feed come together between them. -/
theorem lines_append_of_cons {line tail first : List Char} {more : List (List Char)}
    (hbreak : '\n' ∉ line) (hend : line.getLast? = some '\r' → tail.head? ≠ some '\n')
    (htail : lines tail = first :: more) : lines (line ++ tail) = (line ++ first) :: more := by
  induction line with
  | nil => exact htail
  | cons c cs ih =>
    have hc : c ≠ '\n' := fun hc => hbreak (by simp [hc])
    have hcs : '\n' ∉ cs := fun hcs => hbreak (List.mem_cons_of_mem c hcs)
    have hlast : cs.getLast? = some '\r' → tail.head? ≠ some '\n' := by
      intro hlast
      apply hend
      rw [List.getLast?_cons, hlast]
      rfl
    rw [List.cons_append, lines, ih hcs hlast]
    · rfl
    · exact hc
    · -- A carriage return right before a line feed would be the last character of the line.
      rintro rest rfl hrest
      cases cs with
      | nil =>
        rw [List.nil_append] at hrest
        exact hend rfl (by rw [hrest]; rfl)
      | cons d ds =>
        obtain rfl : d = '\n' := (List.cons.inj hrest).1
        exact hcs List.mem_cons_self

/-- A line is cut off at the line feed behind it. -/
theorem lines_append_lineFeed {line : List Char} (hbreak : '\n' ∉ line)
    (hend : line.getLast? ≠ some '\r') (rest : List Char) :
    lines (line ++ '\n' :: rest) = line :: lines rest := by
  have hrest : lines ('\n' :: rest) = [] :: lines rest := by rw [lines]
  rw [lines_append_of_cons hbreak (fun hlast => absurd hlast hend) hrest, List.append_nil]

/-- A carriage return before the line feed belongs to the line end, and is the only one that does. -/
theorem lines_append_return {line : List Char} (hbreak : '\n' ∉ line) (rest : List Char) :
    lines (line ++ '\r' :: '\n' :: rest) = line :: lines rest := by
  have hrest : lines ('\r' :: '\n' :: rest) = [] :: lines rest := by rw [lines]
  rw [lines_append_of_cons hbreak (fun _ => by simp) hrest, List.append_nil]

theorem CleanLine.getLast?_ne_return {s : String} (h : CleanLine s) :
    s.toList.getLast? ≠ some '\r' := fun hlast => absurd (h.ended '\r' hlast) (by decide)

/-- A clean line in front of more text is the first of its lines. -/
theorem cleanLines_append_lineFeed {s : String} (h : CleanLine s) (t : String) :
    cleanLines (s ++ "\n" ++ t) = s :: cleanLines t := by
  have hchars : (s ++ "\n" ++ t).toList = s.toList ++ '\n' :: t.toList := by simp
  rw [cleanLines, hchars, lines_append_lineFeed h.unbroken h.getLast?_ne_return, List.map_cons,
    h.trimEnd_toList, List.filterMap_cons_some]
  · rfl
  · simp [h.ne_empty]

/-- **Clean lines with line feeds between them are cleaned to themselves.** -/
theorem cleanLines_intercalate {ss : List String} (h : ∀ s ∈ ss, CleanLine s) :
    cleanLines ("\n".intercalate ss) = ss := by
  induction ss with
  | nil => rfl
  | cons s rest ih =>
    have hs : CleanLine s := h s List.mem_cons_self
    have hrest : ∀ t ∈ rest, CleanLine t := fun t ht => h t (List.mem_cons_of_mem s ht)
    cases rest with
    | nil => rw [String.intercalate_singleton, hs.cleanLines_eq]
    | cons t more =>
      rw [String.intercalate_cons_cons, cleanLines_append_lineFeed hs, ih hrest]

end Converge.Text
