import Converge.Proofs.Sections
import Converge.Proofs.Text.JoinedLines

/-!
# Line ends do not matter

A carriage return and a line feed close every line, also one that has a carriage return of its own
at the end; a line feed alone closes the others. Where every line of a text is closed, its lines are
those that it was made of, and so are the facts that are read from it.

Main statement: `Facts.ofText_ended`.
-/

namespace Converge

namespace Text

/-- That an ending closes a line, whatever text comes behind it. -/
def Closes (ending line : String) : Prop :=
  ∀ rest, linesOf (line ++ ending ++ rest) = line :: linesOf rest

theorem closes_return_lineFeed {line : String} (hbreak : '\n' ∉ line.toList) :
    Closes "\r\n" line := by
  intro rest
  have hchars : (line ++ "\r\n" ++ rest).toList = line.toList ++ '\r' :: '\n' :: rest.toList := by
    simp
  rw [linesOf, hchars, lines_append_return hbreak, List.map_cons, String.ofList_toList]
  rfl

theorem closes_lineFeed {line : String} (hbreak : '\n' ∉ line.toList)
    (hend : line.toList.getLast? ≠ some '\r') : Closes "\n" line := by
  intro rest
  have hchars : (line ++ "\n" ++ rest).toList = line.toList ++ '\n' :: rest.toList := by simp
  rw [linesOf, hchars, lines_append_lineFeed hbreak hend, List.map_cons, String.ofList_toList]
  rfl

/-! ## Lines with endings -/

/-- The text of lines, each of which is followed by the ending. -/
def ended (ending : String) (ls : List String) : String := String.join (ls.map (· ++ ending))

variable {ending : String} {ls : List String}

theorem ended_cons (line : String) :
    ended ending (line :: ls) = line ++ ending ++ ended ending ls := by
  rw [ended, List.map_cons, String.join_cons]
  rfl

theorem ended_concat (line : String) :
    ended ending (ls ++ [line]) = ended ending ls ++ line ++ ending := by
  rw [ended, List.map_append, String.join_append, String.append_assoc]
  simp [ended]

/-- Closed lines are the first lines of any text that begins with them. -/
theorem linesOf_ended_append (h : ∀ line ∈ ls, Closes ending line) (s : String) :
    linesOf (ended ending ls ++ s) = ls ++ linesOf s := by
  induction ls with
  | nil => rw [ended, List.map_nil, String.join_nil, String.empty_append, List.nil_append]
  | cons line more ih =>
    rw [List.forall_mem_cons] at h
    rw [ended_cons, String.append_assoc, h.1, ih h.2, List.cons_append]

theorem linesOf_ended (h : ∀ line ∈ ls, Closes ending line) : linesOf (ended ending ls) = ls := by
  have hbehind : linesOf (ended ending ls ++ "") = ls ++ [] := linesOf_ended_append h ""
  rwa [String.append_empty, List.append_nil] at hbehind

/-- A last line that is not empty needs no ending. -/
theorem linesOf_of_append_ending {s : String} (h : ∀ line ∈ ls, Closes ending line)
    (hbreak : ∀ line ∈ ls, '\n' ∉ line.toList) (hending : ending ≠ "")
    (hs : s ++ ending = ended ending ls) (hlast : ls.getLast? ≠ some "") : linesOf s = ls := by
  rcases List.eq_nil_or_concat' ls with rfl | ⟨front, last, rfl⟩
  · have hnothing : s ++ ending = "" := hs
    exact absurd (String.append_eq_empty_iff.mp hnothing).2 hending
  · rw [List.forall_mem_append] at h hbreak
    have hfront : s = ended ending front ++ last := by
      rw [ended_concat] at hs
      exact (String.append_left_inj ending).mp hs
    have hshown : last.toList ≠ [] := by simpa using hlast
    have hline : linesOf last = [last] := by
      rw [linesOf, lines_of_not_mem (hbreak.2 last List.mem_cons_self) hshown]
      simp
    rw [hfront, linesOf_ended_append h.1, hline]

end Text

namespace Facts

/-- **Line ends do not matter.** Lines give the same facts, or the same failure, as the text in
which a carriage return and a line feed end each of them. Where no line ends in a carriage return, a
line feed behind each does as well, and the last one may be missing behind a line that is not
empty. -/
theorem ofText_ended (t : RuleTable) {ls : List String} (hbreak : ∀ l ∈ ls, '\n' ∉ l.toList) :
    ofText t (Text.ended "\r\n" ls) = ofLines t ls ∧
      ((∀ l ∈ ls, l.toList.getLast? ≠ some '\r') →
        ofText t (Text.ended "\n" ls) = ofLines t ls ∧
          ∀ s, s ++ "\n" = Text.ended "\n" ls → ls.getLast? ≠ some "" →
            ofText t s = ofLines t ls) := by
  refine ⟨?_, ?_⟩
  · have hclosed : ∀ l ∈ ls, Text.Closes "\r\n" l := by
      intro l hl
      exact Text.closes_return_lineFeed (hbreak l hl)
    rw [ofText, Text.linesOf_ended hclosed]
  · intro hend
    have hclosed : ∀ l ∈ ls, Text.Closes "\n" l := by
      intro l hl
      exact Text.closes_lineFeed (hbreak l hl) (hend l hl)
    refine ⟨?_, ?_⟩
    · rw [ofText, Text.linesOf_ended hclosed]
    · intro s hs hlast
      rw [ofText, Text.linesOf_of_append_ending hclosed hbreak (by decide) hs hlast]

/-- Two lines of an interface, behind which an anchored pattern finds nothing left of a line end. -/
theorem ofText_ended_interface :
    let facts : Tree := .map [("eth0", .map [("mtu", .int 1500)])]
    (∀ l ∈ ["interface eth0", "", " mtu 1500"], '\n' ∉ l.toList) ∧
      (∀ l ∈ ["interface eth0", "", " mtu 1500"], l.toList.getLast? ≠ some '\r') ∧
      ofText interfaceTable "interface eth0\r\n\r\n mtu 1500\r\n" = .ok facts ∧
      ofText interfaceTable "interface eth0\n\n mtu 1500\n" = .ok facts ∧
      ofText interfaceTable "interface eth0\n\n mtu 1500" = .ok facts := by
  intro facts
  have hbreak : ∀ l ∈ ["interface eth0", "", " mtu 1500"], '\n' ∉ l.toList := by decide
  have hend : ∀ l ∈ ["interface eth0", "", " mtu 1500"], l.toList.getLast? ≠ some '\r' := by decide
  have hfacts : ofLines interfaceTable ["interface eth0", "", " mtu 1500"] = .ok facts := by
    decide +kernel
  obtain ⟨hreturns, hfeeds⟩ := ofText_ended interfaceTable hbreak
  obtain ⟨hfeeds, hbare⟩ := hfeeds hend
  refine ⟨hbreak, hend, ?_, ?_, ?_⟩
  · exact hreturns.trans hfacts
  · exact hfeeds.trans hfacts
  · exact (hbare _ (by decide) (by decide)).trans hfacts

end Facts

end Converge
