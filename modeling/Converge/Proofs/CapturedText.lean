import Converge.Dialect
import Converge.Proofs.Template.Variables

/-!
# Captured text in commands

Captured text that became a number is written out again by other printers than the one it was
compared with: on its own as data, behind a word as template output. Each gives one line. The line
has the text as it was captured unless the text became a float and the printer in question lays it
out otherwise than plainly.

Main statement: `Dialect.render_captured`.
-/

namespace Converge

open Template

namespace Tree

theorem rewritten_output_oneLine {t : String} (h : Text.OneLine t) :
    Text.OneLine (rewritten .output t) := by
  have ht := captured_ofCaptured t
  unfold rewritten
  generalize ofCaptured t = u at ht
  cases ht with
  | int _ _ => exact h
  | text => exact h
  | float _ _ =>
    refine .of_forall (DecimalLayout.text_ne_empty (by decide) (by decide)) fun c hc => ?_
    exact DecimalLayout.not_blank_of_mem_text (by simp [DecimalLayout.output, Text.isBlank]) hc

/-- A template prints captured text under the layout of its output. -/
theorem printed_ofCaptured (t : String) :
    (Value.ofTree (ofCaptured t)).printed = rewritten .output t := by
  have ht := captured_ofCaptured t
  unfold rewritten
  generalize ofCaptured t = u at ht
  cases ht with
  | int _ hprints => simpa [Value.ofTree, Value.printed, Value.inner] using hprints
  | text => simp [Value.ofTree, Value.ofText, Value.printed]
  | float _ _ => simp [Value.ofTree, Value.printed]

/-- Captured text keeps its type on its way through a template. -/
theorem toTree?_ofCaptured (t : String) :
    (Value.ofTree (ofCaptured t)).toTree? = some (ofCaptured t) := by
  have ht := captured_ofCaptured t
  generalize ofCaptured t = u at ht
  cases ht with
  | @int i hfits _ =>
    have hin : Numeral.int64Min ≤ i ∧ i ≤ Numeral.uint64Max := by
      simp only [Numeral.fitsInt64, Bool.and_eq_true, decide_eq_true_eq] at hfits
      simp only [Numeral.int64Min, Numeral.int64Max, Numeral.uint64Max] at hfits ⊢
      omega
    simp [Value.ofTree, Value.toTree?, hin]
  | text => simp [Value.ofTree, Value.ofText, Value.toTree?]
  | float hfinite _ => simp [Value.ofTree, Value.toTree?, hfinite]

theorem normalized_ofCaptured {t : String} (h : t ≠ "") :
    Placeholder.normalized (ofCaptured t) = some (ofCaptured t) := by
  have ht := captured_ofCaptured t
  generalize hu : ofCaptured t = u at ht
  cases ht with
  | int _ _ => rfl
  | text => simp [Placeholder.normalized, h, hu]
  | float _ _ => rfl

/-- As command text captured text is one line under the layout of data. -/
theorem ofValue_ofCaptured {t : String} (h : Text.OneLine t) :
    Rendering.ofValue (some (ofCaptured t)) = .line (rewritten .data t) := by
  have ht := captured_ofCaptured t
  unfold rewritten
  generalize ofCaptured t = u at ht
  cases ht with
  | int _ hprints => simp [Rendering.ofValue, Rendering.valueLines, Rendering.itemLines,
      Json.leafText, hprints, Rendering.ofLines]
  | text => simp [Rendering.ofValue, Rendering.valueLines, Rendering.itemLines, h.cleanLines_eq,
      Rendering.ofLines]
  | float _ _ => simp [Rendering.ofValue, Rendering.valueLines, Rendering.itemLines,
      Json.leafText, Rendering.ofLines]

end Tree

section

variable {fs : Fields Tree} (hd : (Fields.keys fs).Nodup) {name t : String}
  (hname : isVariable name = true) (hfs : fs.get? name = some (Tree.ofCaptured t))
  (ht : Text.OneLine t)

include hd hname hfs ht

/-- On its own captured text is written as data is. -/
theorem Rule.commandText_variable {r : Rule}
    (hset : r.setval = some (.template ("\x7b\x7b " ++ name ++ " \x7d\x7d"))) :
    r.commandText false (.map fs) = .line (Tree.rewritten .data t) := by
  have hs : ("\x7b\x7b " ++ name ++ " \x7d\x7d").toList = Token.variableChars "" name := by
    simp [Token.variableChars]
  have hvalue : Placeholder.evaluate ("\x7b\x7b " ++ name ++ " \x7d\x7d") (.map fs) false =
      .ok (some (Tree.ofCaptured t)) := by
    rw [Placeholder.evaluate_variable hd hfs hname hs, Tree.toTree?_ofCaptured]
    simp only [Tree.normalized_ofCaptured ht.nonempty]
  simp only [Rule.commandText, Rule.setter, Bool.false_eq_true, if_false, hset, Setval.value,
    hvalue, Tree.ofValue_ofCaptured ht]

/-- Behind a word captured text is written as template output is. -/
theorem Rule.commandText_word {r : Rule} {word : String} (hword : Text.OneLine word)
    (hbrace : '\x7b' ∉ word.toList)
    (hset : r.setval = some (.template (word ++ " \x7b\x7b " ++ name ++ " \x7d\x7d"))) :
    r.commandText false (.map fs) = .line (word ++ " " ++ Tree.rewritten .output t) := by
  have hs : (word ++ " \x7b\x7b " ++ name ++ " \x7d\x7d").toList =
      Token.variableChars (word ++ " ") name := by
    simp [Token.variableChars]
  have hfront : '\x7b' ∉ (word ++ " ").toList := by simpa using hbrace
  have hstart : ∀ c ∈ (word ++ " ").toList.head?, Text.isBlank c = false := by
    have hne : word.toList ≠ [] := by simpa using hword.nonempty
    obtain ⟨c, cs, hchars⟩ := List.exists_cons_of_ne_nil hne
    have hc := hword.not_blank_head c (by simp [hchars])
    simpa [hchars] using hc
  -- The space keeps the line from being read as a number.
  have htext : Tree.ofCaptured (word ++ " " ++ Tree.rewritten .output t) =
      .text (word ++ " " ++ Tree.rewritten .output t) :=
    Tree.ofCaptured_of_mem (c := ' ') (by simp) rfl (by decide) (by decide)
  have hvalue : Placeholder.evaluate (word ++ " \x7b\x7b " ++ name ++ " \x7d\x7d") (.map fs) false =
      .ok (some (.text (word ++ " " ++ Tree.rewritten .output t))) := by
    rw [Placeholder.evaluate_variable_behind hd hfs hname hs (by simp) hfront hstart,
      Tree.printed_ofCaptured, htext]
  have hline := (hword.join (Tree.rewritten_output_oneLine ht)).cleanLines_eq
  simp only [Rule.commandText, Rule.setter, Bool.false_eq_true, if_false, hset, Setval.value,
    hvalue, Rendering.ofValue, Option.map_some, Option.getD_some, Rendering.valueLines,
    Rendering.itemLines, hline, Rendering.ofLines]

/-- **What becomes of captured text in commands.** Without a prefix, a template that is a variable
gives one line, and so does one with a word in front. The line has the text as it was captured
unless the text became a float: then the text must have a point, and where the variable stands alone
the float must not be written with an exponent in data. -/
theorem Dialect.render_captured {d : Dialect} (hunset : d.prefixes.word? false = none) :
    (∀ rule r, d.table.get? rule = some r →
      r.setval = some (.template ("\x7b\x7b " ++ name ++ " \x7d\x7d")) →
      d.render (.map fs) rule false = .ok (.line (Tree.rewritten .data t))) ∧
    (∀ rule r word, d.table.get? rule = some r → Text.OneLine word → '\x7b' ∉ word.toList →
      r.setval = some (.template (word ++ " \x7b\x7b " ++ name ++ " \x7d\x7d")) →
      d.render (.map fs) rule false = .ok (.line (word ++ " " ++ Tree.rewritten .output t))) ∧
    (Tree.rewritten .data t = t ↔ ∀ x, Tree.ofCaptured t = .float x →
      DecimalLayout.data.Positional x ∧ '.' ∈ t.toList) ∧
    (Tree.rewritten .output t = t ↔ ∀ x, Tree.ofCaptured t = .float x → '.' ∈ t.toList) := by
  have hrender : ∀ rule r, d.table.get? rule = some r →
      d.render (.map fs) rule false = .ok (r.commandText false (.map fs)) := by
    intro rule r hr
    simp [Dialect.render, RuleTable.require, hr, Prefixes.apply, hunset, Except.map]
  have hpositional (x : Binary64) : DecimalLayout.output.Positional x :=
    DecimalLayout.positional_of_unbounded rfl x
  refine ⟨?_, ?_, Tree.rewritten_eq_iff rfl t, ?_⟩
  · intro rule r hr hset
    rw [hrender rule r hr, Rule.commandText_variable hd hname hfs ht hset]
  · intro rule r word hr hword hbrace hset
    rw [hrender rule r hr, Rule.commandText_word hd hname hfs ht hword hbrace hset]
  · rw [Tree.rewritten_eq_iff rfl t]
    simp only [hpositional, true_and]

end

/-! ## A rate -/

/-- A rule that captures nothing and sets what its template gives. -/
def rateRule (name setval : String) : Rule where
  name
  pattern := (Pattern.compile? "rate").getD ⟨"rate", [], #[], 0⟩
  result := .empty
  shared := false
  setval := some (.template setval)
  remval := none
  compval := none

/-- The language of a rate, which is written on its own or behind a word. -/
def rateDialect : Dialect where
  table := ⟨[rateRule "alone" "\x7b\x7b f \x7d\x7d", rateRule "behind" "kw \x7b\x7b f \x7d\x7d"],
    ((∅ : Index).insert "alone" 0).insert "behind" 1, rfl⟩
  prefixes := .standard

/-- A rate with a point is written as it was captured. -/
theorem Dialect.render_captured_rate :
    rateDialect.render (.map [("f", Tree.ofCaptured "1.5")]) "alone" false = .ok (.line "1.5") ∧
    rateDialect.render (.map [("f", Tree.ofCaptured "1.5")]) "behind" false =
      .ok (.line "kw 1.5") := by
  have hline : Text.OneLine "1.5" := ⟨by decide, by decide, by decide⟩
  have hword : Text.OneLine "kw" := ⟨by decide, by decide, by decide⟩
  have hfs : Fields.get? "f" [("f", Tree.ofCaptured "1.5")] = some (Tree.ofCaptured "1.5") := rfl
  obtain ⟨halone, hbehind, -, -⟩ := render_captured (d := rateDialect) (by decide) (by decide) hfs
    hline rfl
  have hdata : Tree.rewritten .data "1.5" = "1.5" := by decide +kernel
  have houtput : Tree.rewritten .output "1.5" = "1.5" := by decide +kernel
  have hfirst := halone "alone" _ rfl rfl
  have hsecond := hbehind "behind" _ "kw" rfl hword (by decide) rfl
  rw [hdata] at hfirst
  rw [houtput] at hsecond
  exact ⟨hfirst, hsecond⟩

/-- A rate of twenty-one digits is one line without blanks, and both ways of writing it change it. A
rate of a ten-millionth is changed where it stands on its own. -/
theorem Dialect.render_captured_altered :
    Text.OneLine "100000000000000000000" ∧ rateDialect.prefixes.word? false = none ∧
    rateDialect.render (.map [("f", Tree.ofCaptured "100000000000000000000")]) "alone" false =
      .ok (.line "1e+20") ∧
    rateDialect.render (.map [("f", Tree.ofCaptured "100000000000000000000")]) "behind" false =
      .ok (.line "kw 100000000000000000000.0") ∧
    rateDialect.render (.map [("f", Tree.ofCaptured "0.0000001")]) "alone" false =
      .ok (.line "1e-7") := by
  refine ⟨⟨by decide, by decide, by decide⟩, rfl, ?_, ?_, ?_⟩
  · decide +kernel
  · decide +kernel
  · decide +kernel

end Converge
