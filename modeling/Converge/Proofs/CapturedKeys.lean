import Converge.Proofs.CapturedText
import Converge.Skeleton

/-!
# Captured text as a key

A key that is a variable groups facts by what a line captured. On its way to the key the text may
become a number, and the key is what data shows for that number. So a key has the text as it was
captured unless the text became a float that data lays out otherwise, and then another text may
have the same key.

Main statement: `Skeleton.fill_captured_key`.
-/

namespace Converge.Skeleton

open Template

/-- A key that is captured text is written as data is. -/
theorem keyText_ofCaptured (s : String) :
    keyText (Tree.ofCaptured s) = Tree.rewritten .data s := by
  have hs := Tree.captured_ofCaptured s
  unfold Tree.rewritten
  generalize Tree.ofCaptured s = u at hs
  cases hs with
  | int _ hprints => simpa [keyText, Json.compact, Json.leafText] using hprints
  | float _ _ => simp [keyText, Json.compact, Json.leafText]
  | text => rfl

section

variable {fs : Fields Tree} (hd : (Fields.keys fs).Nodup) {name s : String}
  (hname : isVariable name = true) (hfs : fs.get? name = some (.text s)) (hs : s ≠ "")

include hd hname hfs hs

theorem filledKey_variable :
    filledKey ("\x7b\x7b " ++ name ++ " \x7d\x7d") (.map fs) =
      .ok (some (Tree.rewritten .data s)) := by
  have hchars : ("\x7b\x7b " ++ name ++ " \x7d\x7d").toList = Token.variableChars "" name := by
    simp [Token.variableChars]
  have htext : (Value.ofTree (.text s)).toTree? = some (.text s) := by
    simp [Value.ofTree, Value.ofText, Value.toTree?]
  have hnormal : Placeholder.normalized (.text s) = some (Tree.ofCaptured s) := by
    simp [Placeholder.normalized, hs]
  have hvalue : Placeholder.evaluate ("\x7b\x7b " ++ name ++ " \x7d\x7d") (.map fs) false =
      .ok (some (Tree.ofCaptured s)) := by
    rw [Placeholder.evaluate_variable hd hfs hname hchars, htext]
    exact congrArg Except.ok hnormal
  rw [filledKey, hvalue]
  exact congrArg (fun key => Except.ok (some key)) (keyText_ofCaptured s)

/-- **What captured text is as a key.** An entry whose key is a variable becomes one entry under the
captured text as data shows it. That is the text itself unless the text became a float: then the
text must have a point, and data must not show the float with an exponent. -/
theorem fill_captured_key {T : Skeleton} {v : Tree} (hT : T.fill (.map fs) = .ok (some v)) :
    (map [("\x7b\x7b " ++ name ++ " \x7d\x7d", T)]).fill (.map fs) =
      .ok (some (.map [(Tree.rewritten .data s, v)])) ∧
    (Tree.rewritten .data s = s ↔ ∀ x, Tree.ofCaptured s = .float x →
      DecimalLayout.data.Positional x ∧ '.' ∈ s.toList) := by
  refine ⟨?_, Tree.rewritten_eq_iff rfl s⟩
  have hentry : fillFields (.map fs) [("\x7b\x7b " ++ name ++ " \x7d\x7d", T)] [] =
      .ok [(Tree.rewritten .data s, v)] := by
    simp only [fillFields, hT, filledKey_variable hd hname hfs hs, Except.bind, Fields.put]
  rw [fill, hentry]
  rfl

end

/-- A rate with a point groups facts under its text. -/
theorem fill_captured_key_rate :
    (map [("\x7b\x7b g \x7d\x7d", .scalar (.bool true))]).fill (.map [("g", .text "1.5")]) =
      .ok (some (.map [("1.5", .bool true)])) := by
  have hname : isVariable "g" = true := rfl
  have hcaptured : Fields.get? "g" [("g", Tree.text "1.5")] = some (.text "1.5") := rfl
  have hvalue : (scalar (.bool true)).fill (.map [("g", .text "1.5")]) = .ok (some (.bool true)) :=
    rfl
  obtain ⟨hkey, -⟩ := fill_captured_key (by decide) hname hcaptured (by decide) hvalue
  have hdata : Tree.rewritten .data "1.5" = "1.5" := by decide +kernel
  rw [hdata] at hkey
  exact hkey

/-- A ten-millionth comes under a key that is not its text but another one's, so the facts of two
items come together. A number of twenty-one digits comes under another text as well. -/
theorem fill_captured_key_shared :
    isVariable "g" = true ∧
    (map [("\x7b\x7b g \x7d\x7d", .scalar (.bool true))]).fill (.map [("g", .text "0.0000001")]) =
      .ok (some (.map [("1e-7", .bool true)])) ∧
    (map [("\x7b\x7b g \x7d\x7d", .scalar (.bool true))]).fill (.map [("g", .text "1e-7")]) =
      .ok (some (.map [("1e-7", .bool true)])) ∧
    (map [("\x7b\x7b g \x7d\x7d", .scalar (.bool true))]).fill
      (.map [("g", .text "100000000000000000000")]) =
      .ok (some (.map [("1e+20", .bool true)])) := by
  refine ⟨rfl, ?_, ?_, ?_⟩
  · decide +kernel
  · decide +kernel
  · decide +kernel

end Converge.Skeleton
