import Converge.Proofs.Decimal.Layouts
import Converge.Proofs.Text.OneLine
import Converge.Tree.Numeric

/-!
# Numbers that captured text becomes

Captured text becomes a number only where a plain printer writes that number as the same text. What
other printers make of the number is the text again except for floats, and for these it depends on
the layout.

Main statement: `rewritten_eq_iff`.
-/

namespace Converge

theorem mem_integerText {i : Int} {c : Char} (h : c ∈ (integerText i).toList) :
    c.isDigit = true ∨ c = '-' := by
  have hdigit : c ∈ Nat.toDigits 10 i.natAbs → c.isDigit = true :=
    Nat.isDigit_of_mem_toDigits (by decide) (by decide)
  unfold integerText at h
  split at h
  · rw [String.toList_ofList] at h
    rcases List.mem_cons.mp h with hsign | hmem
    · exact Or.inr hsign
    · exact Or.inl (hdigit hmem)
  · rw [String.toList_ofList] at h
    exact Or.inl (hdigit h)

/-- Integers are written without blanks. -/
theorem not_blank_of_mem_integerText {i : Int} {c : Char} (h : c ∈ (integerText i).toList) :
    Text.isBlank c = false := by
  rcases mem_integerText h with hdigit | rfl
  · exact Text.not_blank_of_isDigit hdigit
  · rfl

theorem integerText_ne_empty (i : Int) : integerText i ≠ "" := by
  unfold integerText
  split
  · simp
  · simp

/-- Floats are written without blanks where NaN and the infinities are. -/
theorem DecimalLayout.not_blank_of_mem_text {layout : DecimalLayout} {x : Binary64} {c : Char}
    (hnames : ∀ c ∈ layout.nan.toList ++ layout.infinity.toList, Text.isBlank c = false)
    (h : c ∈ (layout.text x).toList) : Text.isBlank c = false := by
  rcases mem_text h with hdigit | hmark | hname
  · exact Text.not_blank_of_isDigit hdigit
  · have hmarks : ∀ c ∈ ['e', '-', '+', '.'], Text.isBlank c = false := by
      simp [Text.isBlank]
    exact hmarks c hmark
  · exact hnames c (List.mem_append.mpr hname)

namespace Tree

/-- What a captured text may become: a number of 64 bits that a plain printer writes as the text, or
the text itself. -/
inductive Captured (s : String) : Tree → Prop where
  | int {i : Int} (fits : Numeral.fitsInt64 i = true) (prints : integerText i = s) :
    Captured s (.int i)
  | float {x : Binary64} (finite : x.isFinite = true)
    (prints : DecimalLayout.plain.text x = s) : Captured s (.float x)
  | text : Captured s (.text s)

theorem captured_ofCaptured (s : String) : Captured s (ofCaptured s) := by
  unfold ofCaptured
  split
  · rename_i i hi
    split
    · rename_i hprints
      have hfits : Numeral.fitsInt64 i = true := by
        rw [Numeral.readInt64?, Option.filter_eq_some_iff] at hi
        exact hi.2
      exact .int hfits hprints
    · exact .text
  · split
    · split
      · rename_i x hx hboth
        rw [Bool.and_eq_true, beq_iff_eq] at hboth
        exact .float hboth.1 hboth.2
      · exact .text
    · exact .text

/-- Captured text that has a character which numbers are not written with stays text. -/
theorem ofCaptured_of_mem {s : String} {c : Char} (hc : c ∈ s.toList) (hdigit : c.isDigit = false)
    (hsign : c ≠ '-') (hpoint : c ≠ '.') : ofCaptured s = .text s := by
  have hs := captured_ofCaptured s
  generalize ofCaptured s = u at hs
  cases hs with
  | text => rfl
  | int _ hprints =>
    rw [← hprints] at hc
    rcases mem_integerText hc with h | h
    · simp [h] at hdigit
    · exact absurd h hsign
  | float hfinite hprints =>
    rw [← hprints] at hc
    have hplain (y : Binary64) : DecimalLayout.plain.Positional y :=
      DecimalLayout.positional_of_unbounded rfl y
    rcases DecimalLayout.mem_text_of_positional hfinite (hplain _) hc with h | h | h
    · simp [h] at hdigit
    · exact absurd h hsign
    · exact absurd h hpoint

/-- How captured text is written out again, where floats have a layout. -/
def rewritten (layout : DecimalLayout) (s : String) : String :=
  match ofCaptured s with
  | .float x => layout.text x
  | _ => s

/-- **Which captured text is written out unchanged.** Under a layout that keeps the fraction of
whole numbers captured text is written out as it was, unless it became a float that is a whole
number in the text or has an exponent in the layout. -/
theorem rewritten_eq_iff {layout : DecimalLayout} (hk : layout.keepsFraction = true) (s : String) :
    rewritten layout s = s ↔
      ∀ x, ofCaptured s = .float x → layout.Positional x ∧ '.' ∈ s.toList := by
  have hs := captured_ofCaptured s
  unfold rewritten
  generalize ofCaptured s = u at hs
  cases hs with
  | text => simp
  | int _ _ => simp
  | @float x hfinite hprints =>
    have heq := DecimalLayout.text_eq_plain_iff hk hfinite
    rw [hprints] at heq
    rw [heq]
    constructor
    · rintro h _ ⟨⟩
      exact h
    · intro h
      exact h x rfl

end Tree

end Converge
