import Converge.Decimal.Layout
import Mathlib.Tactic.Tauto

/-!
# One float under two layouts

Every layout writes the same shortest digits. Two layouts of a float differ where one of them writes
an exponent, and where one of them keeps the fraction of a whole number.

Main statement: `text_eq_plain_iff`.
-/

namespace Converge

namespace DecimalLayout

/-- The exponent of a float's first digit lies where a layout writes no exponent. -/
def Positional (layout : DecimalLayout) (x : Binary64) : Prop :=
  x.isZero = true ∨ ∀ bounds ∈ layout.positional,
    bounds.1 ≤ x.shortest.point - 1 ∧ x.shortest.point - 1 ≤ bounds.2

instance (layout : DecimalLayout) (x : Binary64) : Decidable (layout.Positional x) :=
  inferInstanceAs (Decidable (_ ∨ _))

theorem positional_of_unbounded {layout : DecimalLayout} (h : layout.positional = none)
    (x : Binary64) : layout.Positional x :=
  Or.inr (by simp [h])

/-- The digits that positional notation lays out, and how many of them stand before the point. -/
def digitsOf (x : Binary64) : List Char × Int :=
  if x.isZero then (['0'], 1) else (Nat.toDigits 10 x.shortest.value, x.shortest.point)

theorem digitsOf_ne_nil (x : Binary64) : (digitsOf x).1 ≠ [] := by
  unfold digitsOf
  split
  · simp
  · exact Nat.toDigits_ne_nil

theorem isDigit_of_mem_digitsOf {x : Binary64} {c : Char} (h : c ∈ (digitsOf x).1) :
    c.isDigit = true := by
  unfold digitsOf at h
  split at h
  · rw [List.mem_singleton.mp h]
    rfl
  · exact Nat.isDigit_of_mem_toDigits (by decide) (by decide) h

variable {layout : DecimalLayout} {x : Binary64}

theorem magnitudeText_of_positional (h : layout.Positional x) :
    layout.magnitudeText x = layout.positionalText (digitsOf x).1 (digitsOf x).2 := by
  unfold magnitudeText digitsOf
  split
  · rfl
  · rename_i hzero
    have hbounds := h.resolve_left hzero
    rcases hp : layout.positional with _ | ⟨low, high⟩
    · rfl
    · have hin := hbounds (low, high) (by simp [hp])
      simp [hin.1, hin.2]

theorem magnitudeText_of_not_positional (h : ¬ layout.Positional x) :
    layout.magnitudeText x =
      layout.exponentText (Nat.toDigits 10 x.shortest.value) (x.shortest.point - 1) := by
  rw [Positional, not_or] at h
  unfold magnitudeText
  rw [if_neg h.1]
  rcases hp : layout.positional with _ | ⟨low, high⟩
  · simp [hp] at h
  · have hout : ¬ (decide (low ≤ x.shortest.point - 1) &&
        decide (x.shortest.point - 1 ≤ high)) = true := by
      intro hin
      rw [Bool.and_eq_true, decide_eq_true_iff, decide_eq_true_iff] at hin
      refine h.2 fun bounds hbounds => ?_
      obtain rfl := Option.some.inj (hp.symm.trans hbounds)
      exact hin
    exact if_neg hout

theorem mem_positionalText {ds : List Char} {point : Int} {c : Char}
    (h : c ∈ layout.positionalText ds point) : c = '0' ∨ c = '.' ∨ c ∈ ds := by
  simp only [positionalText] at h
  split at h
  · simp only [List.mem_cons, List.mem_append, List.mem_replicate] at h
    tauto
  · split at h
    · have hend : c ∈ (if layout.keepsFraction then ['.', '0'] else []) → c = '.' ∨ c = '0' := by
        split <;> simp
      simp only [List.mem_append, List.mem_replicate] at h
      tauto
    · rcases List.mem_append.mp h with htake | hdrop
      · exact Or.inr (Or.inr (List.mem_of_mem_take htake))
      · rcases List.mem_cons.mp hdrop with rfl | hdrop
        · exact Or.inr (Or.inl rfl)
        · exact Or.inr (Or.inr (List.mem_of_mem_drop hdrop))

theorem positionalText_ne_nil {ds : List Char} (h : ds ≠ []) (point : Int) :
    layout.positionalText ds point ≠ [] := by
  simp only [positionalText]
  split
  · simp
  · split
    · simp [h]
    · simp

theorem e_mem_exponentText (ds : List Char) (exponent : Int) :
    'e' ∈ layout.exponentText ds exponent := by
  have hmark : 'e' ∈ (if exponent < 0 then ['e', '-'] else
      if layout.exponentSign then ['e', '+'] else ['e']) := by
    split
    · simp
    · split <;> simp
  simp only [exponentText]
  split
  · exact List.mem_append_left _ hmark
  · exact List.mem_cons_of_mem _ (List.mem_append_left _ hmark)
  · exact List.mem_append_right _ (List.mem_append_left _ hmark)

theorem mem_exponentText {ds : List Char} {exponent : Int} {c : Char}
    (h : c ∈ layout.exponentText ds exponent) :
    c.isDigit = true ∨ c ∈ ['e', '-', '+', '.'] ∨ c ∈ ds := by
  have hdigit : c ∈ Nat.toDigits 10 exponent.natAbs → c.isDigit = true :=
    Nat.isDigit_of_mem_toDigits (by decide) (by decide)
  have hmark : c ∈ (if exponent < 0 then ['e', '-'] else
      if layout.exponentSign then ['e', '+'] else ['e']) → c = 'e' ∨ c = '-' ∨ c = '+' := by
    split
    · simp only [List.mem_cons, List.not_mem_nil]
      tauto
    · split
      · simp only [List.mem_cons, List.not_mem_nil]
        tauto
      · simp only [List.mem_cons, List.not_mem_nil]
        tauto
  simp only [exponentText] at h
  split at h
  · simp only [List.mem_append, List.mem_cons] at h ⊢
    tauto
  · simp only [List.mem_append, List.mem_cons] at h ⊢
    tauto
  · simp only [List.cons_append, List.mem_append, List.mem_cons] at h ⊢
    tauto

/-- A layout that keeps the fraction of whole numbers writes positionally what plain texts do,
unless these have no point. -/
theorem positionalText_eq_plain_iff (hk : layout.keepsFraction = true) {ds : List Char}
    (hds : '.' ∉ ds) (point : Int) :
    layout.positionalText ds point = plain.positionalText ds point ↔
      '.' ∈ plain.positionalText ds point := by
  simp only [positionalText]
  by_cases hpoint : point ≤ 0
  · simp [hpoint]
  by_cases hwhole : ds.length ≤ point.toNat
  · simp [hpoint, hwhole, hk, plain, hds]
  · simp [hpoint, hwhole]

theorem text_of_finite (h : x.isFinite = true) :
    layout.text x =
      (if x.isNegative then "-" else "") ++ String.ofList (layout.magnitudeText x) := by
  have hfield : x.field ≠ 0x7ff := by simpa [Binary64.isFinite] using h
  simp [text, Binary64.isNaN, Binary64.isInfinite, hfield]

theorem mem_text_iff (h : x.isFinite = true) {c : Char} :
    c ∈ (layout.text x).toList ↔ (x.isNegative = true ∧ c = '-') ∨ c ∈ layout.magnitudeText x := by
  rw [text_of_finite h]
  cases x.isNegative <;> simp

/-- A finite float without an exponent is written with digits, a minus sign and a point. -/
theorem mem_text_of_positional (h : x.isFinite = true) (hp : layout.Positional x) {c : Char}
    (hc : c ∈ (layout.text x).toList) : c.isDigit = true ∨ c = '-' ∨ c = '.' := by
  rcases (mem_text_iff h).mp hc with ⟨-, hsign⟩ | hmagnitude
  · exact Or.inr (Or.inl hsign)
  · rw [magnitudeText_of_positional hp] at hmagnitude
    rcases mem_positionalText hmagnitude with rfl | rfl | hdigit
    · exact Or.inl rfl
    · exact Or.inr (Or.inr rfl)
    · exact Or.inl (isDigit_of_mem_digitsOf hdigit)

theorem magnitudeText_ne_nil : layout.magnitudeText x ≠ [] := by
  by_cases hp : layout.Positional x
  · rw [magnitudeText_of_positional hp]
    exact positionalText_ne_nil (digitsOf_ne_nil x) _
  · rw [magnitudeText_of_not_positional hp]
    exact List.ne_nil_of_mem (e_mem_exponentText _ _)

theorem text_ne_empty (hnan : layout.nan ≠ "") (hinf : layout.infinity ≠ "") :
    layout.text x ≠ "" := by
  have hmagnitude : layout.magnitudeText x ≠ [] := magnitudeText_ne_nil
  simp only [text]
  split
  · exact hnan
  · split
    · simp [hinf]
    · simp [hmagnitude]

/-- What a float is written with, in any layout. -/
theorem mem_text {c : Char} (hc : c ∈ (layout.text x).toList) :
    c.isDigit = true ∨ c ∈ ['e', '-', '+', '.'] ∨ c ∈ layout.nan.toList ∨
      c ∈ layout.infinity.toList := by
  have hsign : c ∈ (if x.isNegative then "-" else "").toList → c = '-' := by
    split <;> simp
  have hmagnitude : c ∈ layout.magnitudeText x → c.isDigit = true ∨ c ∈ ['e', '-', '+', '.'] := by
    intro hmem
    by_cases hp : layout.Positional x
    · rw [magnitudeText_of_positional hp] at hmem
      rcases mem_positionalText hmem with rfl | rfl | hdigit
      · exact Or.inl rfl
      · exact Or.inr (by simp)
      · exact Or.inl (isDigit_of_mem_digitsOf hdigit)
    · rw [magnitudeText_of_not_positional hp] at hmem
      rcases mem_exponentText hmem with hdigit | hmark | hdigit
      · exact Or.inl hdigit
      · exact Or.inr hmark
      · exact Or.inl (Nat.isDigit_of_mem_toDigits (by decide) (by decide) hdigit)
  simp only [text] at hc
  split at hc
  · exact Or.inr (Or.inr (Or.inl hc))
  · split at hc
    · rcases List.mem_append.mp (String.toList_append ▸ hc) with hmem | hmem
      · exact Or.inr (Or.inl (by simp [hsign hmem]))
      · exact Or.inr (Or.inr (Or.inr hmem))
    · rcases List.mem_append.mp (String.toList_append ▸ hc) with hmem | hmem
      · exact Or.inr (Or.inl (by simp [hsign hmem]))
      · rw [String.toList_ofList] at hmem
        exact (hmagnitude hmem).imp_right Or.inl

/-- **Where a layout agrees with the plain one.** A layout that keeps the fraction of whole numbers
writes a finite float as plain texts do exactly when it writes no exponent and the plain text has a
point. -/
theorem text_eq_plain_iff (hk : layout.keepsFraction = true) (h : x.isFinite = true) :
    layout.text x = plain.text x ↔ layout.Positional x ∧ '.' ∈ (plain.text x).toList := by
  have hunbounded : plain.Positional x := positional_of_unbounded rfl x
  have hplain := magnitudeText_of_positional hunbounded
  have hsame : layout.text x = plain.text x ↔ layout.magnitudeText x = plain.magnitudeText x := by
    simp [text_of_finite h, String.ofList_inj]
  have hpoint : '.' ∈ (plain.text x).toList ↔ '.' ∈ plain.magnitudeText x := by
    simp [mem_text_iff h]
  rw [hsame, hpoint]
  by_cases hp : layout.Positional x
  · have hds : '.' ∉ (digitsOf x).1 := fun hmem => by simpa using isDigit_of_mem_digitsOf hmem
    rw [magnitudeText_of_positional hp, hplain, positionalText_eq_plain_iff hk hds]
    exact (and_iff_right hp).symm
  · refine iff_of_false (fun heq => ?_) (fun hboth => hp hboth.1)
    -- The plain text has no exponent mark.
    have he : 'e' ∈ plain.magnitudeText x := by
      rw [← heq, magnitudeText_of_not_positional hp]
      exact e_mem_exponentText _ _
    rw [hplain] at he
    rcases mem_positionalText he with h0 | hdot | hdigit
    · exact absurd h0 (by decide)
    · exact absurd hdot (by decide)
    · exact absurd (isDigit_of_mem_digitsOf hdigit) (by decide)

end DecimalLayout

end Converge
