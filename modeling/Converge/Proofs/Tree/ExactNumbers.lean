import Converge.Proofs.Decimal.Numerals
import Converge.Proofs.Tree.Numbers
import Converge.Proofs.Tree.Sameness

/-!
# Numbers that stand for one text

Captured text becomes an integer exactly where it is the canonical numeral of an integer of 64 bits,
and what other texts write an integer of 64 bits stays text. Two texts never become equal values:
among the numbers only the two zeros are equal without being one number, and no text becomes a float
that is a zero, since both texts of zeros write integers.

Main statement: `ofCaptured_exact`.
-/

namespace Converge

/-! ## Equal floats -/

namespace Binary64

theorem isZero_of_mod_eq_zero {x : Binary64} (h : x.bits.toNat % signBit = 0) :
    x.isZero = true := by
  simp only [signBit] at h
  have hfield : x.bits.toNat / 0x10000000000000 % 2048 = 0 := by omega
  have hfraction : x.bits.toNat % 0x10000000000000 = 0 := by omega
  simp [isZero, field, fraction, fractions, hfield, hfraction]

theorem orderKey_eq (x : Binary64) :
    x.orderKey = if signBit ≤ x.bits.toNat then -((x.bits.toNat % signBit : Nat) : Int)
      else ((x.bits.toNat % signBit : Nat) : Int) := by
  unfold orderKey isNegative
  by_cases h : signBit ≤ x.bits.toNat
  · rw [if_pos (decide_eq_true h), if_pos h]
  · rw [if_neg (by simpa using h), if_neg h]

/-- Only zeros are equal without being the same float. -/
theorem eq_of_numEq {x y : Binary64} (h : x.numEq y = true) (hx : x.isZero = false) : x = y := by
  obtain ⟨-, -, hkey⟩ := numEq_iff.mp h
  rw [orderKey_eq, orderKey_eq] at hkey
  have hmod : x.bits.toNat % signBit ≠ 0 := by
    intro hzero
    rw [isZero_of_mod_eq_zero hzero] at hx
    cases hx
  have hbits : x.bits.toNat = y.bits.toNat := by
    have hxlt := x.bits.toNat_lt
    have hylt := y.bits.toNat_lt
    split at hkey <;> split at hkey <;> simp only [signBit] at * <;> omega
  cases x
  cases y
  exact congrArg mk (UInt64.toNat_inj.mp hbits)

end Binary64

theorem DecimalLayout.plain_text_of_isZero {x : Binary64} (hfinite : x.isFinite = true)
    (hzero : x.isZero = true) : plain.text x = "0" ∨ plain.text x = "-0" := by
  have hdigits : plain.magnitudeText x = ['0'] := by
    rw [magnitudeText, if_pos hzero]
    rfl
  rw [text_of_finite hfinite, hdigits]
  cases x.isNegative with
  | true => exact Or.inr rfl
  | false => exact Or.inl rfl

namespace Tree

/-- Text that writes an integer of 64 bits becomes that integer or stays text. -/
theorem ofCaptured_of_writes {s : String} {i : Int} (h : Numeral.Writes s.toList i)
    (hfits : Numeral.fitsInt64 i = true) :
    ofCaptured s = if integerText i = s then .int i else .text s := by
  simp only [ofCaptured, Numeral.readInt64?_eq_some_iff.mpr ⟨h, hfits⟩]

theorem ofCaptured_eq_int_iff {s : String} {i : Int} :
    ofCaptured s = .int i ↔ Numeral.Canonical s.toList i ∧ Numeral.fitsInt64 i = true := by
  rw [Numeral.canonical_iff, String.toList_inj]
  constructor
  · intro h
    have hs := captured_ofCaptured s
    rw [h] at hs
    cases hs with
    | int hfits hprints => exact ⟨hprints, hfits⟩
  · rintro ⟨hprints, hfits⟩
    have hwrites : Numeral.Writes s.toList i :=
      (Numeral.canonical_iff.mpr (congrArg String.toList hprints)).writes
    rw [ofCaptured_of_writes hwrites hfits, if_pos hprints]

/-- No text becomes a float that is a zero. -/
theorem isZero_of_ofCaptured {s : String} {x : Binary64} (h : ofCaptured s = .float x) :
    x.isZero = false := by
  have hs := captured_ofCaptured s
  rw [h] at hs
  cases hs with
  | float hfinite hprints =>
    by_contra hzero
    rw [Bool.not_eq_false] at hzero
    -- The texts of both zeros write integers, which come before floats.
    rcases DecimalLayout.plain_text_of_isZero hfinite hzero with htext | htext <;>
      rw [hprints] at htext <;> subst htext <;> cases h

/-- Two texts never become equal values. -/
theorem eq_of_same_ofCaptured {s t : String} (h : (ofCaptured s).same (ofCaptured t) = true) :
    s = t := by
  have hs := captured_ofCaptured s
  have ht := captured_ofCaptured t
  have hzero : ∀ x, ofCaptured s = .float x → x.isZero = false := fun _ => isZero_of_ofCaptured
  generalize ofCaptured s = u at h hs hzero
  generalize ofCaptured t = v at h ht
  cases hs with
  | text =>
    cases ht with
    | text => simpa [same] using h
    | _ => cases h
  | @int i hfits hprints =>
    cases ht with
    | @int j hfits' hprints' =>
      obtain rfl : i = j := by simpa [same] using h
      rw [← hprints, ← hprints']
    | _ => cases h
  | @float x hfinite hprints =>
    cases ht with
    | @float y hfinite' hprints' =>
      obtain rfl := Binary64.eq_of_numEq h (hzero x rfl)
      rw [← hprints, ← hprints']
    | _ => cases h

/-- **Captured numbers are exact.** A text becomes an integer exactly where it is the canonical
numeral of that integer and the integer has 64 bits. Any other text that writes an integer of 64
bits stays the text that it is. Two texts that become equal values are one text. -/
theorem ofCaptured_exact (s : String) :
    (∀ i, ofCaptured s = .int i ↔
      Numeral.Canonical s.toList i ∧ Numeral.int64Min ≤ i ∧ i ≤ Numeral.int64Max) ∧
    (∀ i, Numeral.Writes s.toList i → Numeral.int64Min ≤ i ∧ i ≤ Numeral.int64Max →
      ¬Numeral.Canonical s.toList i → ofCaptured s = .text s) ∧
    (∀ t, (ofCaptured s).same (ofCaptured t) = true → s = t) := by
  refine ⟨?_, ?_, ?_⟩
  · intro i
    rw [ofCaptured_eq_int_iff, Numeral.fitsInt64_iff]
  · intro i hwrites hfits hother
    rw [ofCaptured_of_writes hwrites (Numeral.fitsInt64_iff.mpr hfits), if_neg]
    intro hprints
    exact hother (Numeral.canonical_iff.mpr (congrArg String.toList hprints))
  · exact fun t => eq_of_same_ofCaptured

/-- The least integer of 64 bits is read, a negative zero stays text, and `1.0` and `1` become
different values. -/
theorem ofCaptured_exact_numerals :
    ofCaptured "-9223372036854775808" = .int Numeral.int64Min ∧ ofCaptured "-0" = .text "-0" ∧
      ¬(ofCaptured "1.0").same (ofCaptured "1") = true := by
  obtain ⟨hint, -, -⟩ := ofCaptured_exact "-9223372036854775808"
  obtain ⟨-, htext, -⟩ := ofCaptured_exact "-0"
  obtain ⟨-, -, hsame⟩ := ofCaptured_exact "1.0"
  refine ⟨(hint _).mpr ⟨Numeral.canonical_iff.mpr (by decide), by decide, by decide⟩, ?_, ?_⟩
  · have hwrites : Numeral.Writes "-0".toList 0 := Numeral.readInt?_eq_some_iff.mp rfl
    have hother : ¬Numeral.Canonical "-0".toList 0 := by
      rw [Numeral.canonical_iff]
      decide
    exact htext 0 hwrites (by decide) hother
  · exact fun h => absurd (hsame "1" h) (by decide)

end Tree

end Converge
