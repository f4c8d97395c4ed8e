import Converge.Decimal.Numeral
import Mathlib.Data.List.Basic
import Mathlib.Data.List.Induction

/-!
# Integers in decimal notation

A text writes an integer with one or more decimal digits behind an optional sign (`Writes`). Among
the texts that write an integer one is canonical (`Canonical`): it has no plus sign, no leading
zeros, and no sign before a zero.

Main statements:
* `readInt?_eq_some_iff`: integers are read from just the texts that write them;
* `canonical_iff`: an integer is printed as its canonical numeral, and as no other text.
-/

namespace Converge.Numeral

/-- One or more decimal digits. -/
def IsDigits (ds : List Char) : Prop := ds ≠ [] ∧ ∀ c ∈ ds, c.isDigit = true

/-- Digits do not start with a sign. -/
theorem IsDigits.ne_cons {ds more : List Char} (h : IsDigits ds) {c : Char}
    (hc : c.isDigit = false) : ds ≠ c :: more := by
  rintro rfl
  rw [h.2 c List.mem_cons_self] at hc
  cases hc

/-- Digits behind an optional sign write an integer. -/
inductive Writes : List Char → Int → Prop
  | plain {ds : List Char} : IsDigits ds → Writes ds (Nat.ofDigitChars 10 ds 0)
  | plus {ds : List Char} : IsDigits ds → Writes ('+' :: ds) (Nat.ofDigitChars 10 ds 0)
  | minus {ds : List Char} : IsDigits ds → Writes ('-' :: ds) (-Nat.ofDigitChars 10 ds 0)

/-- The canonical numeral of an integer is `0`, or digits that do not start with `0` behind an
optional minus sign. -/
inductive Canonical : List Char → Int → Prop
  | zero : Canonical ['0'] 0
  | positive {ds : List Char} : IsDigits ds → ds.head? ≠ some '0' →
      Canonical ds (Nat.ofDigitChars 10 ds 0)
  | negative {ds : List Char} : IsDigits ds → ds.head? ≠ some '0' →
      Canonical ('-' :: ds) (-Nat.ofDigitChars 10 ds 0)

theorem Canonical.writes {cs : List Char} {i : Int} (h : Canonical cs i) : Writes cs i := by
  cases h with
  | zero => exact .plain ⟨by simp, by simp⟩
  | positive hdigits _ => exact .plain hdigits
  | negative hdigits _ => exact .minus hdigits

/-! ## Reading -/

theorem digitValue?_ten (c : Char) :
    digitValue? 10 c = if c.isDigit then some (c.toNat - '0'.toNat) else none := by
  have hdigit : c.isDigit = true ↔ 48 ≤ c.toNat ∧ c.toNat ≤ 57 := Char.isDigit_iff_toNat
  have hzero : '0'.toNat = 48 := rfl
  unfold digitValue?
  by_cases h : 48 ≤ c.toNat ∧ c.toNat ≤ 57
  · have hlt : c.toNat - 48 < 10 := by omega
    simp [h, hdigit.mpr h, hzero, hlt]
  · have hno : ¬c.isDigit = true := fun hc => h (hdigit.mp hc)
    rw [if_neg hno, if_neg]
    simp only [if_neg h]
    split
    · omega
    · split <;> omega

theorem readFrom_eq_some_iff {cs : List Char} {acc n : Nat} :
    readFrom 10 acc cs = some n ↔
      (∀ c ∈ cs, c.isDigit = true) ∧ Nat.ofDigitChars 10 cs acc = n := by
  induction cs generalizing acc with
  | nil => simp [readFrom]
  | cons c cs ih =>
    rw [readFrom, digitValue?_ten, Nat.ofDigitChars_cons, List.forall_mem_cons]
    by_cases hc : c.isDigit = true
    · simp [hc, ih, Nat.mul_comm]
    · simp [hc]

theorem readNat?_eq_some_iff {cs : List Char} {n : Nat} :
    readNat? 10 cs = some n ↔ IsDigits cs ∧ Nat.ofDigitChars 10 cs 0 = n := by
  cases cs with
  | nil => simp [readNat?, IsDigits]
  | cons c cs => simp [readNat?, IsDigits, readFrom_eq_some_iff]

theorem readNat?_cast_eq_some_iff {cs : List Char} {i : Int} :
    (do let n ← readNat? 10 cs; pure (n : Int) : Option Int) = some i ↔
      IsDigits cs ∧ (Nat.ofDigitChars 10 cs 0 : Int) = i := by
  simp [Option.bind_eq_some_iff, readNat?_eq_some_iff, and_assoc]

/-- Integers are read from just the texts that write them. -/
theorem readInt?_eq_some_iff {cs : List Char} {i : Int} : readInt? cs = some i ↔ Writes cs i := by
  constructor
  · intro h
    unfold readInt? at h
    split at h <;> obtain ⟨n, hn, rfl⟩ := Option.map_eq_some_iff.mp h <;>
      obtain ⟨hdigits, rfl⟩ := readNat?_cast_eq_some_iff.mp hn
    · exact .minus hdigits
    · exact .plus hdigits
    · exact .plain hdigits
  · intro h
    cases h with
    | plain hdigits =>
      unfold readInt?
      split
      · exact absurd rfl (hdigits.ne_cons rfl)
      · exact absurd rfl (hdigits.ne_cons rfl)
      · rw [readNat?_cast_eq_some_iff.mpr ⟨hdigits, rfl⟩, Option.map_some]
    | plus hdigits => rw [readInt?, readNat?_cast_eq_some_iff.mpr ⟨hdigits, rfl⟩, Option.map_some]
    | minus hdigits => rw [readInt?, readNat?_cast_eq_some_iff.mpr ⟨hdigits, rfl⟩, Option.map_some]

theorem fitsInt64_iff {i : Int} : fitsInt64 i = true ↔ int64Min ≤ i ∧ i ≤ int64Max := by
  rw [fitsInt64, Bool.and_eq_true, decide_eq_true_iff, decide_eq_true_iff]

theorem readInt64?_eq_some_iff {cs : List Char} {i : Int} :
    readInt64? cs = some i ↔ Writes cs i ∧ fitsInt64 i = true := by
  rw [readInt64?, Option.filter_eq_some_iff, readInt?_eq_some_iff]

/-! ## Printing -/

theorem digitChar_of_isDigit {c : Char} (h : c.isDigit = true) :
    c.toNat - '0'.toNat < 10 ∧ (c.toNat - '0'.toNat).digitChar = c := by
  have hrange : 48 ≤ c.toNat ∧ c.toNat ≤ 57 := Char.isDigit_iff_toNat.mp h
  have hzero : '0'.toNat = 48 := rfl
  have hlt : c.toNat - '0'.toNat < 10 := by omega
  refine ⟨hlt, Char.toNat_inj.mp ?_⟩
  rw [Nat.toNat_digitChar_of_lt_ten hlt]
  omega

/-- Digits that do not start with `0` are printed again from their value, which is positive. -/
theorem toDigits_ofDigitChars {ds : List Char} (h : IsDigits ds) (hlead : ds.head? ≠ some '0') :
    0 < Nat.ofDigitChars 10 ds 0 ∧ Nat.toDigits 10 (Nat.ofDigitChars 10 ds 0) = ds := by
  induction ds using List.reverseRecOn with
  | nil => exact absurd rfl h.1
  | append_singleton ds c ih =>
    obtain ⟨hlt, hchar⟩ := digitChar_of_isDigit (h.2 c (by simp))
    have hlast : Nat.toDigits 10 (c.toNat - '0'.toNat) = [c] := by
      rw [Nat.toDigits_of_lt_base hlt, hchar]
    rw [Nat.ofDigitChars_append, Nat.ofDigitChars_cons, Nat.ofDigitChars_nil]
    by_cases hnil : ds = []
    · subst hnil
      have hc : c.toNat - '0'.toNat ≠ 0 := by
        intro hzero
        rw [hzero] at hchar
        exact hlead (congrArg some hchar.symm)
      rw [Nat.ofDigitChars_nil, Nat.mul_zero, Nat.zero_add, List.nil_append]
      exact ⟨Nat.pos_of_ne_zero hc, hlast⟩
    · have hfront : IsDigits ds := ⟨hnil, fun d hd => h.2 d (List.mem_append_left _ hd)⟩
      rw [List.head?_append_of_ne_nil _ hnil] at hlead
      obtain ⟨hpos, hdigits⟩ := ih hfront hlead
      refine ⟨by omega, ?_⟩
      rw [← Nat.toDigits_append_toDigits (by decide) hpos hlt, hdigits, hlast]

theorem head?_toDigits {n : Nat} (h : 0 < n) : (Nat.toDigits 10 n).head? ≠ some '0' := by
  induction n using Nat.strongRecOn with
  | ind n ih =>
    rw [Nat.toDigits_eq_if (by decide)]
    split
    · have hne : n ≠ 0 := by omega
      simpa using hne
    · rw [List.head?_append_of_ne_nil _ Nat.toDigits_ne_nil]
      exact ih (n / 10) (by omega) (by omega)

theorem isDigits_toDigits (n : Nat) : IsDigits (Nat.toDigits 10 n) :=
  ⟨Nat.toDigits_ne_nil, fun _ hc => Nat.isDigit_of_mem_toDigits (by decide) (by decide) hc⟩

theorem canonical_integerText (i : Int) : Canonical (integerText i).toList i := by
  have hdigits := isDigits_toDigits i.natAbs
  have hvalue : Nat.ofDigitChars 10 (Nat.toDigits 10 i.natAbs) 0 = i.natAbs :=
    Nat.ofDigitChars_ten_toDigits
  unfold integerText
  rw [String.toList_ofList]
  split
  · have hneg : (-(i.natAbs : Nat) : Int) = i := by omega
    have h := Canonical.negative hdigits (head?_toDigits (by omega))
    rwa [hvalue, hneg] at h
  · by_cases hzero : i = 0
    · subst hzero
      exact .zero
    · have hpos : ((i.natAbs : Nat) : Int) = i := by omega
      have h := Canonical.positive hdigits (head?_toDigits (by omega))
      rwa [hvalue, hpos] at h

/-- An integer is printed as its canonical numeral, and as no other text. -/
theorem canonical_iff {cs : List Char} {i : Int} :
    Canonical cs i ↔ (integerText i).toList = cs := by
  constructor
  · intro h
    unfold integerText
    rw [String.toList_ofList]
    cases h with
    | zero => rfl
    | positive hdigits hlead =>
      obtain ⟨-, hprint⟩ := toDigits_ofDigitChars hdigits hlead
      rw [if_neg (by omega), Int.natAbs_natCast, hprint]
    | negative hdigits hlead =>
      obtain ⟨hpos, hprint⟩ := toDigits_ofDigitChars hdigits hlead
      rw [if_pos (by omega), Int.natAbs_neg, Int.natAbs_natCast, hprint]
  · rintro rfl
    exact canonical_integerText i

end Converge.Numeral
