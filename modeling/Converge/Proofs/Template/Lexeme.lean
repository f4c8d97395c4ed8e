import Converge.Proofs.Template.Extent

/-!
# A token before a blank

A blank ends a token and is no part of one, so a token does not depend on what follows behind a
blank.

Main statements: `Token.first_append`, `Token.isInner_first_of_concat`.
-/

namespace Converge.Template.Token

variable {b : Char}

/-! ### Characters that are blank -/

theorem ne_of_isBlank (hb : Text.isBlank b = true) {c : Char} (hc : Text.isBlank c = false) :
    b ≠ c := by
  rintro rfl
  rw [hb] at hc
  cases hc

theorem not_blank_of_all {cs : List Char} (h : cs.any Text.isBlank = false) :
    ∀ c ∈ cs, Text.isBlank c = false := by
  simpa using h

theorem not_isNamePart_of_isBlank (hb : Text.isBlank b = true) : isNamePart b = false := by
  rw [← Bool.not_eq_true]
  intro hpart
  rw [not_blank_of_isNamePart hpart] at hb
  cases hb

theorem not_isNameStart_of_isBlank (hb : Text.isBlank b = true) : isNameStart b = false := by
  rw [← Bool.not_eq_true]
  intro hstart
  have hpart := isNamePart_iff.mpr (Or.inl hstart)
  rw [not_isNamePart_of_isBlank hb] at hpart
  cases hpart

theorem digitValue?_of_isBlank (hb : Text.isBlank b = true) {base : Nat} (hbase : base ≤ 36) :
    Numeral.digitValue? base b = none := by
  have hpart := not_isNamePart_of_isBlank hb
  rw [← Bool.not_eq_true, isNamePart_iff, isNameStart_iff] at hpart
  have hdigit : ¬ (48 ≤ b.toNat ∧ b.toNat ≤ 57) := by omega
  have hlower : ¬ (97 ≤ b.toNat ∧ b.toNat ≤ 122) := by omega
  have hupper : ¬ (65 ≤ b.toNat ∧ b.toNat ≤ 90) := by omega
  simp only [Numeral.digitValue?, if_neg hdigit, if_neg hlower, if_neg hupper]
  exact if_neg (Nat.not_lt.mpr hbase)

theorem not_isDigit_of_isBlank (hb : Text.isBlank b = true) : Numeral.isDigit b = false := by
  rw [Numeral.isDigit, digitValue?_of_isBlank hb (by decide)]
  rfl

/-! ### Quoted texts -/

section

variable {quote : Char} {cs raw rest : List Char}

/-- A text is quoted up to its closing quote, whatever follows. -/
theorem spanQuoted_append (hquote : quote ≠ '\\') (h : spanQuoted quote cs = some (raw, rest))
    (us : List Char) : spanQuoted quote (cs ++ us) = some (raw, rest ++ us) := by
  fun_induction spanQuoted quote cs generalizing raw with
  | case1 => cases h
  | case2 c cs ih =>
    obtain ⟨⟨inner, behind⟩, hspan, heq⟩ := Option.map_eq_some_iff.mp h
    obtain ⟨rfl, rfl⟩ := Prod.mk.inj heq
    simp [spanQuoted, ih hspan]
  | case3 cs hescape =>
    cases h
    simp [spanQuoted, hquote]
  | case4 c cs hescape hc ih =>
    obtain ⟨⟨inner, behind⟩, hspan, heq⟩ := Option.map_eq_some_iff.mp h
    obtain ⟨rfl, rfl⟩ := Prod.mk.inj heq
    rcases cs with _ | ⟨d, ds⟩
    · cases hspan
    · have hback : c ≠ '\\' := fun hback => hescape d ds hback rfl
      rw [List.cons_append, spanQuoted, ih hspan]
      · simp [hc]
      · exact fun _ _ h _ => hback h

theorem spanQuoted_concat_of_none (hb : b ≠ quote) (h : spanQuoted quote cs = none) :
    spanQuoted quote (cs ++ [b]) = none := by
  fun_induction spanQuoted quote cs with
  | case1 => simp [spanQuoted, hb]
  | case2 c cs ih =>
    rw [Option.map_eq_none_iff] at h
    simp [spanQuoted, ih h]
  | case3 cs hescape => cases h
  | case4 c cs hescape hc ih =>
    rw [Option.map_eq_none_iff] at h
    have hcut := ih h
    rcases cs with _ | ⟨d, ds⟩
    · by_cases hback : c = '\\'
      · subst hback
        rfl
      · rw [List.cons_append, spanQuoted, hcut]
        · simp [hc]
        · exact fun _ _ h _ => hback h
    · have hback : c ≠ '\\' := fun hback => hescape d ds hback rfl
      rw [List.cons_append, spanQuoted, hcut]
      · simp [hc]
      · exact fun _ _ h _ => hback h

theorem length_spanQuoted (h : spanQuoted quote cs = some (raw, rest)) :
    rest.length ≤ cs.length := by
  fun_induction spanQuoted quote cs generalizing raw with
  | case1 => cases h
  | case2 c cs ih =>
    obtain ⟨⟨inner, behind⟩, hspan, heq⟩ := Option.map_eq_some_iff.mp h
    obtain ⟨rfl, rfl⟩ := Prod.mk.inj heq
    have hle := ih hspan
    simp only [List.length_cons]
    omega
  | case3 cs hescape =>
    cases h
    simp
  | case4 c cs hescape hc ih =>
    obtain ⟨⟨inner, behind⟩, hspan, heq⟩ := Option.map_eq_some_iff.mp h
    obtain ⟨rfl, rfl⟩ := Prod.mk.inj heq
    have hle := ih hspan
    simp only [List.length_cons]
    omega

theorem quotedText_append (hquote : quote ≠ '\\') (h : (quotedText quote cs).1.isInner = true)
    (us : List Char) :
    quotedText quote (cs ++ us) = ((quotedText quote cs).1, (quotedText quote cs).2 ++ us) := by
  rcases hspan : spanQuoted quote cs with _ | ⟨raw, rest⟩
  · simp [quotedText, hspan, isInner] at h
  · simp only [quotedText, spanQuoted_append hquote hspan, hspan]
    rcases unescape (raw.length + 1) none raw with _ | text
    · rfl
    · rfl

theorem isInner_quotedText_of_concat (hquote : quote ≠ '\\') (hb : b ≠ quote)
    (h : (quotedText quote (cs ++ [b])).1.isInner = true) :
    (quotedText quote cs).1.isInner = true := by
  rcases hspan : spanQuoted quote cs with _ | ⟨raw, rest⟩
  · simp [quotedText, spanQuoted_concat_of_none hb hspan, isInner] at h
  · simp only [quotedText, spanQuoted_append hquote hspan] at h
    simp only [quotedText, hspan]
    rcases hchars : unescape (raw.length + 1) none raw with _ | text
    · simp [hchars, isInner] at h
    · rfl

theorem length_quotedText (quote : Char) (cs : List Char) :
    (quotedText quote cs).2.length ≤ cs.length := by
  rcases hspan : spanQuoted quote cs with _ | ⟨raw, rest⟩
  · simp [quotedText, hspan]
  · have hle := length_spanQuoted hspan
    simp only [quotedText, hspan]
    rcases unescape (raw.length + 1) none raw with _ | text
    · exact hle
    · exact hle

end

/-! ### Numbers -/

section

variable (hb : Text.isBlank b = true) (more : List Char)

include hb

theorem step?_of_isBlank (part : NumberPart) : part.step? b = none := by
  have hdigit := not_isDigit_of_isBlank hb
  unfold NumberPart.step?
  split
  all_goals first
    | exact absurd hb (by decide)
    | simp [hdigit]

theorem pointBelongs_append (cs : List Char) :
    pointBelongs (cs ++ b :: more) = pointBelongs cs := by
  have hstart := not_isNameStart_of_isBlank hb
  rcases cs with _ | ⟨c, _ | ⟨d, ds⟩⟩
  · have he : b ≠ 'e' := ne_of_isBlank hb rfl
    have hE : b ≠ 'E' := ne_of_isBlank hb rfl
    rcases more with _ | ⟨d, ds⟩
    · simp [pointBelongs, hstart]
    · simp [pointBelongs, hstart, he, hE]
  · by_cases hc : c = 'e' ∨ c = 'E'
    · have hdigit := not_isDigit_of_isBlank hb
      have hplus : b ≠ '+' := ne_of_isBlank hb rfl
      have hminus : b ≠ '-' := ne_of_isBlank hb rfl
      have hname : isNameStart c = true := by
        rcases hc with rfl | rfl
        · rfl
        · rfl
      simp [pointBelongs, hc, hdigit, hplus, hminus, hname]
    · simp only [not_or] at hc
      simp [pointBelongs, hc]
  · rfl

omit hb in
theorem append_ne_of_isBlank (hb : Text.isBlank b = true) {c d : Char} {cs : List Char}
    (hc : Text.isBlank c = false) (hd : Text.isBlank d = false)
    (h : ∀ rest, cs = c :: d :: rest → False) (rest : List Char) :
    cs ++ b :: more ≠ c :: d :: rest := by
  intro heq
  rcases cs with _ | ⟨x, _ | ⟨y, ys⟩⟩
  · exact ne_of_isBlank hb hc (List.cons.inj heq).1
  · exact ne_of_isBlank hb hd (List.cons.inj (List.cons.inj heq).2).1
  · simp only [List.cons_append, List.cons.injEq] at heq
    exact h ys (by rw [heq.1, heq.2.1])

theorem spanNumber_append (part : NumberPart) (cs : List Char) :
    spanNumber part (cs ++ b :: more) = ((spanNumber part cs).1, (spanNumber part cs).2.1,
      (spanNumber part cs).2.2 ++ b :: more) := by
  induction cs generalizing part with
  | nil => simp [spanNumber, step?_of_isBlank hb]
  | cons c cs ih =>
    simp only [List.cons_append, spanNumber, pointBelongs_append hb]
    rcases part.step? c with _ | next
    · rfl
    · dsimp only
      split
      · rfl
      · rw [ih next]

omit hb in
theorem takeWhile_append_of_not {p : Char → Bool} (hb : p b = false) (cs : List Char) :
    (cs ++ b :: more).takeWhile p = cs.takeWhile p ∧
      (cs ++ b :: more).dropWhile p = cs.dropWhile p ++ b :: more := by
  induction cs with
  | nil => simp [hb]
  | cons c cs ih =>
    obtain ⟨htake, hdrop⟩ := ih
    by_cases hc : p c = true
    · simp [hc, htake, hdrop]
    · simp [hc]

theorem spanRadix_append (base : Nat) (cs : List Char) :
    spanRadix base (cs ++ b :: more) =
      ((spanRadix base cs).1, (spanRadix base cs).2 ++ b :: more) := by
  have hdigit := not_isDigit_of_isBlank hb
  have hhex : Numeral.digitValue? 16 b = none := digitValue?_of_isBlank hb (by decide)
  have hunder : b ≠ '_' := ne_of_isBlank hb rfl
  simp only [spanRadix]
  obtain ⟨htake, hdrop⟩ := takeWhile_append_of_not more (p := fun c => c = '_' ||
    Numeral.isDigit c || (base = 16 && (Numeral.digitValue? 16 c).isSome)) (b := b)
    (by simp [hdigit, hhex, hunder]) cs
  rw [htake, hdrop]

/-- The letters that tell the base of an integer. -/
def radixLetters : List Char := ['b', 'B', 'o', 'O', 'x', 'X']

/-- The token of a decimal numeral that ends in some part. -/
def decimalToken (ds : List Char) (last : NumberPart) : Token :=
  if last = .whole then integerToken 10 ds
  else match (withoutUnderscores ds).bind Numeral.readFloat? with
    | some x => .float x
    | none => .fault .syntaxError

omit hb in
theorem number_of_decimal {cs : List Char}
    (h : ∀ c ∈ radixLetters, ∀ rest, cs = '0' :: c :: rest → False) :
    number cs = (decimalToken (spanNumber .whole cs).1 (spanNumber .whole cs).2.1,
      (spanNumber .whole cs).2.2) := by
  rw [number]
  · rcases spanNumber .whole cs with ⟨ds, last, rest⟩
    simp only [decimalToken]
    split
    · rfl
    · rcases (withoutUnderscores ds).bind Numeral.readFloat? with _ | x
      · rfl
      · rfl
  all_goals exact h _ (by decide)

theorem number_append (cs : List Char) :
    number (cs ++ b :: more) = ((number cs).1, (number cs).2 ++ b :: more) := by
  by_cases h : ∀ c ∈ radixLetters, ∀ rest, cs = '0' :: c :: rest → False
  · have hblank : ∀ c ∈ radixLetters, Text.isBlank c = false := not_blank_of_all rfl
    have h' : ∀ c ∈ radixLetters, ∀ rest, cs ++ b :: more = '0' :: c :: rest → False :=
      fun c hc => append_ne_of_isBlank more hb rfl (hblank c hc) (h c hc)
    rw [number_of_decimal h, number_of_decimal h', spanNumber_append hb]
  · push Not at h
    obtain ⟨c, hc, rest, rfl, -⟩ := h
    simp only [radixLetters, List.mem_cons, List.not_mem_nil, or_false] at hc
    rcases hc with rfl | rfl | rfl | rfl | rfl | rfl
    all_goals simp only [List.cons_append, number, spanRadix_append hb]

omit hb in
theorem length_spanNumber (part : NumberPart) (cs : List Char) :
    (spanNumber part cs).2.2.length ≤ cs.length := by
  induction cs generalizing part with
  | nil => exact Nat.le_refl 0
  | cons c cs ih =>
    rw [spanNumber]
    split
    · rename_i next _
      split
      · exact Nat.le_refl _
      · exact Nat.le_succ_of_le (ih next)
    · exact Nat.le_refl _

omit hb in
theorem length_number {c : Char} (cs : List Char) (hc : Numeral.isDigit c = true) :
    (number (c :: cs)).2.length ≤ cs.length := by
  by_cases h : ∀ d ∈ radixLetters, ∀ rest, c :: cs = '0' :: d :: rest → False
  · rw [number_of_decimal h, spanNumber]
    split
    · rename_i next _
      have hpoint : c ≠ '.' := by
        rintro rfl
        cases hc
      simpa [hpoint] using length_spanNumber next cs
    · rename_i hstep
      unfold NumberPart.step? at hstep
      split at hstep
      all_goals simp [hc] at hstep
  · push Not at h
    obtain ⟨d, hd, rest, heq, -⟩ := h
    obtain ⟨rfl, rfl⟩ := List.cons.inj heq
    have hdrop (base : Nat) : (spanRadix base rest).2.length ≤ rest.length :=
      (List.dropWhile_sublist _).length_le
    simp only [radixLetters, List.mem_cons, List.not_mem_nil, or_false] at hd
    rcases hd with rfl | rfl | rfl | rfl | rfl | rfl
    all_goals exact Nat.le_succ_of_le (hdrop _)

end

/-! ### One token -/

/-- A text that is empty or has a blank in front. -/
def BlankFront (cs : List Char) : Prop := ∀ c ∈ cs.head?, Text.isBlank c = true

theorem BlankFront.append_ne {tail : List Char} (h : BlankFront tail) {d : Char}
    (hd : Text.isBlank d = false) {cs : List Char} (hcs : ∀ rest, cs ≠ d :: rest)
    (rest : List Char) : cs ++ tail ≠ d :: rest := by
  intro heq
  rcases cs with _ | ⟨c, cs⟩
  · rw [List.nil_append] at heq
    exact ne_of_isBlank (h d (by simp [heq])) hd rfl
  · obtain ⟨rfl, -⟩ := List.cons.inj heq
    exact hcs cs rfl

/-- The characters that are a token each. -/
def singleSigns : List Char :=
  ['+', '-', '%', '~', '|', '.', ',', ':', '(', ')', '[', ']', '\x7b', '\x7d']

/-- The characters that may begin a sign of two. -/
def pairedSigns : List Char := ['*', '/', '=', '>', '<']

/-- The characters that quote texts. -/
def quotes : List Char := ['\'', '"']

theorem not_blank_of_quote {c : Char} (h : c ∈ quotes) : Text.isBlank c = false := by
  have hall : ∀ c ∈ quotes, Text.isBlank c = false := not_blank_of_all rfl
  exact hall c h

theorem not_back_of_quote {c : Char} (h : c ∈ quotes) : c ≠ '\\' := by
  rintro rfl
  exact absurd h (by decide)

/-- The token of a text that begins with no sign and no quote. -/
def word (c : Char) (cs : List Char) : Token × List Char :=
  if Numeral.isDigit c then number (c :: cs)
  else if isNameStart c then
    (.name (String.ofList (c :: cs.takeWhile isNamePart)), cs.dropWhile isNamePart)
  else (.fault .syntaxError, [])

theorem first_of_word {c : Char} {cs : List Char}
    (hmarks : c ∉ singleSigns ++ pairedSigns ++ quotes)
    (hbang : c = '!' → ∀ rest, cs ≠ '=' :: rest) : first (c :: cs) = word c cs := by
  have hne : ∀ d ∈ singleSigns ++ pairedSigns ++ quotes, c ≠ d := by
    rintro d hd rfl
    exact hmarks hd
  rw [first]
  · rfl
  all_goals first
    | exact hne _ (by decide)
    | exact fun rest hc => hbang hc rest
    | exact fun _ hc _ => hne _ (by decide) hc

/-- Whether a text begins with a sign that leaves `rest`, also with a blank behind the text. -/
def BeginsSign (cs : List Char) : Prop :=
  ∃ s rest, rest.length < cs.length ∧
    ∀ tail, BlankFront tail → first (cs ++ tail) = (.symbol s, rest ++ tail)

theorem beginsSign_of_pair {c : Char} (d : Char) {one two : Symbol} (hd : Text.isBlank d = false)
    (hpair : ∀ rest, first (c :: d :: rest) = (.symbol two, rest))
    (hone : ∀ rest, (∀ more, rest ≠ d :: more) → first (c :: rest) = (.symbol one, rest))
    (rest : List Char) : BeginsSign (c :: rest) := by
  by_cases h : ∃ more, rest = d :: more
  · obtain ⟨more, rfl⟩ := h
    exact ⟨two, more, Nat.lt_succ_of_lt (Nat.lt_succ_self _), fun tail _ => hpair (more ++ tail)⟩
  · push Not at h
    exact ⟨one, rest, by simp, fun tail htail => hone _ (htail.append_ne hd h)⟩

/-- A token begins with a sign, a quote, or some other character, and a blank behind the text does
not change which. -/
theorem first_cases (c : Char) (cs : List Char) :
    BeginsSign (c :: cs) ∨
    (∃ quote ∈ quotes, ∀ tail, first (c :: (cs ++ tail)) = quotedText quote (cs ++ tail)) ∨
    ∀ tail, BlankFront tail → first (c :: (cs ++ tail)) = word c (cs ++ tail) := by
  by_cases hsingle : c ∈ singleSigns
  · left
    simp only [singleSigns, List.mem_cons, List.not_mem_nil, or_false] at hsingle
    rcases hsingle with rfl | rfl | rfl | rfl | rfl | rfl | rfl | rfl | rfl | rfl | rfl | rfl |
      rfl | rfl
    all_goals exact ⟨_, cs, Nat.lt_succ_self _, fun _ _ => rfl⟩
  by_cases hpaired : c ∈ pairedSigns
  · left
    simp only [pairedSigns, List.mem_cons, List.not_mem_nil, or_false] at hpaired
    rcases hpaired with rfl | rfl | rfl | rfl | rfl
    · exact beginsSign_of_pair '*' rfl (fun _ => rfl) (fun rest h => by rw [first]; exact h) cs
    · exact beginsSign_of_pair '/' rfl (fun _ => rfl) (fun rest h => by rw [first]; exact h) cs
    · exact beginsSign_of_pair '=' rfl (fun _ => rfl) (fun rest h => by rw [first]; exact h) cs
    · exact beginsSign_of_pair '=' rfl (fun _ => rfl) (fun rest h => by rw [first]; exact h) cs
    · exact beginsSign_of_pair '=' rfl (fun _ => rfl) (fun rest h => by rw [first]; exact h) cs
  by_cases hquote : c ∈ quotes
  · right
    left
    refine ⟨c, hquote, fun tail => ?_⟩
    simp only [quotes, List.mem_cons, List.not_mem_nil, or_false] at hquote
    rcases hquote with rfl | rfl
    · rfl
    · rfl
  have hmarks : c ∉ singleSigns ++ pairedSigns ++ quotes := by
    simp [hsingle, hpaired, hquote]
  by_cases hbang : c = '!' ∧ ∃ rest, cs = '=' :: rest
  · obtain ⟨rfl, rest, rfl⟩ := hbang
    exact .inl ⟨.ne, rest, Nat.lt_succ_of_lt (Nat.lt_succ_self _), fun _ _ => rfl⟩
  · push Not at hbang
    refine .inr (.inr fun tail htail => first_of_word hmarks fun hc => ?_)
    exact htail.append_ne rfl (hbang hc)

section

variable (hb : Text.isBlank b = true) {c : Char} {cs : List Char}

include hb

theorem blankFront_cons (more : List Char) : BlankFront (b :: more) := by
  rintro d ⟨⟩
  exact hb

theorem word_append (c : Char) (cs more : List Char) :
    (word c (cs ++ b :: more)).1 = (word c cs).1 ∧ ((word c cs).1.isInner = true →
      (word c (cs ++ b :: more)).2 = (word c cs).2 ++ b :: more) := by
  unfold word
  split
  · have hnumber := number_append hb more (c :: cs)
    rw [List.cons_append] at hnumber
    rw [hnumber]
    exact ⟨rfl, fun _ => rfl⟩
  · split
    · obtain ⟨htake, hdrop⟩ := takeWhile_append_of_not more (not_isNamePart_of_isBlank hb) cs
      rw [htake, hdrop]
      exact ⟨rfl, fun _ => rfl⟩
    · exact ⟨rfl, nofun⟩

/-- A blank behind a token ends it. -/
theorem first_append (h : (first (c :: cs)).1.isInner = true) (more : List Char) :
    first (c :: (cs ++ b :: more)) =
      ((first (c :: cs)).1, (first (c :: cs)).2 ++ b :: more) := by
  have hblank := blankFront_cons hb more
  have hnil : BlankFront [] := nofun
  rcases first_cases c cs with ⟨s, rest, -, hsign⟩ | ⟨quote, hquote, htext⟩ | hword
  · have hbare : first (c :: cs) = (.symbol s, rest) := by simpa using hsign [] hnil
    rw [hbare, ← List.cons_append, hsign _ hblank]
  · have hbare : first (c :: cs) = quotedText quote cs := by simpa using htext []
    rw [hbare] at h
    rw [hbare, htext, quotedText_append (not_back_of_quote hquote) h]
  · have hbare : first (c :: cs) = word c cs := by simpa using hword [] hnil
    rw [hbare] at h
    obtain ⟨hfst, hsnd⟩ := word_append hb c cs more
    rw [hbare, hword _ hblank, Prod.ext_iff]
    exact ⟨hfst, hsnd h⟩

theorem isInner_first_of_concat (h : (first (c :: (cs ++ [b]))).1.isInner = true) :
    (first (c :: cs)).1.isInner = true := by
  have hblank := blankFront_cons hb []
  have hnil : BlankFront [] := nofun
  rcases first_cases c cs with ⟨s, rest, -, hsign⟩ | ⟨quote, hquote, htext⟩ | hword
  · have hbare : first (c :: cs) = (.symbol s, rest) := by simpa using hsign [] hnil
    rw [hbare]
    rfl
  · have hbare : first (c :: cs) = quotedText quote cs := by simpa using htext []
    rw [htext] at h
    rw [hbare]
    exact isInner_quotedText_of_concat (not_back_of_quote hquote)
      (ne_of_isBlank hb (not_blank_of_quote hquote)) h
  · have hbare : first (c :: cs) = word c cs := by simpa using hword [] hnil
    rw [hword _ hblank, (word_append hb c cs []).1] at h
    rwa [hbare]

end

/-- No token begins with a blank. -/
theorem isInner_first_of_isBlank (hb : Text.isBlank b = true) (cs : List Char) :
    (first (b :: cs)).1.isInner = false := by
  have hblank : ∀ c ∈ singleSigns ++ pairedSigns ++ quotes, Text.isBlank c = false :=
    not_blank_of_all rfl
  have hmarks : b ∉ singleSigns ++ pairedSigns ++ quotes := fun hmem =>
    ne_of_isBlank hb (hblank b hmem) rfl
  rw [first_of_word hmarks fun hbang => absurd hbang (ne_of_isBlank hb rfl), word]
  simp [not_isDigit_of_isBlank hb, not_isNameStart_of_isBlank hb, isInner]

theorem length_first (c : Char) (cs : List Char) : (first (c :: cs)).2.length ≤ cs.length := by
  have hnil : BlankFront [] := nofun
  rcases first_cases c cs with ⟨s, rest, hlt, hsign⟩ | ⟨quote, -, htext⟩ | hword
  · have hbare : first (c :: cs) = (.symbol s, rest) := by simpa using hsign [] hnil
    rw [hbare]
    exact Nat.le_of_lt_succ hlt
  · have hbare : first (c :: cs) = quotedText quote cs := by simpa using htext []
    rw [hbare]
    exact length_quotedText quote cs
  · have hbare : first (c :: cs) = word c cs := by simpa using hword [] hnil
    rw [hbare]
    unfold word
    split
    · exact length_number cs ‹_›
    · split
      · exact (List.dropWhile_sublist _).length_le
      · exact Nat.zero_le _

end Converge.Template.Token
