import Converge.Proofs.Template.Lexeme

/-!
# The tokens of an expression

An expression has the same tokens between blanks, at the end of a text, and where it is printed:
there the closing marker follows them.

Main statements: `Token.ofExpression_trim`, `Token.ofTemplate_expression`.
-/

namespace Converge.Template.Token

/-! ### The closing marker -/

/-- Whether a text begins with a marker that closes a printed expression. -/
def closes (cs : List Char) : Bool :=
  Text.startsWith ['\x7d', '\x7d'] cs || Text.startsWith ['-', '\x7d', '\x7d'] cs ||
    Text.startsWith ['+', '\x7d', '\x7d'] cs

theorem startsWith_append {b : Char} (hb : Text.isBlank b = true) {start : List Char}
    (h : ∀ c ∈ start, Text.isBlank c = false) (cs more : List Char) :
    Text.startsWith start (cs ++ b :: more) = Text.startsWith start cs := by
  induction start generalizing cs with
  | nil => cases cs <;> rfl
  | cons a start ih =>
    obtain ⟨ha, hrest⟩ := List.forall_mem_cons.mp h
    rcases cs with _ | ⟨c, cs⟩
    · have hne : a ≠ b := (ne_of_isBlank hb ha).symm
      simp [Text.startsWith, Text.after?, hne]
    · have hstep := ih hrest cs
      by_cases hc : a = c
      · simpa [Text.startsWith, Text.after?, hc] using hstep
      · simp [Text.startsWith, Text.after?, hc]

theorem closes_append {b : Char} (hb : Text.isBlank b = true) (cs more : List Char) :
    closes (cs ++ b :: more) = closes cs := by
  simp only [closes]
  rw [startsWith_append hb (not_blank_of_all rfl), startsWith_append hb (not_blank_of_all rfl),
    startsWith_append hb (not_blank_of_all rfl)]

theorem closes_iff {cs : List Char} : closes cs = true ↔ ∃ rest,
    cs = '\x7d' :: '\x7d' :: rest ∨ cs = '-' :: '\x7d' :: '\x7d' :: rest ∨
      cs = '+' :: '\x7d' :: '\x7d' :: rest := by
  simp only [closes, Bool.or_eq_true, Text.startsWith, Option.isSome_iff_exists,
    Text.after?_eq_some_iff, exists_or, or_assoc]
  rfl

/-! ### One token of a row -/

variable {fuel depth : Nat} {cs rest : List Char} {c : Char}

theorem scan_of_space (h : cs.dropWhile isSpace = []) : scan fuel .inVariable depth cs = [] := by
  cases fuel with
  | zero => rfl
  | succ fuel =>
    unfold scan
    simp only [h]

theorem scan_congr {cs' : List Char} (h : cs.dropWhile isSpace = cs'.dropWhile isSpace) :
    scan fuel .inVariable depth cs = scan fuel .inVariable depth cs' := by
  cases fuel with
  | zero => rfl
  | succ fuel =>
    unfold scan
    simp only [h]

theorem scan_token (h : cs.dropWhile isSpace = c :: rest)
    (hopen : depth = 0 → closes (c :: rest) = false) :
    scan (fuel + 1) .inVariable depth cs = (first (c :: rest)).1 ::
      scan fuel .inVariable (depthAfter depth (first (c :: rest)).1) (first (c :: rest)).2 := by
  have hmarker : ∀ more, depth = 0 → c :: rest ≠ '\x7d' :: '\x7d' :: more ∧
      c :: rest ≠ '-' :: '\x7d' :: '\x7d' :: more ∧
      c :: rest ≠ '+' :: '\x7d' :: '\x7d' :: more := by
    intro more hdepth
    have hopen' := hopen hdepth
    rw [← Bool.not_eq_true, closes_iff, not_exists] at hopen'
    simpa only [not_or] using hopen' more
  conv_lhs => unfold scan
  simp only [h]
  split
  · rename_i heq
    cases heq
  · rename_i heq _
    exact absurd heq (hmarker _ rfl).2.1
  · rename_i heq _
    exact absurd heq (hmarker _ rfl).2.2
  · rename_i heq _
    exact absurd heq (hmarker _ rfl).1
  · rename_i hregion
    cases hregion
  · rename_i hregion
    cases hregion
  · rename_i hregion
    cases hregion
  · rfl

theorem scan_close (fuel : Nat) (h : closes (cs.dropWhile isSpace) = true) :
    ∃ more, scan (fuel + 1) .inVariable 0 cs = .closeVariable :: more := by
  obtain ⟨rest, h | h | h⟩ := closes_iff.mp h
  all_goals
    conv => enter [1, more, 1]; unfold scan
    simp only [h]
    exact ⟨_, rfl⟩

/-! ### Tokens in a row -/

/-- A text is the tokens of an expression, of which `depth` brackets are open in front. -/
inductive Lexed : (depth : Nat) → List Char → List Token → Prop
  | done {depth : Nat} {cs : List Char} (h : cs.dropWhile isSpace = []) : Lexed depth cs []
  | token {depth : Nat} {c : Char} {cs rest : List Char} {ts : List Token}
      (h : cs.dropWhile isSpace = c :: rest) (hopen : depth = 0 → closes (c :: rest) = false)
      (hinner : (first (c :: rest)).1.isInner = true)
      (hrest : Lexed (depthAfter depth (first (c :: rest)).1) (first (c :: rest)).2 ts) :
      Lexed depth cs ((first (c :: rest)).1 :: ts)

variable {ts : List Token} {b : Char}

theorem lexed_of_scan (hfuel : cs.length < fuel)
    (h : ∀ t ∈ scan fuel .inVariable depth cs, t.isInner = true) :
    Lexed depth cs (scan fuel .inVariable depth cs) := by
  induction fuel generalizing depth cs with
  | zero => omega
  | succ fuel ih =>
    rcases hspan : cs.dropWhile isSpace with _ | ⟨c, rest⟩
    · rw [scan_of_space hspan]
      exact .done hspan
    · have hlength : rest.length < cs.length := by
        have hle := (List.dropWhile_sublist (l := cs) isSpace).length_le
        rw [hspan, List.length_cons] at hle
        omega
      have hopen : depth = 0 → closes (c :: rest) = false := by
        rintro rfl
        rw [← Bool.not_eq_true]
        intro hcloses
        rw [← hspan] at hcloses
        obtain ⟨more, hmore⟩ := scan_close fuel hcloses
        rw [hmore] at h
        exact absurd (h _ List.mem_cons_self) nofun
      rw [scan_token hspan hopen] at h ⊢
      have hlength' := length_first c rest
      have hrest := ih (by omega) fun t ht => h t (List.mem_cons_of_mem _ ht)
      exact .token hspan hopen (h _ List.mem_cons_self) hrest

namespace Lexed

theorem scan (h : Lexed depth cs ts) (hfuel : ts.length ≤ fuel) :
    scan fuel .inVariable depth cs = ts := by
  induction h generalizing fuel with
  | done h => exact scan_of_space h
  | token h hopen hinner hrest ih =>
    obtain ⟨fuel, rfl⟩ : ∃ n, fuel = n + 1 := ⟨fuel - 1, by simp at hfuel; omega⟩
    rw [scan_token h hopen, ih (by simpa using hfuel)]

theorem length_le (h : Lexed depth cs ts) : ts.length ≤ cs.length := by
  induction h with
  | done h => exact Nat.zero_le _
  | @token depth c cs rest ts h hopen hinner hrest ih =>
    have hle := (List.dropWhile_sublist (l := cs) isSpace).length_le
    rw [h, List.length_cons] at hle
    have hfirst := length_first c rest
    rw [List.length_cons]
    omega

/-- Only the text behind the blanks in front matters. -/
theorem congr {cs' : List Char} (h : Lexed depth cs ts)
    (hcs : cs'.dropWhile isSpace = cs.dropWhile isSpace) : Lexed depth cs' ts := by
  cases h with
  | done h => exact .done (hcs.trans h)
  | token h hopen hinner hrest => exact .token (hcs.trans h) hopen hinner hrest

/-- Behind the tokens and a blank the scan goes on. -/
theorem scan_append (h : Lexed depth cs ts) (hb : Text.isBlank b = true) (more : List Char) :
    Token.scan (ts.length + fuel) .inVariable depth (cs ++ b :: more) =
      ts ++ Token.scan fuel .inVariable (ts.foldl depthAfter depth) (b :: more) := by
  induction h with
  | @done depth cs h =>
    have hskip : (cs ++ b :: more).dropWhile isSpace = (b :: more).dropWhile isSpace := by
      simp [List.dropWhile_append, h]
    rw [List.length_nil, Nat.zero_add, scan_congr hskip]
    rfl
  | @token depth c cs rest ts h hopen hinner hrest ih =>
    have hskip : (cs ++ b :: more).dropWhile isSpace = c :: (rest ++ b :: more) := by
      simp [List.dropWhile_append, h]
    have hopen' : depth = 0 → closes (c :: (rest ++ b :: more)) = false := by
      intro hdepth
      rw [← List.cons_append, closes_append hb, hopen hdepth]
    rw [List.length_cons, Nat.add_right_comm, scan_token hskip hopen',
      first_append hb hinner, ih]
    rfl

/-- A blank behind an expression is no part of it. -/
theorem of_concat (h : Lexed depth (cs ++ [b]) ts) (hb : Text.isBlank b = true) :
    Lexed depth cs ts := by
  generalize hwhole : cs ++ [b] = whole at h
  induction h generalizing cs with
  | done h =>
    rw [← hwhole] at h
    refine .done ?_
    by_contra hne
    simp [List.dropWhile_append, hne] at h
  | @token depth _ _ _ _ h hopen hinner hrest ih =>
    rw [← hwhole, List.dropWhile_append] at h
    rcases hspan : cs.dropWhile isSpace with _ | ⟨d, ds⟩
    -- A blank alone is skipped, for no token begins with it.
    · simp only [hspan, List.isEmpty_nil, if_true] at h
      by_cases hspace : isSpace b = true
      · simp [hspace] at h
      · rw [List.dropWhile_cons_of_neg hspace] at h
        obtain ⟨rfl, rfl⟩ := List.cons.inj h
        rw [isInner_first_of_isBlank hb] at hinner
        cases hinner
    · simp only [hspan, List.isEmpty_cons, Bool.false_eq_true, if_false, List.cons_append] at h
      obtain ⟨rfl, rfl⟩ := List.cons.inj h
      have hinner' := isInner_first_of_concat hb hinner
      have hopen' : depth = 0 → closes (d :: ds) = false := by
        intro hdepth
        rw [← closes_append hb (d :: ds) [], List.cons_append, hopen hdepth]
      rw [first_append hb hinner'] at hrest ih ⊢
      exact .token hspan hopen' hinner' (ih rfl)

/-- A blank in front of an expression is no part of it. -/
theorem of_cons (h : Lexed depth (b :: cs) ts) (hb : Text.isBlank b = true) :
    Lexed depth cs ts := by
  by_cases hspace : isSpace b = true
  · exact h.congr (by simp [hspace])
  · cases h with
    | done h => simp [hspace] at h
    | token h hopen hinner hrest =>
      rw [List.dropWhile_cons_of_neg hspace] at h
      obtain ⟨rfl, rfl⟩ := List.cons.inj h
      rw [isInner_first_of_isBlank hb] at hinner
      cases hinner

theorem trimStart (h : Lexed depth cs ts) : Lexed depth (Text.trimStart cs) ts := by
  induction cs with
  | nil => exact h
  | cons c cs ih =>
    by_cases hc : Text.isBlank c = true
    · rw [Text.trimStart, List.dropWhile_cons_of_pos hc]
      exact ih (h.of_cons hc)
    · rwa [Text.trimStart, List.dropWhile_cons_of_neg hc]

theorem trimEnd (h : Lexed depth cs ts) : Lexed depth (Text.trimEnd cs) ts := by
  induction hn : cs.length generalizing cs with
  | zero =>
    obtain rfl := List.length_eq_zero_iff.mp hn
    exact h
  | succ n ih =>
    obtain rfl | ⟨front, c, rfl⟩ := List.eq_nil_or_concat' cs
    · exact h
    · by_cases hc : Text.isBlank c = true
      · rw [Text.trimEnd_append_of_eq_nil front (by simp [Text.trimEnd, hc])]
        exact ih (h.of_concat hc) (by simpa using hn)
      · rw [Bool.not_eq_true] at hc
        rwa [Text.trimEnd_concat_of_not_blank front hc]

end Lexed

/-- The characters of a template that is an expression with plain text in front. -/
def expressionChars (front cs : List Char) : List Char :=
  front ++ '\x7b' :: '\x7b' :: ' ' :: (cs ++ [' ', '\x7d', '\x7d'])

theorem expressionChars_eq_concat (front cs : List Char) : expressionChars front cs =
    (front ++ '\x7b' :: '\x7b' :: ' ' :: (cs ++ [' ', '\x7d'])) ++ ['\x7d'] := by
  simp [expressionChars]

variable (hinner : ∀ t ∈ ofExpression cs, t.isInner = true)

include hinner

theorem lexed_ofExpression : Lexed 0 cs (ofExpression cs) :=
  lexed_of_scan (Nat.lt_succ_self _) hinner

/-- Blanks around an expression are no part of it. -/
theorem ofExpression_trim : ofExpression (Text.trim (' ' :: (cs ++ [' ']))) = ofExpression cs := by
  have hlexed := lexed_ofExpression hinner
  have hlength := hlexed.length_le
  have hscan : scan (cs.length + 2) .inVariable 0 (cs ++ [' ']) = ofExpression cs := by
    obtain ⟨fuel, hfuel⟩ : ∃ n, cs.length + 2 = (ofExpression cs).length + n :=
      ⟨cs.length + 2 - (ofExpression cs).length, by omega⟩
    rw [hfuel, hlexed.scan_append rfl [], scan_of_space rfl, List.append_nil]
  have hbehind : Lexed 0 (cs ++ [' ']) (ofExpression cs) := by
    rw [← hscan] at hinner ⊢
    exact lexed_of_scan (by simp) hinner
  have hbetween : Lexed 0 (' ' :: (cs ++ [' '])) (ofExpression cs) := hbehind.congr rfl
  have htrim := hbetween.trimStart.trimEnd
  exact htrim.scan (Nat.le_succ_of_le htrim.length_le)

/-- Plain text and an expression behind it are read as tokens in order. -/
theorem ofTemplate_expression {s : String} {front : List Char}
    (hs : s.toList = expressionChars front cs) (hfront : '\x7b' ∉ front)
    (hclosed : (ofExpression cs).foldl depthAfter 0 = 0) :
    ofTemplate s = dataTokens front ++ .openVariable :: (ofExpression cs ++ [.closeVariable]) := by
  have hlexed := lexed_ofExpression hinner
  have hlength := hlexed.length_le
  have hwhole : withoutLineEnd s.toList = expressionChars front cs := by
    rw [hs, expressionChars_eq_concat]
    exact withoutLineEnd_concat (by decide) (by decide)
  obtain ⟨fuel, hfuel⟩ : ∃ n, 2 * (expressionChars front cs).length + 2 =
      (ofExpression cs).length + (n + 1) + 1 :=
    ⟨2 * (expressionChars front cs).length - (ofExpression cs).length, by
      simp [expressionChars]
      omega⟩
  have hspace : (' ' :: (cs ++ [' ', '\x7d', '\x7d'])).dropWhile isSpace =
      (cs ++ [' ', '\x7d', '\x7d']).dropWhile isSpace := rfl
  have hclose : scan (fuel + 1) .inVariable 0 [' ', '\x7d', '\x7d'] = [.closeVariable] := by
    cases fuel with
    | zero => rfl
    | succ fuel => rfl
  have hinside : scan ((ofExpression cs).length + (fuel + 1)) .inVariable 0
      (' ' :: (cs ++ [' ', '\x7d', '\x7d'])) = ofExpression cs ++ [.closeVariable] := by
    rw [scan_congr hspace, hlexed.scan_append rfl, hclosed, hclose]
  have hdash (more : List Char) : control (' ' :: more) = (false, ' ' :: more) := rfl
  rw [ofTemplate, hwhole, hfuel, expressionChars, scan]
  simp only [Bool.false_eq_true, if_false, beforeMarker_open hfront, hdash, hinside]

end Converge.Template.Token
