import Converge.Proofs.Template.OperatorExtent

/-!
# How far an expression reaches

What stands between brackets, what follows an operand and the filters behind it are read up to a
symbol of their own. So an expression of any depth reads the same at the end of a text and where it
is printed.

Main statements: `Grammar.steady_exprAt`, `Expr.of_read?_eq_ok`.
-/

namespace Converge.Template

namespace Grammar

/-- Reads the bound of a slice behind its first colon, when there is one. -/
def sliceStop (expr : Reader Expr) (ts : List Token) : Except Fault (Expr × List Token) :=
  if atSymbol .bracketClose ts || atSymbol .colon ts then .ok (.none, ts) else expr ts

/-- Reads the step of a slice with the colon in front, when there is one. -/
def sliceStep (expr : Reader Expr) (ts : List Token) : Except Fault (Expr × List Token) :=
  if atSymbol .colon ts then
    if atSymbol .bracketClose ts.tail then .ok (.none, ts.tail) else expr ts.tail
  else .ok (.none, ts)

theorem sliceStep_colon (expr : Reader Expr) (ts : List Token) :
    sliceStep expr (.symbol .colon :: ts) =
      if atSymbol .bracketClose ts then .ok (.none, ts) else expr ts := rfl

theorem sliceTail_eq (expr : Reader Expr) (e start : Expr) (ts : List Token) :
    sliceTail expr e start ts = do
      let (stop, rest) ← sliceStop expr ts
      let (step, rest) ← sliceStep expr rest
      let rest ← expectSymbol .bracketClose rest
      return (.slice e start stop step, rest) := by
  have hstep (us : List Token) (f : Expr × List Token → Except Fault (Expr × List Token)) :
      sliceStep expr us >>= f = if atSymbol .colon us then
        if atSymbol .bracketClose us.tail then f (.none, us.tail) else expr us.tail >>= f
      else f (.none, us) := by
    unfold sliceStep
    split
    · split <;> rfl
    · rfl
  simp only [hstep, sliceStop]
  unfold sliceTail
  split <;> rfl

section

variable {more : List Token} (hmore : Ends more) {inner expr value : Reader Expr}
  (hinner : Steady more inner) (hexpr : Steady more expr) (hvalue : Steady more value)

/-- A symbol closes a bracket. -/
def Closes (s : Symbol) : Prop := ∀ d, Token.depthAfter (d + 1) (.symbol s) = d

omit hmore in
theorem Reads.closing {α : Type} {s : Symbol} {ts : List Token} (a : α) (hs : Closes s)
    (hts : atSymbol s ts = true) :
    Reads 1 ts more (.ok (a, ts.tail)) (.ok (a, (ts ++ more).tail)) := by
  obtain ⟨us, rfl⟩ := exists_of_atSymbol hts
  exact .cons (m := 0) rfl hs (.ok a us more)

include hmore hexpr

theorem reads_items {close : Symbol} (hclose : Closes close) {fuel fuel' : Nat} (h : fuel ≤ fuel')
    (ts : List Token) :
    Reads 1 ts more (items expr close fuel ts) (items expr close fuel' (ts ++ more)) := by
  induction fuel generalizing fuel' ts with
  | zero => exact .refuse ts
  | succ fuel ih =>
    obtain ⟨fuel', rfl⟩ : ∃ n, fuel' = n + 1 := ⟨fuel' - 1, by omega⟩
    simp only [items, hmore.atSymbol_append]
    split
    · exact .closing [] hclose ‹_›
    · refine .bind (hexpr ts) fun e rest _ => ?_
      simp only [hmore.atSymbol_append]
      split
      · exact .closing [e] hclose ‹_›
      · refine .expectSymbol (fun _ => rfl) fun rest _ => ?_
        refine .bindClosed (ih (by omega) rest) fun es rest _ => ?_
        exact .ok _ rest more

theorem reads_entries {fuel fuel' : Nat} (h : fuel ≤ fuel') (ts : List Token) :
    Reads 1 ts more (entries expr fuel ts) (entries expr fuel' (ts ++ more)) := by
  induction fuel generalizing fuel' ts with
  | zero => exact .refuse ts
  | succ fuel ih =>
    obtain ⟨fuel', rfl⟩ : ∃ n, fuel' = n + 1 := ⟨fuel' - 1, by omega⟩
    simp only [entries, hmore.atSymbol_append]
    split
    · exact .closing [] (fun _ => rfl) ‹_›
    · refine .bind (hexpr ts) fun k rest _ => ?_
      refine .expectSymbol (fun _ => rfl) fun rest _ => ?_
      refine .bind (hexpr rest) fun v rest _ => ?_
      simp only [hmore.atSymbol_append]
      split
      · exact .closing [(k, v)] (fun _ => rfl) ‹_›
      · refine .expectSymbol (fun _ => rfl) fun rest _ => ?_
        refine .bindClosed (ih (by omega) rest) fun es rest _ => ?_
        exact .ok _ rest more

include hvalue

theorem steady_argument (named : Bool) : Steady more (argument expr value named) := by
  intro ts
  by_cases hp : atSymbol .power ts = true
  · obtain ⟨us, rfl⟩ := exists_of_atSymbol hp
    exact .cons rfl (fun _ => rfl) (.bind (hexpr us) fun e rest _ => .ok _ rest more)
  by_cases ht : atSymbol .times ts = true
  · obtain ⟨us, rfl⟩ := exists_of_atSymbol ht
    exact .cons rfl (fun _ => rfl) (.bind (hexpr us) fun e rest _ => .ok _ rest more)
  rw [Bool.not_eq_true] at hp ht
  have hp' := (hmore.atSymbol_append ts .power).trans hp
  have ht' := (hmore.atSymbol_append ts .times).trans ht
  rw [argument, argument]
  · refine .bind (hexpr ts) fun e rest _ => ?_
    dsimp only
    split
    · simp only [hmore.atSymbol_append]
      split
      · obtain ⟨us, rfl⟩ := exists_of_atSymbol ‹_›
        exact .cons rfl (fun _ => rfl) (.bind (hvalue us) fun v rest _ => .ok _ rest more)
      · split
        · exact .error _
        · exact .ok _ rest more
    · split
      · exact .error _
      · exact .ok _ rest more
  · exact ne_cons_of_atSymbol hp'
  · exact ne_cons_of_atSymbol ht'
  · exact ne_cons_of_atSymbol hp
  · exact ne_cons_of_atSymbol ht

theorem reads_arguments {fuel fuel' : Nat} (h : fuel ≤ fuel') (named : Bool) (ts : List Token) :
    Reads 1 ts more (arguments expr value fuel named ts)
      (arguments expr value fuel' named (ts ++ more)) := by
  induction fuel generalizing fuel' named ts with
  | zero => exact .refuse ts
  | succ fuel ih =>
    obtain ⟨fuel', rfl⟩ : ∃ n, fuel' = n + 1 := ⟨fuel' - 1, by omega⟩
    simp only [arguments, hmore.atSymbol_append]
    split
    · exact .closing [] (fun _ => rfl) ‹_›
    · refine .bind (steady_argument hmore hexpr hvalue named ts) fun a rest _ => ?_
      simp only [hmore.atSymbol_append]
      split
      · exact .closing [a] (fun _ => rfl) ‹_›
      · refine .expectSymbol (fun _ => rfl) fun rest _ => ?_
        refine .bindClosed (ih (by omega) _ rest) fun args rest _ => ?_
        exact .ok _ rest more

theorem steady_optionalArguments : Steady more (optionalArguments expr value) := by
  intro ts
  by_cases hopen : atSymbol .parenOpen ts = true
  · obtain ⟨us, rfl⟩ := exists_of_atSymbol hopen
    refine .cons rfl (m := 1) (fun _ => rfl) ?_
    exact reads_arguments hmore hexpr hvalue (by simp) false us
  · rw [Bool.not_eq_true] at hopen
    have hopen' := (hmore.atSymbol_append ts .parenOpen).trans hopen
    rw [optionalArguments, optionalArguments]
    · exact .ok [] ts more
    · exact ne_cons_of_atSymbol hopen'
    · exact ne_cons_of_atSymbol hopen

omit hvalue in
theorem reads_parenthesized (ts : List Token) :
    Reads 1 ts more (parenthesized expr ts) (parenthesized expr (ts ++ more)) := by
  simp only [parenthesized, hmore.atSymbol_append]
  split
  · exact .closing (Expr.list []) (fun _ => rfl) ‹_›
  · refine .bind (hexpr ts) fun e rest _ => ?_
    simp only [hmore.atSymbol_append]
    split
    · obtain ⟨us, rfl⟩ := exists_of_atSymbol ‹_›
      refine .cons (m := 1) rfl (fun _ => rfl) ?_
      refine .bindClosed (reads_items hmore hexpr (fun _ => rfl) (by simp) us) ?_
      exact fun es rest _ => .ok _ rest more
    · refine .expectSymbol (m := 0) (fun _ => rfl) fun rest _ => ?_
      exact .ok e rest more

omit hexpr hvalue in
theorem adjacentTexts_append (acc : String) (ts : List Token) :
    Consumes 0 ts (adjacentTexts acc ts).2 ∧ adjacentTexts acc (ts ++ more) =
      ((adjacentTexts acc ts).1, (adjacentTexts acc ts).2 ++ more) := by
  induction ts generalizing acc with
  | nil =>
    refine ⟨.refl [], ?_⟩
    rcases hmore with rfl | ⟨rest, rfl⟩
    · rfl
    · rfl
  | cons t ts ih =>
    cases t with
    | text s =>
      obtain ⟨hconsumes, happend⟩ := ih (acc ++ s)
      exact ⟨.plain ⟨rfl, fun _ => rfl⟩ hconsumes, happend⟩
    | _ => exact ⟨.refl _, rfl⟩

omit hvalue in
theorem steady_primary : Steady more (primary expr) := by
  intro ts
  rcases ts with _ | ⟨t, us⟩
  · exact .refuse []
  cases t with
  | name n => exact .plain (isPlain_name n) (.ok _ us more)
  | int n => exact .plain ⟨rfl, fun _ => rfl⟩ (.ok _ us more)
  | float x => exact .plain ⟨rfl, fun _ => rfl⟩ (.ok _ us more)
  | text s =>
    obtain ⟨hconsumes, happend⟩ := adjacentTexts_append hmore s us
    simp only [List.cons_append, primary, happend]
    exact .plain ⟨rfl, fun _ => rfl⟩ (.skip hconsumes (.ok _ _ more))
  | symbol s =>
    cases s with
    | parenOpen => exact .cons rfl (fun _ => rfl) (reads_parenthesized hmore hexpr us)
    | bracketOpen =>
      refine .cons rfl (m := 1) (fun _ => rfl) ?_
      refine .bindClosed (reads_items hmore hexpr (fun _ => rfl) (by simp) us) ?_
      exact fun es rest _ => .ok _ rest more
    | braceOpen =>
      refine .cons rfl (m := 1) (fun _ => rfl) ?_
      refine .bindClosed (reads_entries hmore hexpr (by simp) us) ?_
      exact fun es rest _ => .ok _ rest more
    | _ =>
      simp only [primary]
      exact .refuse _
  | _ =>
    simp only [primary]
    exact .refuse _

omit hvalue in
theorem steady_sliceStop : Steady more (sliceStop expr) := by
  intro ts
  simp only [sliceStop, hmore.atSymbol_append]
  split
  · exact .ok Expr.none ts more
  · exact hexpr ts

omit hvalue in
theorem steady_sliceStep : Steady more (sliceStep expr) := by
  intro ts
  by_cases hcolon : atSymbol .colon ts = true
  · obtain ⟨us, rfl⟩ := exists_of_atSymbol hcolon
    refine .cons rfl (m := 0) (fun _ => rfl) ?_
    rw [sliceStep_colon, List.cons_append, sliceStep_colon, hmore.atSymbol_append]
    split
    · exact .ok Expr.none us more
    · exact hexpr us
  · simp only [sliceStep, hmore.atSymbol_append, hcolon]
    exact .ok Expr.none ts more

omit hvalue in
theorem reads_sliceTail (e start : Expr) (ts : List Token) :
    Reads 1 ts more (sliceTail expr e start ts) (sliceTail expr e start (ts ++ more)) := by
  rw [sliceTail_eq, sliceTail_eq]
  refine .bind (steady_sliceStop hmore hexpr ts) fun stop rest _ => ?_
  refine .bind (steady_sliceStep hmore hexpr rest) fun step rest _ => ?_
  refine .expectSymbol (m := 0) (fun _ => rfl) fun rest _ => ?_
  exact .ok _ rest more

omit hvalue in
theorem reads_subscript (e : Expr) (ts : List Token) :
    Reads 1 ts more (subscript expr e ts) (subscript expr e (ts ++ more)) := by
  simp only [subscript, hmore.atSymbol_append]
  split
  · obtain ⟨us, rfl⟩ := exists_of_atSymbol ‹_›
    exact .cons rfl (fun _ => rfl) (reads_sliceTail hmore hexpr e .none us)
  · refine .bind (hexpr ts) fun key rest _ => ?_
    simp only [hmore.atSymbol_append]
    split
    · obtain ⟨us, rfl⟩ := exists_of_atSymbol ‹_›
      exact .cons rfl (fun _ => rfl) (reads_sliceTail hmore hexpr e key us)
    · refine .expectSymbol (m := 0) (fun _ => rfl) fun rest _ => ?_
      exact .ok _ rest more

omit hmore hexpr hvalue in
theorem postfixes_of_not_begins {ts : List Token} (h : beginsPostfix ts = false) (fuel : Nat)
    (e : Expr) : postfixes expr value fuel e ts = .ok (e, ts) := by
  simp only [beginsPostfix, Bool.or_eq_false_iff] at h
  obtain ⟨⟨hdot, hindex⟩, hcall⟩ := h
  rw [postfixes]
  · exact ne_cons_of_atSymbol hdot
  · exact fun _ n rest _ => ne_cons_of_atSymbol hdot (.name n :: rest)
  · exact fun _ n rest _ => ne_cons_of_atSymbol hdot (.int n :: rest)
  · exact fun _ rest _ => ne_cons_of_atSymbol hindex rest
  · exact fun _ rest _ => ne_cons_of_atSymbol hcall rest

theorem reads_postfixes {fuel fuel' : Nat} (e : Expr) {ts : List Token} (h : ts.length ≤ fuel)
    (h' : ts.length ≤ fuel') :
    Reads 0 ts more (postfixes expr value fuel e ts)
      (postfixes expr value fuel' e (ts ++ more)) := by
  induction fuel generalizing fuel' e ts with
  | zero =>
    obtain rfl := List.length_eq_zero_iff.mp (Nat.le_zero.mp h)
    rw [postfixes_of_not_begins rfl, postfixes_of_not_begins (hmore.beginsPostfix_append [])]
    exact .ok e [] more
  | succ fuel ih =>
    by_cases hbegins : beginsPostfix ts = true
    · rcases ts with _ | ⟨t, us⟩
      · cases hbegins
      obtain ⟨fuel', rfl⟩ : ∃ n, fuel' = n + 1 := ⟨fuel' - 1, by simp at h'; omega⟩
      rw [List.length_cons, Nat.add_le_add_iff_right] at h h'
      simp only [beginsPostfix, Bool.or_eq_true] at hbegins
      obtain (hdot | hindex) | hcall := hbegins
      · obtain ⟨_, heq⟩ := exists_of_atSymbol hdot
        obtain ⟨rfl, rfl⟩ := List.cons.inj heq
        refine .cons rfl (m := 0) (fun _ => rfl) ?_
        rcases us with _ | ⟨t, us⟩
        · exact .refuse []
        rw [List.length_cons] at h h'
        cases t with
        | name n => exact .plain (isPlain_name n) (ih _ (by omega) (by omega))
        | int n => exact .plain ⟨rfl, fun _ => rfl⟩ (ih _ (by omega) (by omega))
        | _ =>
          simp only [postfixes]
          exact .refuse _
      · obtain ⟨_, heq⟩ := exists_of_atSymbol hindex
        obtain ⟨rfl, rfl⟩ := List.cons.inj heq
        refine .cons rfl (m := 1) (fun _ => rfl) ?_
        refine .bindClosed (reads_subscript hmore hexpr e us) fun e rest hle => ?_
        exact ih e (by omega) (by omega)
      · obtain ⟨_, heq⟩ := exists_of_atSymbol hcall
        obtain ⟨rfl, rfl⟩ := List.cons.inj heq
        refine .cons rfl (m := 1) (fun _ => rfl) ?_
        refine .bindClosed (reads_arguments hmore hexpr hvalue (by simp) false us) ?_
        exact fun args rest hle => ih _ (by omega) (by omega)
    · rw [Bool.not_eq_true] at hbegins
      have hbegins' := (hmore.beginsPostfix_append ts).trans hbegins
      rw [postfixes_of_not_begins hbegins, postfixes_of_not_begins hbegins']
      exact .ok e ts more

include hinner

theorem steady_operand : Steady more (operand inner expr value) := by
  intro ts
  refine .bind (steady_negations hmore (steady_primary hmore hinner) ts) fun e rest _ => ?_
  simp only [hmore.beginsPostfix_append]
  split
  · exact reads_postfixes hmore hexpr hvalue e (Nat.le_refl _) (by simp)
  · exact .ok e rest more

omit hinner hexpr hvalue in
theorem steady_dottedName : Steady more dottedName := by
  intro ts
  induction ts using dottedName.induct with
  | case1 n rest ih =>
    refine .plain (isPlain_name n) (.cons rfl (m := 0) (fun _ => rfl) ?_)
    exact .bind ih fun name rest _ => .ok _ rest more
  | case2 ts hdotted =>
    rcases ts with _ | ⟨t, us⟩
    · exact .refuse []
    cases t with
    | name n =>
      have hdot : atSymbol .dot us = false := by
        rw [← Bool.not_eq_true]
        intro hdot
        obtain ⟨vs, rfl⟩ := exists_of_atSymbol hdot
        exact hdotted n vs rfl
      have hdot' := (hmore.atSymbol_append us .dot).trans hdot
      have hname (vs : List Token) (h : atSymbol .dot vs = false) :
          dottedName (.name n :: vs) = .ok (n, vs) := by
        rw [dottedName]
        · rfl
        · rintro m rest ⟨⟩
          cases h
      rw [List.cons_append, hname us hdot, hname _ hdot']
      exact .plain (isPlain_name n) (.ok n us more)
    | _ =>
      simp only [dottedName, expectName]
      exact .refuse _

theorem steady_testArguments : Steady more (testArguments inner expr value) := by
  intro ts
  simp only [testArguments, hmore.atSymbol_append, hmore.beginsArgument_append]
  split
  · exact steady_optionalArguments hmore hexpr hvalue ts
  · split
    · refine .bind (steady_operand hmore hinner hexpr hvalue ts) fun e rest _ => ?_
      exact .ok _ rest more
    · exact .ok [] ts more

omit hmore hinner hexpr hvalue in
theorem filters_of_not_begins {ts : List Token} (hpipe : atSymbol .pipe ts = false)
    (his : atWord "is" ts = false) (fuel : Nat) (e : Expr) :
    filters inner expr value fuel e ts = .ok (e, ts) := by
  rw [filters]
  · exact fun _ rest _ => ne_cons_of_atSymbol hpipe rest
  · exact fun _ rest _ => ne_cons_of_atWord his rest

theorem reads_filters {fuel fuel' : Nat} (e : Expr) {ts : List Token} (h : ts.length ≤ fuel)
    (h' : ts.length ≤ fuel') :
    Reads 0 ts more (filters inner expr value fuel e ts)
      (filters inner expr value fuel' e (ts ++ more)) := by
  have hnil (n n' : Nat) (e : Expr) : Reads 0 [] more (filters inner expr value n e [])
      (filters inner expr value n' e more) := by
    rw [filters_of_not_begins rfl rfl,
      filters_of_not_begins (hmore.atSymbol .pipe) (hmore.atWord "is")]
    exact .ok e [] more
  induction fuel generalizing fuel' e ts with
  | zero =>
    obtain rfl := List.length_eq_zero_iff.mp (Nat.le_zero.mp h)
    exact hnil 0 fuel' e
  | succ fuel ih =>
    rcases ts with _ | ⟨t, us⟩
    · exact hnil (fuel + 1) fuel' e
    obtain ⟨fuel', rfl⟩ : ∃ n, fuel' = n + 1 := ⟨fuel' - 1, by simp at h'; omega⟩
    rw [List.length_cons, Nat.add_le_add_iff_right] at h h'
    by_cases hpipe : atSymbol .pipe (t :: us) = true
    · obtain ⟨_, heq⟩ := exists_of_atSymbol hpipe
      obtain ⟨rfl, rfl⟩ := List.cons.inj heq
      refine .cons rfl (m := 0) (fun _ => rfl) ?_
      refine .bind (steady_dottedName hmore us) fun name rest hle => ?_
      refine .bind (steady_optionalArguments hmore hexpr hvalue rest) fun args rest hle' => ?_
      exact ih _ (by omega) (by omega)
    by_cases his : atWord "is" (t :: us) = true
    · obtain ⟨_, heq⟩ := exists_of_atWord his
      obtain ⟨rfl, rfl⟩ := List.cons.inj heq
      refine .plain (isPlain_name "is") ?_
      have htest : ∀ (wrap : Expr → Expr) (vs : List Token), vs.length ≤ us.length →
          Reads 0 vs more
            (dottedName vs >>= fun p => testArguments inner expr value p.2 >>= fun q =>
              filters inner expr value fuel (wrap (.test p.1 e q.1)) q.2)
            (dottedName (vs ++ more) >>= fun p => testArguments inner expr value p.2 >>= fun q =>
              filters inner expr value fuel' (wrap (.test p.1 e q.1)) q.2) := by
        intro wrap vs hvs
        refine .bind (steady_dottedName hmore vs) fun name rest hle => ?_
        refine .bind (steady_testArguments hmore hinner hexpr hvalue rest) fun args rest hle' => ?_
        exact ih _ (by omega) (by omega)
      by_cases hnot : atWord "not" us = true
      · obtain ⟨vs, rfl⟩ := exists_of_atWord hnot
        exact .plain (isPlain_name "not") (htest (.unary .invert) vs (by simp))
      · have hnot' := hmore.atWord_append us "not"
        simp only [List.cons_append, filters, hnot', hnot]
        exact htest id us (Nat.le_refl _)
    · rw [Bool.not_eq_true] at hpipe his
      have hpipe' := (hmore.atSymbol_append (t :: us) .pipe).trans hpipe
      have his' := (hmore.atWord_append (t :: us) "is").trans his
      rw [filters_of_not_begins hpipe his, filters_of_not_begins hpipe' his']
      exact .ok e (t :: us) more

theorem steady_filtered : Steady more (filtered inner expr value) := by
  intro ts
  refine .bind (steady_operand hmore hinner hexpr hvalue ts) fun e rest _ => ?_
  simp only [hmore.atSymbol_append, hmore.atWord_append]
  split
  · exact reads_filters hmore hinner hexpr hvalue e (Nat.le_refl _) (by simp)
  · exact .ok e rest more

theorem steady_disjunction : Steady more (disjunction inner expr value) := by
  obtain ⟨hpower, hproduct, hconcat, hsum, -, hand, hor⟩ := signs_of_levels
  have hfiltered := steady_filtered hmore hinner hexpr hvalue
  have hpowers := steady_level hmore hfiltered hpower
  have hproducts := steady_level hmore hpowers hproduct
  have hconcats := steady_level hmore hproducts hconcat
  have hsums := steady_level hmore hconcats hsum
  have hcomparisons := steady_inversions hmore (steady_comparisons hmore hsums)
  have hands := steady_level hmore hcomparisons hand
  exact steady_level hmore hands hor

end

/-- **What ends an expression does not change how it is read.** -/
theorem steady_exprAt {more : List Token} (hmore : Ends more) (depth : Nat) (conditions : Bool) :
    Steady more (exprAt depth conditions) := by
  have hrefuse := steady_refuse (α := Expr) more
  induction depth using Nat.strongRecOn generalizing conditions with
  | _ depth ih =>
    match depth with
    | 0 => exact hrefuse
    | 1 =>
      cases conditions with
      | true => exact hrefuse
      | false => exact steady_disjunction hmore hrefuse hrefuse hrefuse
    | depth + 2 =>
      have hexpr := ih (depth + 1) (by omega) true
      have hvalue := ih (depth + 1) (by omega) false
      cases conditions with
      | true =>
        have hinner := ih depth (by omega) true
        exact steady_conditional hmore (steady_disjunction hmore hinner hexpr hvalue)
      | false => exact steady_disjunction hmore hexpr hexpr hvalue

end Grammar

/-- The tokens of an expression stand inside it and close their brackets, and they read the same
where it is printed. -/
theorem Expr.of_read?_eq_ok {cs : List Char} {e : Expr} (h : Expr.read? cs = .ok e) :
    (∀ t ∈ Token.ofExpression cs, t.isInner = true) ∧
      (Token.ofExpression cs).foldl Token.depthAfter 0 = 0 ∧
      ∀ more, Grammar.Ends more →
        Grammar.exprAt nestingLimit true (Token.ofExpression cs ++ more) = .ok (e, more) := by
  have hread : Grammar.exprAt nestingLimit true (Token.ofExpression cs) = .ok (e, []) := by
    unfold Expr.read? at h
    rcases hexpr : Grammar.exprAt nestingLimit true (Token.ofExpression cs) with f | ⟨e', rest⟩
    · rw [hexpr] at h
      cases h
    · simp only [hexpr, bind, Except.bind] at h
      split at h
      · rename_i hrest
        cases h
        rw [List.isEmpty_iff.mp hrest]
      · obtain ⟨f, hf⟩ := Grammar.refuse_eq_error (α := Expr) rest
        rw [hf] at h
        cases h
  obtain ⟨⟨used, hused, hinner, hdepth⟩, -⟩ :=
    Grammar.steady_exprAt (Or.inl rfl) nestingLimit true _ e [] hread
  rw [List.append_nil] at hused
  refine ⟨?_, ?_, ?_⟩
  · rw [hused]
    exact hinner
  · rw [hused]
    exact hdepth 0
  · intro more hmore
    exact (Grammar.steady_exprAt hmore nestingLimit true _ e [] hread).2

end Converge.Template
