import Converge.Proofs.Template.Reads

/-!
# How far operators reach

A level of operators, the comparisons in a row, the signs in front of an operand and a condition
behind it end where no sign or word follows that continues them. So they are steady when their
operands are.
-/

namespace Converge.Template.Grammar

theorem comparisonSign?_cons {t : Token} (ht : t ≠ .name "not") (ts : List Token) :
    comparisonSign? (t :: ts) = .ok ((comparisonOp t).map fun op => (op, ts)) := by
  rw [comparisonSign?]
  exact ht

theorem comparisonSign?_append {ts rest : List Token} {op : BinaryOp}
    (h : comparisonSign? ts = .ok (some (op, rest))) (more : List Token) :
    Consumes 0 ts rest ∧ rest.length < ts.length ∧
      comparisonSign? (ts ++ more) = .ok (some (op, rest ++ more)) := by
  rcases ts with _ | ⟨t, us⟩
  · cases h
  · by_cases ht : t = .name "not"
    · rw [ht, comparisonSign?] at h
      rcases hin : expectWord "in" us with f | vs
      · rw [hin] at h
        cases h
      · rw [hin] at h
        cases h
        obtain rfl := expectWord_eq_ok hin
        rw [ht]
        have hwords : Consumes 0 (.name "not" :: .name "in" :: rest) rest :=
          .plain (isPlain_name _) (.plain (isPlain_name _) (.refl rest))
        exact ⟨hwords, Nat.lt_succ_of_lt (Nat.lt_succ_self _), rfl⟩
    · rw [comparisonSign?_cons ht] at h
      rcases hop : comparisonOp t with _ | o
      · simp [hop] at h
      · simp only [hop, Option.map_some, Except.ok.injEq, Option.some.injEq, Prod.mk.injEq] at h
        obtain ⟨rfl, rfl⟩ := h
        obtain ⟨-, -, -, -, hsigns, -⟩ := signs_of_levels
        refine ⟨.plain (hsigns t o hop) (.refl us), by simp, ?_⟩
        rw [List.cons_append, comparisonSign?_cons ht, hop]
        rfl

theorem Ends.comparisonSign?_append {more : List Token} (hmore : Ends more) {ts : List Token}
    (h : Grammar.comparisonSign? ts = .ok none) :
    Grammar.comparisonSign? (ts ++ more) = .ok none := by
  rcases ts with _ | ⟨t, us⟩
  · exact hmore.comparisonSign?
  · by_cases ht : t = .name "not"
    · rw [ht, Grammar.comparisonSign?] at h
      rcases hin : expectWord "in" us with f | vs
      · rw [hin] at h
        cases h
      · rw [hin] at h
        cases h
    · rw [comparisonSign?_cons ht] at h
      rcases hop : comparisonOp t with _ | o
      · rw [List.cons_append, comparisonSign?_cons ht, hop]
        rfl
      · simp [hop] at h

section

variable {more : List Token} (hmore : Ends more) {operand : Reader Expr}

include hmore

theorem chain_of_ends {op : Token → Option BinaryOp} (hop : Signs op) (fuel : Nat)
    (left : Expr) : chain operand op fuel left more = .ok (left, more) := by
  cases fuel with
  | zero => rfl
  | succ fuel => rcases hmore with rfl | ⟨rest, rfl⟩ <;> simp [chain, hop.closeVariable]

variable (hoperand : Steady more operand)

include hoperand

theorem reads_chain {op : Token → Option BinaryOp} (hop : Signs op) {fuel fuel' : Nat}
    (left : Expr) {ts : List Token} (h : ts.length ≤ fuel) (h' : ts.length ≤ fuel') :
    Reads 0 ts more (chain operand op fuel left ts) (chain operand op fuel' left (ts ++ more)) := by
  induction fuel generalizing fuel' left ts with
  | zero =>
    obtain rfl := List.length_eq_zero_iff.mp (Nat.le_zero.mp h)
    rw [List.nil_append, chain_of_ends hmore hop]
    exact .ok left [] more
  | succ fuel ih =>
    rcases ts with _ | ⟨t, ts⟩
    · rw [List.nil_append, chain_of_ends hmore hop]
      exact .ok left [] more
    · obtain ⟨fuel', rfl⟩ : ∃ n, fuel' = n + 1 := ⟨fuel' - 1, by simp at h'; omega⟩
      rw [List.length_cons, Nat.add_le_add_iff_right] at h h'
      simp only [List.cons_append, chain]
      rcases hopt : op t with _ | o
      · exact .ok left (t :: ts) more
      · refine .plain (hop t o hopt) (.bind (hoperand ts) fun right rest hle => ?_)
        exact ih _ (Nat.le_trans hle h) (Nat.le_trans hle h')

theorem steady_level {op : Token → Option BinaryOp} (hop : Signs op) :
    Steady more (level op operand) := by
  intro ts
  refine .bind (hoperand ts) fun left rest _ => ?_
  simp only [hmore.head?_bind_append rest hop]
  split
  · exact reads_chain hmore hoperand hop left (Nat.le_refl _) (by simp)
  · exact .ok left rest more

/-- A reader that takes any number of signs in front of an operand is steady. -/
theorem steady_of_signs {reader : Reader Expr} {sign : Token} {wrap : Expr → Expr}
    (hsign : sign.IsPlain)
    (htake : ∀ ts, reader (sign :: ts) = do
      let (e, rest) ← reader ts
      .ok (wrap e, rest))
    (hskip : ∀ ts, (∀ rest, ts ≠ sign :: rest) → reader ts = operand ts) : Steady more reader := by
  have hend : ∀ rest, more ≠ sign :: rest := by
    rintro rest rfl
    rcases hmore with h | ⟨_, h⟩
    · cases h
    · obtain ⟨rfl, -⟩ := List.cons.inj h
      exact absurd hsign.inner nofun
  intro ts
  induction ts with
  | nil =>
    rw [List.nil_append, hskip [] nofun, hskip more hend]
    exact hoperand []
  | cons t ts ih =>
    by_cases ht : t = sign
    · rw [ht, List.cons_append, htake, htake]
      exact .plain hsign (.bind ih fun e rest _ => .ok _ rest more)
    · have hne (us : List Token) : ∀ rest, t :: us ≠ sign :: rest :=
        fun rest h => ht (List.cons.inj h).1
      rw [List.cons_append, hskip _ (hne ts), hskip _ (hne _)]
      exact hoperand (t :: ts)

theorem steady_inversions : Steady more (inversions operand) := by
  refine steady_of_signs hmore hoperand (isPlain_name "not") (fun ts => rfl) ?_
  intro ts hts
  rw [inversions]
  exact hts

theorem steady_negations : Steady more (negations operand) := by
  have hminus : (Token.symbol .minus).IsPlain := ⟨rfl, fun _ => rfl⟩
  refine steady_of_signs hmore hoperand hminus (fun ts => rfl) ?_
  intro ts hts
  rw [negations]
  exact hts

omit hoperand in
theorem comparisonTail_of_ends (fuel : Nat) :
    comparisonTail operand fuel more = .ok ([], more) := by
  cases fuel with
  | zero => rfl
  | succ fuel =>
    rw [comparisonTail, hmore.comparisonSign?]
    rfl

theorem reads_comparisonTail {fuel fuel' : Nat} {ts : List Token} (h : ts.length ≤ fuel)
    (h' : ts.length ≤ fuel') :
    Reads 0 ts more (comparisonTail operand fuel ts)
      (comparisonTail operand fuel' (ts ++ more)) := by
  have hnil (n n' : Nat) : Reads 0 [] more (comparisonTail operand n [])
      (comparisonTail operand n' more) := by
    rw [comparisonTail_of_ends (Or.inl rfl), comparisonTail_of_ends hmore]
    exact .ok [] [] more
  induction fuel generalizing fuel' ts with
  | zero =>
    obtain rfl := List.length_eq_zero_iff.mp (Nat.le_zero.mp h)
    exact hnil 0 fuel'
  | succ fuel ih =>
    rcases ts with _ | ⟨t, us⟩
    · exact hnil (fuel + 1) fuel'
    obtain ⟨fuel', rfl⟩ : ∃ n, fuel' = n + 1 := ⟨fuel' - 1, by simp at h'; omega⟩
    simp only [comparisonTail]
    rcases hsign : comparisonSign? (t :: us) with f | _ | ⟨op, rest⟩
    · exact .error f
    · rw [hmore.comparisonSign?_append hsign]
      exact .ok [] (t :: us) more
    · obtain ⟨hconsumes, hlt, hsign'⟩ := comparisonSign?_append hsign more
      rw [hsign']
      refine .skip hconsumes (.bind (hoperand rest) fun right rest hle => ?_)
      refine .bind (ih (by omega) (by omega)) fun tail rest _ => ?_
      exact .ok _ rest more

theorem steady_comparisons : Steady more (comparisons operand) := by
  intro ts
  refine .bind (hoperand ts) fun left rest _ => ?_
  dsimp only
  rcases hsign : comparisonSign? rest with f | _ | ⟨op, rest'⟩
  · exact .error f
  · rw [hmore.comparisonSign?_append hsign]
    exact .ok left rest more
  · obtain ⟨-, -, hsign'⟩ := comparisonSign?_append hsign more
    rw [hsign']
    refine .bind (reads_comparisonTail hmore hoperand (Nat.le_refl _) (by simp)) ?_
    exact fun tail rest _ => .ok _ rest more

omit hmore hoperand in
theorem conditionalTail_of_not_if {ts : List Token} (h : atWord "if" ts = false) (fuel : Nat)
    (e : Expr) : conditionalTail operand fuel e ts = .ok (e, ts) := by
  unfold conditionalTail
  split
  · cases h
  · rfl

theorem reads_conditionalTail {fuel fuel' : Nat} (e : Expr) {ts : List Token}
    (h : ts.length ≤ fuel) (h' : ts.length ≤ fuel') :
    Reads 0 ts more (conditionalTail operand fuel e ts)
      (conditionalTail operand fuel' e (ts ++ more)) := by
  induction fuel generalizing fuel' e ts with
  | zero =>
    obtain rfl := List.length_eq_zero_iff.mp (Nat.le_zero.mp h)
    rw [List.nil_append, conditionalTail_of_not_if rfl,
      conditionalTail_of_not_if (hmore.atWord "if")]
    exact .ok e [] more
  | succ fuel ih =>
    by_cases hif : atWord "if" ts = true
    · obtain ⟨us, rfl⟩ := exists_of_atWord hif
      obtain ⟨fuel', rfl⟩ : ∃ n, fuel' = n + 1 := ⟨fuel' - 1, by simp at h'; omega⟩
      rw [List.length_cons, Nat.add_le_add_iff_right] at h h'
      refine .plain (isPlain_name "if") (.bind (hoperand us) fun test rest hle => ?_)
      dsimp only
      by_cases helse : atWord "else" rest = true
      · obtain ⟨vs, rfl⟩ := exists_of_atWord helse
        rw [List.length_cons] at hle
        refine .plain (isPlain_name "else") (.bind (hoperand vs) fun no rest hle' => ?_)
        refine .bind (ih no (by omega) (by omega)) fun no rest hle'' => ?_
        exact ih _ (by omega) (by omega)
      · have helse' := hmore.atWord_append rest "else"
        split
        · exact absurd rfl helse
        · split
          · rename_i heq
            rw [heq] at helse'
            exact absurd helse'.symm helse
          · exact ih _ (by omega) (by omega)
    · rw [Bool.not_eq_true] at hif
      rw [conditionalTail_of_not_if hif,
        conditionalTail_of_not_if ((hmore.atWord_append ts "if").trans hif)]
      exact .ok e ts more

theorem steady_conditional : Steady more (conditional operand) := by
  intro ts
  refine .bind (hoperand ts) fun e rest _ => ?_
  simp only [hmore.atWord_append]
  split
  · exact reads_conditionalTail hmore hoperand e (Nat.le_refl _) (by simp)
  · exact .ok e rest more

end

end Converge.Template.Grammar
