import Converge.Proofs.Template.Reading

/-!
# Reading in front of more

A reader takes tokens from the front of a sequence. What it takes from an expression are names,
constants and symbols, and it counts the brackets that they close. A reader is steady when it takes
the same and gives the same where the end of an expression follows.
-/

namespace Converge.Template

/-- Whether a token can stand inside an expression. -/
def Token.isInner : Token → Bool
  | .name _ | .text _ | .int _ | .float _ | .symbol _ => true
  | _ => false

/-- A token inside an expression that is no bracket. -/
structure Token.IsPlain (t : Token) : Prop where
  inner : t.isInner = true
  depth : ∀ d, Token.depthAfter d t = d

namespace Grammar

/-- The tokens of `ts` before `rest` stand inside an expression, and they close `closes` brackets
more than they open. -/
def Consumes (closes : Nat) (ts rest : List Token) : Prop :=
  ∃ used, ts = used ++ rest ∧ (∀ t ∈ used, t.isInner = true) ∧
    ∀ depth, used.foldl Token.depthAfter (depth + closes) = depth

namespace Consumes

variable {ts mid rest : List Token} {t : Token} {closes m : Nat}

theorem refl (ts : List Token) : Consumes 0 ts ts := ⟨[], rfl, nofun, fun _ => rfl⟩

theorem trans (h : Consumes closes ts mid) (h' : Consumes m mid rest) :
    Consumes (closes + m) ts rest := by
  obtain ⟨used, rfl, hinner, hdepth⟩ := h
  obtain ⟨more, rfl, hinner', hdepth'⟩ := h'
  refine ⟨used ++ more, by simp, ?_, ?_⟩
  · intro t ht
    rcases List.mem_append.mp ht with ht | ht
    · exact hinner t ht
    · exact hinner' t ht
  · intro depth
    rw [List.foldl_append, Nat.add_comm closes, ← Nat.add_assoc, hdepth, hdepth']

theorem cons (ht : t.isInner = true) (hdepth : ∀ d, Token.depthAfter (d + closes) t = d + m)
    (h : Consumes m ts rest) : Consumes closes (t :: ts) rest := by
  obtain ⟨used, rfl, hinner, hused⟩ := h
  refine ⟨t :: used, rfl, ?_, ?_⟩
  · intro u hu
    rcases List.mem_cons.mp hu with rfl | hu
    · exact ht
    · exact hinner u hu
  · intro d
    rw [List.foldl_cons, hdepth, hused]

theorem plain (ht : t.IsPlain) (h : Consumes closes ts rest) : Consumes closes (t :: ts) rest :=
  cons ht.inner (fun d => ht.depth (d + closes)) h

theorem length_le (h : Consumes closes ts rest) : rest.length ≤ ts.length := by
  obtain ⟨used, rfl, -⟩ := h
  simp

end Consumes

theorem refuse_eq_error {α : Type} (ts : List Token) :
    ∃ f, (refuse ts : Except Fault α) = .error f := by
  unfold refuse
  split
  · exact ⟨_, rfl⟩
  · exact ⟨_, rfl⟩

theorem expectSymbol_eq_error {s : Symbol} {t : Token} (ts : List Token) (h : t ≠ .symbol s) :
    ∃ f, expectSymbol s (t :: ts) = .error f := by
  unfold expectSymbol
  split
  · rename_i heq
    obtain ⟨rfl, -⟩ := List.cons.inj heq
    refine ⟨.syntaxError, if_neg ?_⟩
    rintro rfl
    exact h rfl
  · exact refuse_eq_error _

/-- What `x` reads from `ts` stands inside an expression, and `y` reads it as well where `more`
follows. -/
def Reads {α : Type} (closes : Nat) (ts more : List Token) (x y : Except Fault (α × List Token)) :
    Prop :=
  ∀ a rest, x = .ok (a, rest) → Consumes closes ts rest ∧ y = .ok (a, rest ++ more)

namespace Reads

variable {α β : Type} {ts more rest : List Token} {t : Token} {closes m : Nat}
  {x y : Except Fault (α × List Token)}

theorem ok (a : α) (ts more : List Token) :
    Reads 0 ts more (.ok (a, ts)) (.ok (a, ts ++ more)) := by
  rintro b rest ⟨⟩
  exact ⟨.refl ts, rfl⟩

theorem error (f : Fault) : Reads closes ts more (.error f) y := nofun

theorem cons (ht : t.isInner = true) (hdepth : ∀ d, Token.depthAfter (d + closes) t = d + m)
    (h : Reads m ts more x y) : Reads closes (t :: ts) more x y := by
  intro a rest hx
  obtain ⟨hconsumes, hy⟩ := h a rest hx
  exact ⟨hconsumes.cons ht hdepth, hy⟩

theorem plain (ht : t.IsPlain) (h : Reads closes ts more x y) : Reads closes (t :: ts) more x y :=
  cons ht.inner (fun d => ht.depth (d + closes)) h

/-- Tokens in front are taken. -/
theorem skip {mid : List Token} (h : Consumes 0 ts mid) (hmid : Reads closes mid more x y) :
    Reads closes ts more x y := by
  intro a rest hx
  obtain ⟨hconsumes, hy⟩ := hmid a rest hx
  refine ⟨?_, hy⟩
  simpa using h.trans hconsumes

variable {f g : α × List Token → Except Fault (β × List Token)}

theorem bind_add {k n : Nat} (h : Reads k ts more x y)
    (hf : ∀ a rest, rest.length ≤ ts.length → Reads n rest more (f (a, rest))
      (g (a, rest ++ more))) : Reads (k + n) ts more (x >>= f) (y >>= g) := by
  intro b rest hb
  rcases hx : x with e | ⟨a, mid⟩
  · rw [hx] at hb
    cases hb
  · rw [hx] at hb
    obtain ⟨hfirst, hy⟩ := h a mid hx
    obtain ⟨hsecond, hg⟩ := hf a mid hfirst.length_le b rest hb
    refine ⟨hfirst.trans hsecond, ?_⟩
    rw [hy]
    exact hg

/-- Two parts are read, of which the first closes the brackets that it opens. -/
theorem bind (h : Reads 0 ts more x y)
    (hf : ∀ a rest, rest.length ≤ ts.length → Reads closes rest more (f (a, rest))
      (g (a, rest ++ more))) : Reads closes ts more (x >>= f) (y >>= g) := by
  simpa using h.bind_add hf

/-- Two parts are read, of which the second closes the brackets that it opens. -/
theorem bindClosed (h : Reads closes ts more x y)
    (hf : ∀ a rest, rest.length ≤ ts.length → Reads 0 rest more (f (a, rest))
      (g (a, rest ++ more))) : Reads closes ts more (x >>= f) (y >>= g) := h.bind_add hf

theorem refuse (us : List Token) : Reads closes ts more (Grammar.refuse us) y := by
  obtain ⟨f, hf⟩ : ∃ f, (Grammar.refuse us : Except Fault (α × List Token)) = .error f :=
    refuse_eq_error us
  rw [hf]
  exact error f

/-- A symbol is required, and what follows it is read. -/
theorem expectSymbol {s : Symbol} {p q : List Token → Except Fault (α × List Token)}
    (hdepth : ∀ d, Token.depthAfter (d + closes) (.symbol s) = d + m)
    (h : ∀ rest, rest.length < ts.length → Reads m rest more (p rest) (q (rest ++ more))) :
    Reads closes ts more (Grammar.expectSymbol s ts >>= p)
      (Grammar.expectSymbol s (ts ++ more) >>= q) := by
  rcases ts with _ | ⟨t, rest⟩
  · exact error _
  · by_cases ht : t = .symbol s
    · subst ht
      have hs (us : List Token) : Grammar.expectSymbol s (.symbol s :: us) = .ok us := by
        simp [Grammar.expectSymbol]
      rw [List.cons_append, hs, hs]
      exact cons rfl hdepth (h rest (Nat.lt_succ_self _))
    · obtain ⟨f, hf⟩ := expectSymbol_eq_error rest ht
      rw [hf]
      exact error f

end Reads

/-! ### What stands in front -/

/-- The signs of operators are no brackets. -/
def Signs (op : Token → Option BinaryOp) : Prop := ∀ t o, op t = some o → t.IsPlain

theorem Signs.closeVariable {op : Token → Option BinaryOp} (h : Signs op) :
    op .closeVariable = none := by
  rcases ho : op .closeVariable with _ | o
  · rfl
  · exact absurd (h _ o ho).inner nofun

theorem exists_of_atSymbol {s : Symbol} {ts : List Token} (h : atSymbol s ts = true) :
    ∃ rest, ts = .symbol s :: rest := by
  unfold atSymbol at h
  split at h
  · rename_i t rest
    obtain rfl : s = t := by simpa using h
    exact ⟨rest, rfl⟩
  · cases h

theorem exists_of_atWord {w : String} {ts : List Token} (h : atWord w ts = true) :
    ∃ rest, ts = .name w :: rest := by
  unfold atWord at h
  split at h
  · rename_i n rest
    obtain rfl : n = w := by simpa using h
    exact ⟨rest, rfl⟩
  · cases h

theorem ne_cons_of_atSymbol {s : Symbol} {ts : List Token} (h : atSymbol s ts = false)
    (rest : List Token) : ts ≠ .symbol s :: rest := by
  rintro rfl
  simp [atSymbol] at h

theorem ne_cons_of_atWord {w : String} {ts : List Token} (h : atWord w ts = false)
    (rest : List Token) : ts ≠ .name w :: rest := by
  rintro rfl
  simp [atWord] at h

theorem signs_of_levels : Signs powerOp ∧ Signs productOp ∧ Signs concatOp ∧ Signs sumOp ∧
    Signs comparisonOp ∧ Signs andOp ∧ Signs orOp := by
  refine ⟨?_, ?_, ?_, ?_, ?_, ?_, ?_⟩
  all_goals
    intro t o h
    simp only [powerOp, productOp, concatOp, sumOp, comparisonOp, andOp, orOp] at h
    split at h
    all_goals first
      | exact ⟨rfl, fun _ => rfl⟩
      | cases h

theorem expectWord_eq_ok {w : String} {ts rest : List Token} (h : expectWord w ts = .ok rest) :
    ts = .name w :: rest := by
  unfold expectWord at h
  split at h
  · split at h
    · rename_i hw
      cases h
      rw [hw]
    · cases h
  · obtain ⟨f, hf⟩ := refuse_eq_error (α := List Token) ts
    rw [hf] at h
    cases h

theorem isPlain_name (n : String) : (Token.name n).IsPlain := ⟨rfl, fun _ => rfl⟩

section

variable {more : List Token} (hmore : Ends more) (ts : List Token)

include hmore

theorem Ends.atSymbol_append (s : Symbol) :
    Grammar.atSymbol s (ts ++ more) = Grammar.atSymbol s ts := by
  cases ts with
  | nil => exact hmore.atSymbol s
  | cons t ts => cases t <;> rfl

theorem Ends.atWord_append (w : String) : Grammar.atWord w (ts ++ more) = Grammar.atWord w ts := by
  cases ts with
  | nil => exact hmore.atWord w
  | cons t ts => cases t <;> rfl

theorem Ends.head?_bind_append {op : Token → Option BinaryOp} (hop : Signs op) :
    (ts ++ more).head?.bind op = ts.head?.bind op := by
  cases ts with
  | nil => exact hmore.head?_bind hop.closeVariable
  | cons t ts => rfl

theorem Ends.beginsPostfix_append : beginsPostfix (ts ++ more) = beginsPostfix ts := by
  simp only [beginsPostfix, hmore.atSymbol_append]

theorem Ends.beginsArgument_append : beginsArgument (ts ++ more) = beginsArgument ts := by
  cases ts with
  | nil => rcases hmore with rfl | ⟨rest, rfl⟩ <;> rfl
  | cons t ts => cases t <;> rfl

end

/-- A reader that takes the same tokens and gives the same term where `more` follows. -/
def Steady {α : Type} (more : List Token) (reader : Reader α) : Prop :=
  ∀ ts, Reads 0 ts more (reader ts) (reader (ts ++ more))

theorem steady_refuse {α : Type} (more : List Token) : Steady more (refuse : Reader α) :=
  fun ts => Reads.refuse ts

end Grammar

end Converge.Template
