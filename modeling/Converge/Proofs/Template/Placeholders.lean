import Converge.Placeholder
import Converge.Proofs.Template.Lexing

/-!
# The value of a placeholder

A text that is one expression between its markers stands for the value of the expression. Where the
expression holds the characters of a marker, as a map within a map does at its end, the text is not
taken for a single placeholder. Then it stands for what is printed, as an expression behind plain
text does.

Main statement: `Placeholder.evaluate_expression`.
-/

namespace Converge

namespace Template

open Token

/-- The statements of plain text. -/
def dataStmts (front : List Char) : List Stmt :=
  if front.isEmpty then [] else [.data (String.ofList front)]

theorem Grammar.stmtsAt_print {depth : Nat} {ts : List Token} {e : Expr} (stop : List String)
    (front : List Char)
    (h : exprAt (depth + 1) true (ts ++ [.closeVariable]) = .ok (e, [.closeVariable])) :
    stmtsAt (depth + 1) stop (dataTokens front ++ .openVariable :: (ts ++ [.closeVariable])) =
      .ok (dataStmts front ++ [.print e], []) := by
  have hend (expr : Reader Expr) (stmt : Reader Stmt) (fuel : Nat) :
      stmtsWith expr stmt stop fuel [] = .ok ([], []) := by
    cases fuel with
    | zero => rfl
    | succ fuel => rfl
  have hprint (stmt : Reader Stmt) (fuel : Nat) :
      stmtsWith (exprAt (depth + 1) true) stmt stop (fuel + 1)
        (.openVariable :: (ts ++ [.closeVariable])) = .ok ([.print e], []) := by
    rw [stmtsWith, h]
    simp only [bind, Except.bind, expectVariableEnd, hend]
    rfl
  rw [stmtsAt, dataTokens, dataStmts]
  split
  · exact hprint _ _
  · rw [List.singleton_append, List.length_cons, List.length_cons, stmtsWith, hprint]
    rfl

variable {s : String} {front cs : List Char} {e : Expr}

/-- Plain text and an expression behind it are read as what is written and what is printed. -/
theorem Stmt.readAll?_expression (hs : s.toList = expressionChars front cs)
    (hfront : '\x7b' ∉ front) (hread : Expr.read? cs = .ok e) :
    Stmt.readAll? s = .ok (dataStmts front ++ [.print e]) := by
  obtain ⟨hinner, hclosed, hends⟩ := Expr.of_read?_eq_ok hread
  have hexpr := hends [.closeVariable] (Or.inr ⟨[], rfl⟩)
  have hstmts : Grammar.stmtsAt nestingLimit [] (dataTokens front ++
      .openVariable :: (ofExpression cs ++ [.closeVariable])) =
        .ok (dataStmts front ++ [.print e], []) := Grammar.stmtsAt_print [] front hexpr
  rw [Stmt.readAll?, ofTemplate_expression hinner hs hfront hclosed, hstmts, dataStmts]
  split
  · rfl
  · rfl

/-! ### What is printed -/

namespace Evaluation

variable {context v : Value} {strict : Bool}

theorem exists_run_eval (h : e.value strict context = .ok v) :
    ∃ m, (eval (hooksAt Scope.depthLimit) (rootScope strict context []) e).run .initial =
      .ok (v, m) := by
  rw [Expr.value, run, StateT.run'_eq] at h
  rcases hrun : (eval (hooksAt Scope.depthLimit) (rootScope strict context []) e).run .initial
    with f | ⟨w, m⟩
  · rw [hrun] at h
    cases h
  · rw [hrun] at h
    cases h
    exact ⟨m, rfl⟩

/-- Plain text is written as it is, and a value behind it as its text. -/
theorem execAll_print (h : e.value strict context = .ok v) (hv : v.present strict = .ok v)
    (front : List Char) :
    ∃ m, (execAll (hooksAt Scope.depthLimit) ⟨rootScope strict context [], ""⟩
      (dataStmts front ++ [.print e])).run .initial =
        .ok (⟨rootScope strict context [], String.ofList front ++ v.printed⟩, m) := by
  obtain ⟨m, heval⟩ := exists_run_eval h
  have hwritten : (rootScope strict context []).written v = .ok v.printed := by
    simp [Scope.written, rootScope, hv, Except.map]
  have hprint (before : String) : (execAll (hooksAt Scope.depthLimit)
      ⟨rootScope strict context [], before⟩ [.print e]).run .initial =
        .ok (⟨rootScope strict context [], before ++ v.printed⟩, m) := by
    simp only [execAll, exec, bind_pure, StateT.run_bind, heval]
    simp [bind, Except.bind, Progress.emit, hwritten, Progress.write]
    rfl
  refine ⟨m, ?_⟩
  rw [dataStmts]
  split
  · rename_i hnone
    rw [List.isEmpty_iff.mp hnone]
    exact hprint ""
  · have hdata := hprint (String.ofList front)
    rw [List.singleton_append, execAll, exec, Progress.write, String.empty_append, pure_bind]
    exact hdata

end Evaluation

theorem Stmt.output_print {context v : Value} {strict : Bool}
    (h : e.value strict context = .ok v) (hv : v.present strict = .ok v) (front : List Char) :
    Stmt.output (dataStmts front ++ [.print e]) strict context =
      .ok (String.ofList front ++ v.printed) := by
  have hblocks : blocksIn (dataStmts front ++ [.print e]) = [] := by
    rw [dataStmts]
    split
    · rfl
    · rfl
  obtain ⟨m, hexec⟩ := Evaluation.execAll_print h hv front
  rw [StateT.run] at hexec
  simp only [Stmt.output, Evaluation.run, StateT.run', StateT.map, hblocks, hexec]
  rfl

end Template

namespace Placeholder

open Template

/-! ### Single placeholders -/

/-- Whether an expression holds the characters of a marker. -/
def holdsMarker (cs : List Char) : Bool :=
  hasMarkersIn cs || Text.contains ['\x7d', '\x7d'] cs

theorem hasMarkersIn_append {cs : List Char} (front : List Char) (h : hasMarkersIn cs = true) :
    hasMarkersIn (front ++ cs) = true := by
  induction front with
  | nil => exact h
  | cons c front ih =>
    rw [List.cons_append]
    unfold hasMarkersIn
    split
    · rfl
    · rfl
    · rfl
    · rename_i heq
      obtain ⟨-, rfl⟩ := List.cons.inj heq
      exact ih
    · rename_i heq
      cases heq

theorem hasMarkersIn_concat_space (cs : List Char) :
    hasMarkersIn (cs ++ [' ']) = hasMarkersIn cs := by
  fun_induction hasMarkersIn cs
  case case4 c rest hvariable hblock hcomment ih =>
    have hblank : Token.BlankFront [' '] := Token.blankFront_cons rfl []
    rw [List.cons_append, hasMarkersIn, ih]
    · exact fun more hc => hblank.append_ne rfl (fun rest => hvariable rest hc) more
    · exact fun more hc => hblank.append_ne rfl (fun rest => hblock rest hc) more
    · exact fun more hc => hblank.append_ne rfl (fun rest => hcomment rest hc) more
  all_goals rfl

theorem contains_concat_space (cs : List Char) :
    Text.contains ['\x7d', '\x7d'] (cs ++ [' ']) = Text.contains ['\x7d', '\x7d'] cs := by
  induction cs with
  | nil => rfl
  | cons c cs ih =>
    have hstart : Text.startsWith ['\x7d', '\x7d'] (c :: (cs ++ [' '])) =
        Text.startsWith ['\x7d', '\x7d'] (c :: cs) :=
      Token.startsWith_append rfl (Token.not_blank_of_all rfl) (c :: cs) []
    rw [List.cons_append, Text.contains, Text.contains, hstart, ih]

variable {s : String} {front cs : List Char}

theorem hasMarkers_expression (hs : s.toList = Token.expressionChars front cs) :
    hasMarkers s = true := by
  rw [hasMarkers, hs]
  exact hasMarkersIn_append front rfl

theorem trim_expressionChars (hstart : ∀ c ∈ front.head?, Text.isBlank c = false)
    (hs : s.toList = Token.expressionChars front cs) : Text.trim s.toList = s.toList := by
  rw [hs, Text.trim_eq_self_iff]
  refine ⟨?_, ?_⟩
  · rcases front with _ | ⟨c, front⟩
    · rfl
    · simp [Token.expressionChars, Text.trimStart, hstart c rfl]
  · rw [Token.expressionChars_eq_concat]
    exact Text.trimEnd_concat_of_not_blank _ rfl

/-- Only where an expression holds no marker is it taken from between its own. -/
theorem expression?_expression (hs : s.toList = Token.expressionChars [] cs) :
    expression? s = if holdsMarker cs then none else some (Text.trim (' ' :: (cs ++ [' ']))) := by
  have hafter : Text.after? ['\x7b', '\x7b'] s.toList =
      some ((' ' :: (cs ++ [' '])) ++ ['\x7d', '\x7d']) := by
    rw [hs, Text.after?_eq_some_iff]
    simp [Token.expressionChars]
  have hmarkers : hasMarkersIn (' ' :: (cs ++ [' '])) = hasMarkersIn cs :=
    hasMarkersIn_concat_space cs
  have hcontains : Text.contains ['\x7d', '\x7d'] (' ' :: (cs ++ [' '])) =
      Text.contains ['\x7d', '\x7d'] cs := contains_concat_space cs
  have hfront : Text.after? ['-'] (' ' :: (cs ++ [' '])) = none := rfl
  have hbehind : Text.before? ['-'] (' ' :: (cs ++ [' '])) = none :=
    Text.before?_concat_of_ne (by decide) (' ' :: cs)
  rw [expression?, trim_expressionChars (by simp) hs, hafter, Option.bind_some,
    Text.before?_append_self, Option.bind_some, hmarkers, hcontains]
  simp only [hfront, Option.getD_none, hbehind]
  rfl

theorem expression?_behind (hs : s.toList = Token.expressionChars front cs) (hne : front ≠ [])
    (hfront : '\x7b' ∉ front) (hstart : ∀ c ∈ front.head?, Text.isBlank c = false) :
    expression? s = none := by
  have hafter : Text.after? ['\x7b', '\x7b'] s.toList = none := by
    obtain ⟨c, more, rfl⟩ := List.exists_cons_of_ne_nil hne
    have hc : '\x7b' ≠ c := by
      rintro rfl
      exact hfront List.mem_cons_self
    simp [hs, Token.expressionChars, Text.after?, hc]
  rw [expression?, trim_expressionChars hstart hs, hafter]
  rfl

variable {e : Expr} {context v : Value} {strict : Bool}

/-- An expression without markers inside gives its value. -/
theorem value_expression (hs : s.toList = Token.expressionChars [] cs)
    (hmarker : holdsMarker cs = false) (hread : Expr.read? cs = .ok e) :
    value s strict context = e.value strict context := by
  obtain ⟨hinner, -⟩ := Expr.of_read?_eq_ok hread
  have hread' : Expr.read? (Text.trim (' ' :: (cs ++ [' ']))) = .ok e := by
    rw [Expr.read?, Token.ofExpression_trim hinner]
    exact hread
  rw [value, expression?_expression hs, hmarker]
  simp only [Bool.false_eq_true, if_false, hread', bind, Except.bind]

/-- A text that is no single placeholder gives what is printed. -/
theorem value_of_expression? (hs : s.toList = Token.expressionChars front cs)
    (hnone : expression? s = none) (hfront : '\x7b' ∉ front) (hread : Expr.read? cs = .ok e)
    (hvalue : e.value strict context = .ok v) (hv : v.present strict = .ok v) :
    value s strict context = .ok (.ofText (String.ofList front ++ v.printed)) := by
  rw [value, hnone]
  simp only [Stmt.readAll?_expression hs hfront hread, bind, Except.bind,
    Stmt.output_print hvalue hv front]
  rfl

/-- What is kept of a value of its own type: nothing of an undefined or empty one. -/
def kept : Value → Except Failure (Option Tree)
  | .undefined _ => .ok none
  | v => match v.toTree? with
    | some t => .ok (normalized t)
    | none => .error .conversion

/-- **A single expression keeps the type of its value**, unless it holds the characters of a marker:
then its value becomes the text that is printed. -/
theorem evaluate_expression {t : String} {e : Expr} {context : Tree} {v : Value}
    (hread : Expr.read? t.toList = .ok e)
    (hvalue : e.value false (Value.ofTree context) = .ok v) :
    evaluate ("\x7b\x7b " ++ t ++ " \x7d\x7d") context false =
      if holdsMarker t.toList then .ok (normalized (.text v.printed)) else kept v := by
  have hs : ("\x7b\x7b " ++ t ++ " \x7d\x7d").toList = Token.expressionChars [] t.toList := by
    simp [Token.expressionChars]
  have hpresent : v.present false = .ok v := by
    unfold Value.present
    split
    · rfl
    · rfl
  rw [evaluate, hasMarkers_expression hs]
  by_cases hmarker : holdsMarker t.toList = true
  · have hnone : expression? ("\x7b\x7b " ++ t ++ " \x7d\x7d") = none := by
      rw [expression?_expression hs, if_pos hmarker]
    rw [value_of_expression? hs hnone (List.not_mem_nil) hread hvalue hpresent, if_pos hmarker]
    simp [Value.ofText, Value.toTree?]
  · rw [Bool.not_eq_true] at hmarker
    rw [value_expression hs hmarker hread, hvalue, hmarker]
    cases v <;> rfl

/-- A list keeps its type. -/
theorem evaluate_expression_list :
    evaluate "\x7b\x7b [n, 'x'] \x7d\x7d" (.map [("n", .int 1)]) false =
      .ok (some (.list [.int 1, .text "x"])) := by
  have hread : Expr.read? "[n, 'x']".toList = .ok (.list [.variable "n", .text "x"]) := rfl
  obtain ⟨tag, hvalue⟩ : ∃ tag, (Expr.list [.variable "n", .text "x"]).value false
      (Value.ofTree (.map [("n", .int 1)])) = .ok (.list [.int 1, .ofText "x"] .sequence tag) :=
    ⟨_, rfl⟩
  have hmarker : ¬ holdsMarker "[n, 'x']".toList = true := by decide
  have hlist := evaluate_expression hread hvalue
  rw [if_neg hmarker] at hlist
  exact hlist

/-- A map within a map ends with two closing braces, so what it is printed as stands for it. -/
theorem evaluate_expression_nested :
    ∃ e v, Expr.read? "\x7b'a': \x7b'b': 1\x7d\x7d".toList = .ok e ∧
      e.value false (Value.ofTree (.map [])) = .ok v ∧
      v.toTree? = some (.map [("a", .map [("b", .int 1)])]) ∧
      evaluate "\x7b\x7b \x7b'a': \x7b'b': 1\x7d\x7d \x7d\x7d" (.map []) false =
        .ok (some (.text "\x7b\"a\": \x7b\"b\": 1\x7d\x7d")) := by
  have hread : Expr.read? "\x7b'a': \x7b'b': 1\x7d\x7d".toList =
      .ok (.map [(.text "a", .map [(.text "b", .int 1)])]) := rfl
  obtain ⟨tag, tag', hvalue⟩ : ∃ tag tag',
      (Expr.map [(.text "a", .map [(.text "b", .int 1)])]).value false (Value.ofTree (.map [])) =
        .ok (.map [(.ofText "a", .map [(.ofText "b", .int 1)] tag)] tag') := ⟨_, _, rfl⟩
  refine ⟨_, _, hread, hvalue, rfl, ?_⟩
  decide +kernel

end Placeholder

end Converge
