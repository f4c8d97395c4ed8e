import Converge.Proofs.Text.Splitting
import Converge.Tree.Path

/-!
# Dotted paths put together

A dot between two paths puts their segments one behind the other, and dots alone have no segments.
So a path behind a dot goes on from where the path before the dot leads, and it makes no difference
how many dots stand there or at the ends.

Main statement: `get?_joined`.
-/

namespace Converge.Tree

theorem segments_joined (p q : String) : segments (p ++ "." ++ q) = segments p ++ segments q := by
  have hchars : (p ++ "." ++ q).toList = p.toList ++ '.' :: q.toList := by simp
  have hsplit : Text.splitOn '.' (p.toList ++ '.' :: q.toList) =
      Text.splitOn '.' p.toList ++ Text.splitOn '.' q.toList := by
    simp only [Text.splitOn_eq]
    exact List.splitOnP_append_cons p.toList q.toList (beq_self_eq_true '.')
  rw [segments, hchars, hsplit, List.filter_append, List.map_append]
  rfl

/-- A text without dots is a segment of its own. -/
theorem segments_of_not_mem {key : String} (hdot : '.' ∉ key.toList) (hne : key ≠ "") :
    segments key = [key] := by
  have hsplit : Text.splitOn '.' key.toList = [key.toList] := by
    rw [Text.splitOn_eq]
    apply List.splitOnP_eq_singleton
    intro c hc
    exact beq_false_of_ne fun heq => hdot (heq ▸ hc)
  have hchars : key.toList ≠ [] := by simpa using hne
  rw [segments, hsplit]
  simp [hchars]

/-- So many dots. -/
def dots (n : Nat) : String := String.ofList (List.replicate n '.')

theorem segments_dots_append (n : Nat) (p : String) : segments (dots n ++ p) = segments p := by
  induction n with
  | zero => simp [dots]
  | succ n ih =>
    have hdot : dots (n + 1) ++ p = "" ++ "." ++ (dots n ++ p) := by
      apply String.toList_inj.mp
      simp [dots, List.replicate_succ]
    rw [hdot, segments_joined, ih]
    rfl

theorem segments_append_dots (p : String) (n : Nat) : segments (p ++ dots n) = segments p := by
  induction n with
  | zero => simp [dots]
  | succ n ih =>
    have hdot : p ++ dots (n + 1) = (p ++ dots n) ++ "." ++ "" := by
      apply String.toList_inj.mp
      simp [dots, List.replicate_succ']
    rw [hdot, segments_joined, ih]
    exact List.append_nil _

/-- Dots on both sides of a dot come to no more than the dot. -/
theorem segments_joined_dots (p q : String) (before behind : Nat) :
    segments (p ++ dots before ++ "." ++ dots behind ++ q) = segments (p ++ "." ++ q) := by
  have hgroup : p ++ dots before ++ "." ++ dots behind ++ q =
      (p ++ dots before) ++ "." ++ (dots behind ++ q) := String.append_assoc
  rw [hgroup, segments_joined, segments_append_dots, segments_dots_append, segments_joined]

/-- **Dotted paths compose.** Behind a dot a path goes on from the value that the path before the
dot leads to, and leads nowhere if there is none. Further dots beside a dot or at the ends count
nothing, and a path without dots is one step down. -/
theorem get?_joined (t : Tree) (p q : String) :
    t.get? (p ++ "." ++ q) = (t.get? p).bind (fun u => u.get? q) ∧
      (∀ before behind,
        t.get? (p ++ dots before ++ "." ++ dots behind ++ q) = t.get? (p ++ "." ++ q)) ∧
      (∀ before behind, t.get? (dots before ++ p ++ dots behind) = t.get? p) ∧
      ('.' ∉ p.toList → p ≠ "" → t.get? p = step? p t) := by
  refine ⟨?_, ?_, ?_, ?_⟩
  · rw [get?, segments_joined, walk?_append]
    rfl
  · intro before behind
    rw [get?, get?, segments_joined_dots]
  · intro before behind
    rw [get?, get?, segments_append_dots, segments_dots_append]
  · intro hdot hne
    rw [get?, segments_of_not_mem hdot hne]
    exact Option.bind_fun_some _

/-- A path through a map and a list, with and without dots that count nothing. -/
theorem get?_joined_mtu :
    let t : Tree := map [("ports", list [null, map [("mtu", int 1500)]])]
    t.get? "ports" = some (list [null, map [("mtu", int 1500)]]) ∧
      t.get? "ports.1.mtu" = some (int 1500) ∧ t.get? "ports...1.mtu" = some (int 1500) ∧
      t.get? "..ports." = t.get? "ports" := by
  intro t
  obtain ⟨hbelow, hbeside, hends, hstep⟩ := get?_joined t "ports" "1.mtu"
  have hports : t.get? "ports" = some (list [null, map [("mtu", int 1500)]]) :=
    hstep (by decide) (by decide)
  have hmtu : t.get? "ports.1.mtu" = some (int 1500) := by
    have hpath : "ports.1.mtu" = "ports" ++ "." ++ "1.mtu" := by decide
    rw [hpath, hbelow, hports]
    decide
  have hmany : "ports...1.mtu" = "ports" ++ dots 1 ++ "." ++ dots 1 ++ "1.mtu" := by decide
  have houter : "..ports." = dots 2 ++ "ports" ++ dots 1 := by decide
  refine ⟨hports, hmtu, ?_, ?_⟩
  · rw [hmany, hbeside]
    exact hmtu
  · rw [houter, hends]

end Converge.Tree
