import Converge.LineDiff.Tidy

/-!
# Differences between texts

What is deleted from a text and inserted into it, line by line. Between kept lines the deleted ones
come before the inserted ones.
-/

namespace Converge.LineDiff

/-- The lines of a text with their line ends: a line feed, a carriage return, or both. -/
def endedLines : List Char → List (List Char)
  | [] => []
  | '\r' :: '\n' :: rest => ['\r', '\n'] :: endedLines rest
  | c :: rest =>
    if c = '\n' || c = '\r' then [c] :: endedLines rest
    else match endedLines rest with
      | [] => [[c]]
      | line :: more => (c :: line) :: more

/-- Changed lines, deleted ones first. -/
def marked (deleted inserted : List String) : List (Kind × String) :=
  deleted.map (fun l => (.delete, l)) ++ inserted.map fun l => (.insert, l)

/-- The changed lines of a script: deleted ones before inserted ones up to the next kept line. -/
def changes : (deleted inserted : List String) → List Run → List (Kind × String)
  | deleted, inserted, [] => marked deleted inserted
  | deleted, inserted, r :: rest =>
    match r.kind with
    | .delete => changes (deleted ++ r.lines) inserted rest
    | .insert => changes deleted (inserted ++ r.lines) rest
    | .equal => marked deleted inserted ++ changes [] [] rest

/-- The changed lines between two texts. -/
def between (before after : String) : List (Kind × String) :=
  let linesOf (s : String) : List String := (endedLines s.toList).map String.ofList
  changes [] [] (tidy (script (linesOf before) (linesOf after)))

/-- The mark of a changed line. -/
def mark : Kind → String
  | .delete => "- "
  | .insert => "+ "
  | .equal => "  "

/-- A line with a line end. -/
def ended (line : String) : String :=
  match line.toList.getLast? with
  | some c => if c = '\n' || c = '\r' then line else line ++ "\n"
  | none => "\n"

/-- The report of the differences between two texts, each changed line indented and marked. -/
def report (before after : String) : String :=
  match between before after with
  | [] => "    (no changes)\n"
  | cs => String.join (cs.map fun (kind, line) => "    " ++ mark kind ++ ended line)

end Converge.LineDiff
