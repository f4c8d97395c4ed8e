import Converge.LineDiff.Script

/-!
# Tidy scripts

Runs of one kind that could stand together are brought together. A deletion changes places with the
insertions next to it; an insertion also slides along kept lines that it agrees with. Each run is
moved up as far as it goes and then down as far as it goes.
-/

namespace Converge.LineDiff

/-- A place in a script: the runs before one of them, nearest first, that run, and those behind. -/
structure Cursor where
  before : List Run
  this : Run
  behind : List Run

/-- Runs with kept lines in front. -/
def keepInFront (lines : List String) : List Run → List Run
  | ⟨.equal, more⟩ :: rest => ⟨.equal, lines ++ more⟩ :: rest
  | runs => ⟨.equal, lines⟩ :: runs

/-- Runs, nearest first, with kept lines behind the nearest. -/
def keepBehind (lines : List String) : List Run → List Run
  | ⟨.equal, more⟩ :: rest => ⟨.equal, more ++ lines⟩ :: rest
  | runs => ⟨.equal, lines⟩ :: runs

/-- A run in front of others, unless it is empty. -/
def withRun (r : Run) (rest : List Run) : List Run := if r.lines.isEmpty then rest else r :: rest

/-- Moves a run up; `fuel` bounds the steps. -/
def moveUp : (fuel : Nat) → Cursor → Cursor
  | 0, c => c
  | fuel + 1, c =>
    match c.before with
    | [] => c
    | prev :: before =>
      match c.this.kind, prev.kind with
      | .insert, .equal =>
        let (common, restPrev, restThis) := splitCommonEnd prev.lines c.this.lines
        if !common.isEmpty then
          moveUp fuel ⟨withRun ⟨.equal, restPrev⟩ before, ⟨.insert, common ++ restThis⟩,
            keepInFront common c.behind⟩
        else if prev.lines.isEmpty then moveUp fuel { c with before := before }
        else c
      | _, .equal => if prev.lines.isEmpty then moveUp fuel { c with before := before } else c
      | this, other =>
        if this = other then
          moveUp fuel ⟨before, ⟨this, prev.lines ++ c.this.lines⟩, c.behind⟩
        else moveUp fuel ⟨before, c.this, prev :: c.behind⟩

/-- Moves a run down; `fuel` bounds the steps. -/
def moveDown : (fuel : Nat) → Cursor → Cursor
  | 0, c => c
  | fuel + 1, c =>
    match c.behind with
    | [] => c
    | next :: behind =>
      match c.this.kind, next.kind with
      | .insert, .equal =>
        let (common, restNext, restThis) := splitCommon next.lines c.this.lines
        if !common.isEmpty then
          moveDown fuel ⟨keepBehind common c.before, ⟨.insert, restThis ++ common⟩,
            withRun ⟨.equal, restNext⟩ behind⟩
        else if next.lines.isEmpty then moveDown fuel { c with behind := behind }
        else c
      | _, .equal => if next.lines.isEmpty then moveDown fuel { c with behind := behind } else c
      | this, other =>
        if this = other then
          moveDown fuel ⟨c.before, ⟨this, c.this.lines ++ next.lines⟩, behind⟩
        else moveDown fuel ⟨next :: c.before, c.this, behind⟩

/-- How many steps moves over some runs can take. -/
def steps (runs : List Run) : Nat := runs.foldl (fun n r => n + r.lines.length + 1) 0

/-- Moves all runs of a kind, first to last; `fuel` bounds their number. -/
def moveAll (kind : Kind) : (fuel : Nat) → (before behind : List Run) → List Run
  | 0, before, behind => before.reverse ++ behind
  | _, before, [] => before.reverse
  | fuel + 1, before, this :: behind =>
    if this.kind = kind then
      let c := moveUp (steps before + 1) ⟨before, this, behind⟩
      let c := moveDown (steps c.behind + 1) c
      moveAll kind fuel (c.this :: c.before) c.behind
    else moveAll kind fuel (this :: before) behind

/-- A script with all deletions moved, and then all insertions. -/
def tidy (runs : List Run) : List Run :=
  let fuel (runs : List Run) : Nat := 2 * steps runs + 1
  let runs := moveAll .delete (fuel runs) [] runs
  moveAll .insert (fuel runs) [] runs

end Converge.LineDiff
