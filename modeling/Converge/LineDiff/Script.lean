/-!
# Edit scripts

A script of runs of lines that turns one list of lines into another, with as few lines deleted and
inserted as possible. It is found by divide and conquer: the ends that agree are cut off, and the
rest is cut in two at a place through which a shortest script leads.
-/

namespace Converge.LineDiff

/-- What a run of lines is in a script. -/
inductive Kind where
  | equal
  | delete
  | insert
deriving DecidableEq

/-- Lines in a row that are kept, deleted or inserted. -/
structure Run where
  kind : Kind
  lines : List String

/-- The lines that two lists begin with alike, and what follows in each. -/
def splitCommon : (old new : List String) → List String × List String × List String
  | a :: as, b :: bs =>
    if a = b then
      let (common, restOld, restNew) := splitCommon as bs
      (a :: common, restOld, restNew)
    else ([], a :: as, b :: bs)
  | as, bs => ([], as, bs)

/-- The lines that two lists end with alike, and what precedes them in each. -/
def splitCommonEnd (old new : List String) : List String × List String × List String :=
  let (common, restOld, restNew) := splitCommon old.reverse new.reverse
  (common.reverse, restOld.reverse, restNew.reverse)

/-! ### The middle of a shortest script -/

/-- How far a search has come on each diagonal, the diagonals being counted from the left-most. -/
structure Frontier where
  offset : Nat
  reach : Array Nat

namespace Frontier

/-- A search that has not begun, for so many steps. -/
def start (steps : Nat) : Frontier := ⟨steps + 1, Array.replicate (2 * steps + 3) 0⟩

/-- How far the search has come on a diagonal. -/
def get (f : Frontier) (k : Int) : Nat := f.reach.getD (k + f.offset).toNat 0

/-- Writes how far the search has come on a diagonal. -/
def set (f : Frontier) (k : Int) (x : Nat) : Frontier :=
  { f with reach := f.reach.setIfInBounds (k + f.offset).toNat x }

/-- Where a step leads to on a diagonal: from the better of its neighbours. -/
def step (f : Frontier) (d k : Int) : Nat :=
  if k = -d || (k ≠ d && f.get (k - 1) < f.get (k + 1)) then f.get (k + 1) else f.get (k - 1) + 1

end Frontier

/-- The diagonals of one step, from right to left. -/
def diagonals (d : Nat) : List Int := (List.range (d + 1)).map fun (i : Nat) => (d : Int) - 2 * i

/-- How many lines agree from two places on. -/
def advance (old new : Array String) : (fuel x y : Nat) → Nat
  | 0, _, _ => 0
  | fuel + 1, x, y =>
    match old[x]?, new[y]? with
    | some a, some b => if a = b then advance old new fuel (x + 1) (y + 1) + 1 else 0
    | _, _ => 0

/-- One step of a search from the beginning, diagonal by diagonal, up to where it meets the search
that `other` tells about. -/
def searchRow (old new : Array String) (meets : Int → Bool) (other : Frontier) (delta : Int)
    (d : Nat) : List Int → Frontier → Sum (Nat × Nat × Nat) Frontier
  | [], f => .inr f
  | k :: ks, f =>
    let x := f.step d k
    let y := ((x : Int) - k).toNat
    let run := advance old new old.size x y
    let f := f.set k (x + run)
    if meets k && old.size ≤ x + run + other.get (delta - k) then .inl (x, y, run)
    else searchRow old new meets other delta d ks f

/-- The place where a search from the beginning and one from the end meet. -/
def meeting (old new : Array String) (delta : Int) : (tries d : Nat) →
    (forward backward : Frontier) → Option (Nat × Nat)
  | 0, _, _, _ => none
  | tries + 1, d, forward, backward =>
    let odd := delta % 2 ≠ 0
    let ahead (k : Int) : Bool := odd && (k - delta).natAbs + 1 ≤ d
    let behind (k : Int) : Bool := !odd && (k - delta).natAbs ≤ d
    match searchRow old new ahead backward delta d (diagonals d) forward with
    | .inl (x, y, _) => some (x, y)
    | .inr forward =>
      match searchRow old.reverse new.reverse behind forward delta d (diagonals d) backward with
      | .inl (x, y, run) => some (old.size - (x + run), new.size - (y + run))
      | .inr backward => meeting old new delta tries (d + 1) forward backward

/-- A place through which a shortest script leads. -/
def middle? (old new : List String) : Option (Nat × Nat) :=
  let steps := (old.length + new.length + 1) / 2 + 1
  let delta : Int := (old.length : Int) - new.length
  meeting old.toArray new.toArray delta steps 0 (.start steps) (.start steps)

/-! ### Scripts -/

/-- A run, unless it is empty. -/
def runOf (kind : Kind) (lines : List String) : List Run :=
  if lines.isEmpty then [] else [⟨kind, lines⟩]

/-- A script that turns old lines into new ones; `fuel` bounds how often the lines are cut. -/
def scriptFrom : (fuel : Nat) → (old new : List String) → List Run
  | 0, old, new => runOf .delete old ++ runOf .insert new
  | fuel + 1, old, new =>
    let (start, old, new) := splitCommon old new
    let (stop, old, new) := splitCommonEnd old new
    let inner :=
      if old.isEmpty || new.isEmpty then runOf .delete old ++ runOf .insert new
      else match middle? old new with
        | none => runOf .delete old ++ runOf .insert new
        | some (x, y) =>
          scriptFrom fuel (old.take x) (new.take y) ++ scriptFrom fuel (old.drop x) (new.drop y)
    runOf .equal start ++ inner ++ runOf .equal stop

/-- A script that turns old lines into new ones. -/
def script (old new : List String) : List Run := scriptFrom (old.length + new.length + 1) old new

end Converge.LineDiff
