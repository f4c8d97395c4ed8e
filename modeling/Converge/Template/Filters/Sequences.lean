import Converge.Template.Tests

/-!
# Filters of sequences

Sorting, choosing, grouping and joining the items of sequences and the entries of maps.
-/

namespace Converge.Template.Value

open Arguments

/-! ### Order -/

/-- The order in which sequences are sorted: small and capital letters alike unless they count. -/
def sortOrder (caseCounts : Bool) (a b : Value) : Ordering :=
  match caseCounts, a, b with
  | false, text s _, text t _ =>
    textCompare (String.ofList (s.toList.map Numeral.lowerAscii))
      (String.ofList (t.toList.map Numeral.lowerAscii))
  | _, a, b => a.order b

/-- Puts an item behind those that it does not precede; `sorted` are the items so far, last
first. -/
def insertLast {α : Type} (compare : α → α → Ordering) (a : α) : List α → List α
  | [] => [a]
  | b :: rest => if compare a b == .lt then b :: insertLast compare a rest else a :: b :: rest

/-- The items in order; items that are alike keep their order. Few items are inserted one by one,
which shows where the order is not transitive. -/
def stableSort {α : Type} (compare : α → α → Ordering) (as : List α) : List α :=
  if as.length ≤ 20 then (as.foldl (fun sorted a => insertLast compare a sorted) []).reverse
  else as.mergeSort fun a b => compare a b != .gt

/-- The items in ascending or descending order; items that are alike keep their order. -/
def directedSort {α : Type} (back : Bool) (compare : α → α → Ordering) (as : List α) : List α :=
  stableSort (if back then fun a b => (compare a b).swap else compare) as

/-- What a value holds at a path, if nothing on the way is undefined. -/
def held? (v : Value) (dotted : String) : Option Value :=
  match v.path dotted with
  | .ok w => some w
  | .error _ => Option.none

/-- What a value holds at a path, or a substitute for what is not there. -/
def heldOr (substitute : Value) (dotted : String) (v : Value) : Value :=
  match v.held? dotted with
  | some w => if w.isUndefined then substitute else w
  | Option.none => substitute

/-- Order by what is held at paths, the first difference deciding. Items that have nothing on the
way to a path are alike there. -/
def pathOrder (caseCounts : Bool) (a b : Value) : List String → Ordering
  | [] => .eq
  | p :: rest =>
    let o := match a.held? p, b.held? p with
      | some v, some w => sortOrder caseCounts v w
      | _, _ => .eq
    if o == .eq then pathOrder caseCounts a b rest else o

/-- The paths of a text: separated by commas, with blanks around them. -/
def pathsOf (s : String) : List String :=
  (Text.splitOn ',' s.toList).map fun cs => String.ofList (Text.trim cs)

/-- The filter `sort`. -/
def sortFilter (strict : Bool) (v : Value) (args : List Value) : Except Fault Value := do
  let (args, byName) := split args
  let () ← finish args ()
  let vs ← match v.walk strict with
    | .ok vs => pure vs
    | .error _ => throw Fault.invalidOperation
  let caseCounts ← flag byName "case_sensitive"
  let dotted ← optionalExactText (byName? byName "attribute")
  let back ← flag byName "reverse"
  let compare := match dotted with
    | some s => fun a b => pathOrder caseCounts a b (pathsOf s)
    | Option.none => sortOrder caseCounts
  onlyNamed ["attribute", "case_sensitive", "reverse"] byName (seq (directedSort back compare vs))

/-- The first of the least items. -/
def least : List Value → Value
  | [] => undefined false
  | v :: rest => rest.foldl (fun m w => if w.order m == .lt then w else m) v

/-- The last of the greatest items. -/
def greatest : List Value → Value
  | [] => undefined false
  | v :: rest => rest.foldl (fun m w => if w.order m == .lt then m else w) v

/-! ### Ends -/

/-- The value with its items or characters in the opposite order. -/
def backwards : Value → Except Fault Value
  | undefined silent => .ok (undefined silent)
  | none => .ok none
  | text s safe => .ok (text (String.ofList s.toList.reverse) safe)
  | v => match v.parts? with
    | some vs => .ok (derived vs.reverse)
    | Option.none => .error .invalidOperation

/-- The first item, key or character. -/
def firstItem : Value → Except Fault Value
  | text s _ => .ok ((s.toList.head?.map fun c => ofText (String.singleton c)).getD (undefined false))
  | v => match v.parts? with
    | some vs => .ok (vs.head?.getD (undefined false))
    | Option.none => .error .invalidOperation

/-- The last item or character. -/
def lastItem : Value → Except Fault Value
  | text s _ =>
    .ok ((s.toList.getLast?.map fun c => ofText (String.singleton c)).getD (undefined false))
  | list vs _ _ => .ok (vs.getLast?.getD (undefined false))
  | _ => .error .invalidOperation

/-! ### Entries -/

/-- The entries of whatever has entries. -/
def pairs (v : Value) : Except Fault (List (Value × Value)) :=
  match v.entries? with
  | some es => .ok es
  | Option.none => .error .invalidOperation

/-- A pair as a sequence. -/
def ofPair (e : Value × Value) : Value := seq [e.1, e.2]

/-- The filter `dictsort`. -/
def dictsortFilter (v : Value) (args : List Value) : Except Fault Value := do
  let (args, byName) := split args
  let () ← finish args ()
  let es ← v.pairs
  let side ← optionalExactText (byName? byName "by")
  let caseCounts ← flag byName "case_sensitive"
  let back ← flag byName "reverse"
  let key (e : Value × Value) : Value := if side = some "value" then e.2 else e.1
  let sorted := directedSort back (fun a b => sortOrder caseCounts (key a) (key b)) es
  onlyNamed ["by", "case_sensitive", "reverse"] byName (seq (sorted.map ofPair))

/-! ### Choosing -/

/-- The first of the items that are alike, in order. -/
def distinct (caseCounts : Bool) (key : Value → Value) (seen : List Value) :
    List Value → List Value
  | [] => []
  | v :: rest =>
    let k := match caseCounts, key v with
      | false, text s _ => ofText (Text.lower s)
      | _, k => k
    if seen.any fun w => w.order k == .eq then distinct caseCounts key seen rest
    else v :: distinct caseCounts key (k :: seen) rest

/-- The filter `unique`. -/
def uniqueFilter (strict : Bool) (v : Value) (args : List Value) : Except Fault Value := do
  let (args, byName) := split args
  let () ← finish args ()
  let dotted ← optionalExactText (byName? byName "attribute")
  let caseCounts ← flag byName "case_sensitive"
  let () ← onlyNamed ["attribute", "case_sensitive"] byName ()
  let vs ← v.walk strict
  let key := match dotted with
    | some p => heldOr (undefined false) p
    | Option.none => id
  return seq (distinct caseCounts key [] vs)

/-- The items that pass, or with `invert` those that do not: by a test, or by being true. -/
def chosen (strict invert : Bool) (dotted : Option String) (test? : Option String)
    (args : List Value) (v : Value) : Except Fault Value := do
  match test? with
  | some name => if !isTest name then throw .unknownTest
  | Option.none => pure ()
  let vs ← v.walk strict
  let kept ← vs.filterMapM fun w => do
    let tested ← match dotted with
      | some p => w.path p
      | Option.none => pure w
    let passed ← match test? with
      | some name => test strict name tested args
      | Option.none => pure tested.isTrue
    return if passed != invert then some w else Option.none
  return seq kept

/-- The filters that choose items. -/
def chooseFilter (strict invert : Bool) (v : Value) (args : List Value) : Except Fault Value := do
  let name ← optionalText strict args.head?
  chosen strict invert Option.none name args.tail v

/-- The filters that choose items by what they hold at a path. -/
def chooseByFilter (strict invert : Bool) (v : Value) (args : List Value) :
    Except Fault Value := do
  let dotted ← textOf strict args.head?
  let name ← optionalText strict (args.drop 1).head?
  chosen strict invert (some dotted) name (args.drop 2) v

/-- What each item holds under a name or at a path, or a substitute for what is not there. -/
def attributes (strict : Bool) (key : Value) (substitute : Value) (v : Value) :
    Except Fault Value := do
  let vs ← v.walk strict
  let ws ← vs.mapM fun w =>
    let held := match key.asText? with
      | some p => w.path p
      | Option.none => w.item key
    match held with
    | .ok x => .ok (if x.isUndefined then substitute else x)
    | .error f => if substitute.isUndefined then .error f else .ok substitute
  return seq ws

/-! ### Grouping -/

/-- Items in rows of `size`; `fuel` is at least their count. -/
def rows (size : Nat) : (fuel : Nat) → List Value → List (List Value)
  | 0, _ => []
  | _, [] => []
  | fuel + 1, vs => vs.take size :: rows size fuel (vs.drop size)

/-- The filter `batch`: rows of some size, the last one filled up on request. -/
def batchFilter (strict : Bool) (v : Value) (args : List Value) : Except Fault Value := do
  let size ← count strict args.head?
  let filler := given? (args.drop 1).head?
  let () ← finish (args.drop 2) ()
  if size = 0 then throw .invalidOperation
  let vs ← v.walk strict
  let fill (row : List Value) : List Value := match filler with
    | some w => row ++ List.replicate (size - row.length) w
    | Option.none => row
  return seq ((rows size vs.length vs).map fun row => seq (fill row))

/-- The filter `slice`: so many columns of nearly one size, the shorter ones filled up on
request. -/
def sliceFilter (strict : Bool) (v : Value) (args : List Value) : Except Fault Value := do
  let columns ← count strict args.head?
  let filler := given? (args.drop 1).head?
  let () ← finish (args.drop 2) ()
  if columns = 0 then throw .invalidOperation
  let vs ← v.walk strict
  let size := vs.length / columns
  let longer := vs.length % columns
  return seq ((List.range columns).map fun i =>
    let column := (vs.drop (i * size + min i longer)).take (if i < longer then size + 1 else size)
    seq (match filler with
      | some w => if longer ≤ i then column ++ [w] else column
      | Option.none => column))

/-- The runs of items with like keys. A run is known by the key of its last item. -/
def groupRuns (caseCounts : Bool) : List (Value × Value) → List (Value × List Value)
  | [] => []
  | (k, v) :: rest =>
    match groupRuns caseCounts rest, rest with
    | (l, vs) :: more, (k', _) :: _ =>
      if sortOrder caseCounts k k' == .eq then (l, v :: vs) :: more else (k, [v]) :: (l, vs) :: more
    | more, _ => (k, [v]) :: more

/-- The filter `groupby`. -/
def groupbyFilter (v : Value) (args : List Value) : Except Fault Value := do
  let (places, byName) := split args
  let dotted ← optionalExactText places.head?
  let () ← finish places.tail ()
  let substitute := (given? (byName? byName "default")).getD (undefined false)
  let caseCounts ← flag byName "case_sensitive"
  let (dotted, known) ← match dotted with
    | some p => pure (p, ["default", "case_sensitive"])
    | Option.none => (exactText (byName? byName "attribute")).map fun p =>
      (p, ["default", "case_sensitive", "attribute"])
  let vs ← match v.items? with
    | some vs => pure vs
    | Option.none => throw Fault.invalidOperation
  let keyed := vs.map fun w => (heldOr substitute dotted w, w)
  let sorted := stableSort (fun a b => sortOrder caseCounts a.1 b.1) keyed
  onlyNamed known byName (seq ((groupRuns caseCounts sorted).map fun (k, ws) =>
    list [k, derived ws] .group 0))

/-! ### Joining -/

/-- The filter `chain`: maps become one map, in which later entries count; sequences become one. -/
def chainFilter (v : Value) (args : List Value) : Except Fault Value :=
  let all := v :: args
  if all.all fun w => w.kind = .map then
    .ok (ofEntries (all.flatMap fun w => (w.entries?).getD []))
  else
    match all.mapM items? with
    | some vss =>
      .ok (if all.all fun w => w.kind = .list then seq vss.flatten else derived vss.flatten)
    | Option.none => .error .invalidOperation

/-- The first items of sequences, the second ones, and so on while all have one. -/
def columnsOf (vss : List (List Value)) : List (List Value) :=
  let least := (vss.map List.length).min?.getD 0
  (List.range least).map fun i => vss.filterMap fun vs => vs[i]?

/-- The filter `zip`. -/
def zipFilter (strict : Bool) (v : Value) (args : List Value) : Except Fault Value := do
  let vss ← (v :: args).mapM (walk strict)
  return derived ((columnsOf vss).map seq)

end Converge.Template.Value
