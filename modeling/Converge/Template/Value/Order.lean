import Converge.Template.Value

/-!
# Equality and order of values

Numbers compare by value across integers, floats and truth values where that is exact. Values of
different kinds are ordered by kind.
-/

namespace Converge.Template

/-- A pair of numbers or texts brought to one type. -/
inductive Operands where
  | ints (a b : Int)
  | floats (a b : Binary64)
  | texts (a b : String)

namespace Value

/-- The integer of a truth value or an integer of 128 bits. -/
def whole? : Value → Option Int
  | bool b => some (if b then 1 else 0)
  | int i => if fits128 i then some i else Option.none
  | _ => Option.none

/-- The greatest integers of 64 and 128 bits: each counts as the float just above it. -/
def greatestWords : List Int :=
  [18446744073709551615, 170141183460469231731687303715884105727,
    340282366920938463463374607431768211455]

/-- The float of a number or truth value; unless `lossy`, an integer must be one exactly. -/
def asFloat? (lossy : Bool) : Value → Option Binary64
  | bool b => some (.ofInt (if b then 1 else 0))
  | int i =>
    let x := Binary64.ofInt i
    if lossy || x.toInt? == some i || greatestWords.contains i then some x else Option.none
  | float x => some x
  | _ => Option.none

/-- The number with a sign that has the same 128 bits. -/
def wrapped128 (i : Int) : Int := Int.bmod i 340282366920938463463374607431768211456

/-- The two integers of two values. Beyond the 64 bits without a sign, two numerals of 128 bits
stand for the numbers with a sign that have their bits. -/
def wholes? : Value → Value → Option (Int × Int)
  | int i, int j =>
    if Numeral.uint64Max < i && Numeral.uint64Max < j then some (wrapped128 i, wrapped128 j)
    else if fits128 i && fits128 j then some (i, j) else Option.none
  | a, b => a.whole?.bind fun i => b.whole?.map (i, ·)

/-- Brings two values to one type. -/
def operands? (lossy : Bool) : Value → Value → Option Operands
  | text a _, text b _ => some (.texts a b)
  | float a, b => (b.asFloat? lossy).map (.floats a)
  | a, float b => (a.asFloat? lossy).map (.floats · b)
  | a, b => (wholes? a b).map fun (i, j) => .ints i j

/-- Equality of values that have no parts. -/
def leafEq (a b : Value) : Bool :=
  match operands? false a b with
  | some (.ints i j) => i == j
  | some (.floats x y) => x.numEq y
  | some (.texts s t) => s == t
  | Option.none =>
    match a, b with
    | undefined _, undefined _ => true
    | none, none => true
    | builtin f, builtin g => f == g
    | routine f _ _ _, routine g _ _ _ =>
      f.name == g.name && f.params.map (·.name) == g.params.map (·.name) &&
        f.usesCaller == g.usesCaller
    | loop i _ _ _, loop j _ _ _ => i == j
    | _, _ => false

/-- Order of texts by their characters. -/
def textCompare (s t : String) : Ordering := if s < t then .lt else if s = t then .eq else .gt

/-- Order of values of one kind that have no parts. -/
def leafCompare (a b : Value) : Ordering :=
  match operands? true a b with
  | some (.ints i j) => compare i j
  | some (.floats x y) => compare x.orderKey y.orderKey
  | some (.texts s t) => textCompare s t
  | Option.none =>
    match a, b with
    | builtin f, builtin g => textCompare f g
    | _, _ => .eq

mutual

/-- Order of values: by kind, then by content. -/
def order : Value → Value → Ordering
  | list as shape tag, b =>
    match compare (list as shape tag).kind.rank b.kind.rank with
    | .eq =>
      match b with
      | list bs _ _ => orderItems as bs
      | _ => .eq
    | o => o
  | map es _, b =>
    match b.entries? with
    | some fs => orderEntries es fs
    | Option.none => compare (Kind.rank .map) b.kind.rank
  | named es, b =>
    match b.entries? with
    | some fs => orderEntries es fs
    | Option.none => compare (Kind.rank .map) b.kind.rank
  | a, b =>
    match compare a.kind.rank b.kind.rank with
    | .eq => leafCompare a b
    | o => o

/-- Order of items, the first difference deciding. -/
def orderItems : List Value → List Value → Ordering
  | [], [] => .eq
  | [], _ :: _ => .lt
  | _ :: _, [] => .gt
  | a :: as, b :: bs =>
    match order a b with
    | .eq => orderItems as bs
    | o => o

/-- Order of entries, the first difference deciding. -/
def orderEntries : List (Value × Value) → List (Value × Value) → Ordering
  | [], [] => .eq
  | [], _ :: _ => .lt
  | _ :: _, [] => .gt
  | (k, v) :: es, (l, w) :: fs =>
    match order k l with
    | .eq =>
      match order v w with
      | .eq => orderEntries es fs
      | o => o
    | o => o

end

/-- The value under a key of entries. -/
def lookup? (key : Value) : List (Value × Value) → Option Value
  | [] => Option.none
  | (k, v) :: rest => if order k key == .eq then some v else lookup? key rest

mutual

/-- Equality of values; the order of entries in maps does not count. -/
def eq : Value → Value → Bool
  | list as _ _, b =>
    match b with
    | list bs _ _ => eqItems as bs
    | _ => false
  | map es _, b =>
    match b.entries? with
    | some fs => es.length == fs.length && eqEntries es fs
    | Option.none => false
  | named es, b =>
    match b.entries? with
    | some fs => es.length == fs.length && eqEntries es fs
    | Option.none => false
  | record _ fields, b =>
    match b.entries? with
    | some fs => fields.length == fs.length && eqFields fields fs
    | Option.none => false
  | a, b => leafEq a b

/-- Item by item equality. -/
def eqItems : List Value → List Value → Bool
  | [], [] => true
  | a :: as, b :: bs => eq a b && eqItems as bs
  | _, _ => false

/-- Whether each entry has an equal one under its key. -/
def eqEntries : List (Value × Value) → List (Value × Value) → Bool
  | [], _ => true
  | (k, v) :: rest, fs =>
    (match lookup? k fs with
      | some w => eq v w
      | Option.none => false) && eqEntries rest fs

/-- Whether each field has an equal entry under its name. -/
def eqFields : List (String × Value) → List (Value × Value) → Bool
  | [], _ => true
  | (k, v) :: rest, fs =>
    (match lookup? (ofText k) fs with
      | some w => eq v w
      | Option.none => false) && eqFields rest fs

end

/-- Whether two values are the same object, or equal values of one kind that are no objects. -/
def same (a b : Value) : Bool :=
  match a, b with
  | list _ _ s, list _ _ t => s ≠ 0 && s = t && a.eq b
  | map _ s, map _ t => s ≠ 0 && s = t && a.eq b
  | record i _, record j _ => i = j
  | routine _ i _ _, routine _ j _ _ => i = j
  | builtin f, builtin g => f = g
  | loop i _ _ _, loop j _ _ _ => i = j
  | int _, float _ => false
  | float _, int _ => false
  | a, b => a.kind = b.kind && a.eq b

/-- Writes an entry into entries that are sorted by key. -/
def insertEntry (key value : Value) : List (Value × Value) → List (Value × Value)
  | [] => [(key, value)]
  | (k, v) :: rest =>
    match order key k with
    | .lt => (key, value) :: (k, v) :: rest
    | .eq => (k, value) :: rest
    | .gt => (k, v) :: insertEntry key value rest

/-- Entries in ascending order of keys; the last of entries with one key gives the value. -/
def sortedEntries (es : List (Value × Value)) : List (Value × Value) :=
  es.foldl (fun sorted (k, v) => insertEntry k v sorted) []

/-- The map of entries in any order; the last of entries with one key gives the value. -/
def ofEntries (es : List (Value × Value)) : Value := map (sortedEntries es) 0

end Value

end Converge.Template
