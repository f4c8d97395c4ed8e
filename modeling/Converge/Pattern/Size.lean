import Converge.Pattern.Shape
import Converge.Text.ByteRange
import Std.Data.HashMap

/-!
# Sizes of patterns

A pattern is as large as the automata over bytes that read its matches forwards and backwards. This
module counts their states without building them. A state takes 32 bytes, a step from a state that
has several takes 8 more, and a way to go on from a fork takes 4.

States that are alike share where that is cheap to see: a state for a character outside ASCII is
looked up by a hash, under which only the last state is kept, and so the count of states depends on
their numbers.
-/

namespace Converge.Pattern

open Text (ByteRange CodeSet)

/-- The automaton built so far. -/
structure Tally where
  /-- How many states there are, which is also the number of the next state. -/
  states : Nat
  memory : Nat

namespace Tally

/-- The memory that an automaton may take. -/
def limit : Nat := 10 * 1024 * 1024

/-- The automaton before its first state. -/
def start : Tally := ⟨0, 0⟩

/-- Adds states and the memory that they take beside their own, unless that is too much. -/
def add (states extra : Nat) (t : Tally) : Option Tally :=
  let memory := t.memory + 32 * states + extra
  if memory ≤ limit then some ⟨t.states + states, memory⟩ else none

/-- Takes a step several times. -/
def repeated (step : Tally → Option Tally) : (count : Nat) → Tally → Option Tally
  | 0, t => some t
  | count + 1, t => (step t).bind (repeated step count)

end Tally

/-! ### Sets -/

/-- The place of a key among so many places. -/
def placeOf (places : Nat) (key : List Nat) : Nat :=
  let hash := key.foldl (fun (h : UInt64) n => (h ^^^ UInt64.ofNat n) * 1099511628211)
    14695981039346656037
  hash.toNat % places

/-- The states that are looked up, by place: the key and the number of each. -/
abbrev Known := Std.HashMap Nat (List Nat × Nat)

/-- Gives the state of a key: the one that is known, or a new one. -/
def stateFor (places extra : Nat) (key : List Nat) (known : Known) (t : Tally) :
    Option (Nat × Known × Tally) :=
  let place := placeOf places key
  match known[place]?.filter fun e => e.1 = key with
  | some (_, n) => some (n, known, t)
  | none => (t.add 1 extra).map fun t' => (t.states, known.insert place (key, t.states), t')

/-- Adds a state for each byte range of a sequence in front of the state `next`. -/
def backwardSequence : List ByteRange → (next : Nat) → Known → Tally → Option (Known × Tally)
  | [], _, known, t => some (known, t)
  | r :: rest, next, known, t =>
    (stateFor 1000 0 [next, r.1, r.2] known t).bind fun (n, known, t) =>
      backwardSequence rest n known t

/-- Adds a fork to the states of sequences, each of which is read from its end. -/
def backwardSequences (stop : Nat) : List (List ByteRange) → Known → Tally → Option Tally
  | [], _, t => some t
  | s :: rest, known, t =>
    (backwardSequence s stop known t).bind fun (known, t) =>
      (t.add 0 4).bind (backwardSequences stop rest known)

/-- Sequences by their first ranges; those that begin alike stand together. -/
def byFirst (seqs : List (List ByteRange)) : List (ByteRange × List (List ByteRange)) :=
  seqs.foldr (fun s groups => match s with
    | [] => groups
    | r :: rest => match groups with
      | (r', tails) :: more =>
        if r = r' then (r, rest :: tails) :: more else (r, [rest]) :: groups
      | [] => [(r, [rest])]) []

mutual

/-- Adds the states that read sequences of some length forwards, up to the state `stop`. -/
def forwardSequences (stop : Nat) : (length : Nat) → List (List ByteRange) → Known → Tally →
    Option (Nat × Known × Tally)
  | 0, _, known, t => some (stop, known, t)
  | length + 1, seqs, known, t =>
    if seqs.all List.isEmpty then some (stop, known, t)
    else
      let groups := byFirst seqs
      (forwardGroups stop length groups [] known t).bind fun (key, known, t) =>
        stateFor 10000 (8 * groups.length) key known t

/-- Adds the states behind the first ranges of sequences, and gives the key of the state before
them: each range with the state that follows. -/
def forwardGroups (stop : Nat) (length : Nat) : List (ByteRange × List (List ByteRange)) →
    (key : List Nat) → Known → Tally → Option (List Nat × Known × Tally)
  | [], key, known, t => some (key, known, t)
  | (r, tails) :: more, key, known, t =>
    (forwardSequences stop length tails known t).bind fun (n, known, t) =>
      forwardGroups stop length more (key ++ [r.1, r.2, n]) known t

end

/-- Adds the states of a set. -/
def Tally.addSet (back : Bool) (s : CodeSet) (t : Tally) : Option Tally :=
  if s.isAscii then t.add 2 (8 * s.ranges.length)
  else if back then
    (t.add 2 0).bind (backwardSequences (t.states + 1) s.sequences ∅)
  else
    (t.add 1 0).bind fun t' =>
      (forwardSequences t.states 4 s.sequences ∅ t').map fun (_, _, t) => t

/-! ### Choices of literals -/

/-- Cuts texts into runs: a text that has ended ends the run before it, unless there is one and no
text has gone on. Each text of a run is its first byte and the rest. -/
def runs : (goesOn cut : Bool) → (run : List (Nat × List Nat)) → List (List Nat) →
    List (List (Nat × List Nat))
  | _, _, run, [] => [run.reverse]
  | goesOn, cut, run, [] :: rest =>
    if !goesOn && cut then runs goesOn cut run rest
    else run.reverse :: runs goesOn true [] rest
  | _, cut, run, (b :: bs) :: rest => runs true cut ((b, bs) :: run) rest

/-- The states, and the memory beside their own, of the tree of some texts of bounded length. -/
def treeSize : (length : Nat) → List (List Nat) → Nat × Nat
  | 0, _ => (0, 0)
  | length + 1, texts =>
    let cuts := runs false false [] texts
    let sizes := cuts.map fun run =>
      let bytes := (run.map Prod.fst).eraseDups
      let below := bytes.map fun b =>
        let tails := (run.filter fun p => p.1 = b).map Prod.snd
        if tails.all List.isEmpty then (0, 0) else treeSize length tails
      ((below.map Prod.fst).sum + (if bytes.isEmpty then 0 else 1),
        (below.map Prod.snd).sum + (if bytes.isEmpty then 0 else 4) +
          (if bytes.length ≤ 1 then 0 else 8 * bytes.length))
    (1 + (sizes.map Prod.fst).sum, 4 * (cuts.length - 1) + (sizes.map Prod.snd).sum)

/-- The bytes of the options when all are literals. -/
def literals? : Shape → Option (List (List Nat))
  | .literal cs => some [cs.flatMap Text.bytesOfChar]
  | .choice (.literal cs) u => (literals? u).map fun us => cs.flatMap Text.bytesOfChar :: us
  | _ => none

/-- Adds the states of a choice of literals, which share their beginnings. -/
def Tally.addLiterals (back : Bool) (texts : List (List Nat)) (t : Tally) : Option Tally :=
  let texts := if back then texts.map List.reverse else texts
  let (states, extra) := treeSize ((texts.map List.length).foldl max 0 + 1) texts
  t.add (states + 1) extra

/-! ### Shapes -/

namespace Shape

/-- The least count of bytes in a match, if there can be a match. -/
def minBytes? : Shape → Option Nat
  | nothing => some 0
  | literal cs => some (cs.map Char.utf8Size).sum
  | set s => s.ranges.head?.map fun _ => 1
  | anchor _ => some 0
  | loop t least _ _ => t.minBytes?.map fun n => n * least
  | capture t => t.minBytes?
  | row t u => t.minBytes?.bind fun m => u.minBytes?.map fun n => m + n
  | choice t u => t.minBytes?.bind fun m => u.minBytes?.map fun n => min m n

/-- Whether the shape can match nothing but the empty text. -/
def isWidthless : Shape → Bool
  | nothing => true
  | literal _ => false
  | set _ => false
  | anchor _ => true
  | loop t _ most _ => t.isWidthless && most.isSome
  | capture t => t.isWidthless
  | row t u => t.isWidthless && u.isWidthless
  | choice t u => t.isWidthless && u.isWidthless

/-- Whether every match begins at the start of the text. -/
def startsAtStart : Shape → Bool
  | anchor a => a = .start
  | loop t least _ _ => 0 < least && t.startsAtStart
  | capture t => t.startsAtStart
  | row t u => t.startsAtStart || (t.isWidthless && u.startsAtStart)
  | choice t u => t.startsAtStart && u.startsAtStart
  | _ => false

/-- Whether every match ends at the end of the text. -/
def stopsAtStop : Shape → Bool
  | anchor a => a = .stop
  | loop t least _ _ => 0 < least && t.stopsAtStop
  | capture t => t.stopsAtStop
  | row t u => u.stopsAtStop || (u.isWidthless && t.stopsAtStop)
  | choice t u => t.stopsAtStop && u.stopsAtStop
  | _ => false

/-- Adds what stands behind the option `n` of a choice: behind the second one the fork and the end
that all options share, and a way from the fork for each. What is no option has the number 0. -/
def closing (n : Nat) (tally : Tally) : Option Tally :=
  if n = 0 then some tally else if n = 2 then tally.add 2 4 else tally.add 0 4

/-- Adds the states of a shape that is the option `n` of a choice. -/
def addTo (back : Bool) : Shape → (n : Nat) → Tally → Option Tally
  | nothing, n, tally => (tally.add 1 0).bind (closing n)
  | literal cs, n, tally => (tally.add (cs.map Char.utf8Size).sum 0).bind (closing n)
  | set s, n, tally => (tally.addSet back s).bind (closing n)
  | anchor _, n, tally => (tally.add 1 0).bind (closing n)
  | capture t, n, tally =>
    if back then (addTo back t 0 tally).bind (closing n)
    else (((tally.add 1 0).bind (addTo back t 0)).bind (Tally.add 1 0)).bind (closing n)
  | row t u, n, tally =>
    if back then ((addTo back u 0 tally).bind (addTo back t 0)).bind (closing n)
    else ((addTo back t 0 tally).bind (addTo back u 0)).bind (closing n)
  | choice t u, n, tally =>
    match (if n = 0 then literals? (choice t u) else none) with
    | some texts => tally.addLiterals back texts
    | none =>
      ((addTo back t 0 tally).bind (closing (max n 1))).bind (addTo back u (max n 1 + 1))
  | loop t 0 (some 1) _, n, tally =>
    (((tally.add 1 8).bind (addTo back t 0)).bind (Tally.add 1 0)).bind (closing n)
  | loop t 0 none _, n, tally =>
    if t.minBytes?.any (0 < ·) then ((tally.add 1 8).bind (addTo back t 0)).bind (closing n)
    else ((addTo back t 0 tally).bind (Tally.add 3 16)).bind (closing n)
  | loop t least none _, n, tally =>
    ((Tally.repeated (addTo back t 0) least tally).bind (Tally.add 1 8)).bind (closing n)
  | loop t least (some most) _, n, tally =>
    let front := if least = 0 then tally.add 1 0 else Tally.repeated (addTo back t 0) least tally
    let all := if least = most then front
      else (front.bind (Tally.add 1 0)).bind
        (Tally.repeated (fun tally => (tally.add 1 8).bind (addTo back t 0)) (most - least))
    all.bind (closing n)

/-- Whether the automaton that reads matches in one direction is small enough. One that is not tied
to an end of the text first skips any bytes. -/
def fits (back : Bool) (t : Shape) : Bool :=
  let tied := if back then t.stopsAtStop else t.startsAtStart
  let tally := if tied then Tally.start.add 1 0 else Tally.start.add 3 16
  ((tally.bind (addTo back (capture t) 0)).bind (Tally.add 1 0)).isSome

end Shape

namespace Term

/-- More than the memory that the automata of a term take, found without counting. -/
def bound : Term → Nat
  | empty => 40
  | chars s => 100 + (s.ranges.map fun r => if r.2 < 0x80 then 40 else 2600).sum
  | anchor _ => 40
  | group _ t => t.bound + 80
  | loop t least most _ => (t.bound + 40) * (most.getD (max least 1)) + 200
  | both t u => t.bound + u.bound
  | either t u => t.bound + u.bound + 100

/-- Whether the automata of a term are small enough. -/
def fits (t : Term) : Bool :=
  t.bound + 300 ≤ Tally.limit || (t.shape.fits true && t.shape.fits false)

end Term

end Converge.Pattern
