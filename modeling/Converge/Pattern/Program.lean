import Converge.Pattern.Term
import Converge.Text.Category

/-!
# Programs of patterns

A term is compiled into instructions that name the next instruction, from the last one backwards.
A fork tries its first branch before its second, so the first match that a search finds is the one
that the order of alternatives prefers.
-/

namespace Converge.Pattern

/-- An instruction. -/
inductive Instruction where
  /-- Matches one character of a set. -/
  | chars (s : Text.CodeSet) (next : Nat)
  /-- Requires a place of some kind. -/
  | anchor (a : Anchor) (next : Nat)
  /-- Tries two ways to go on, the first before the second. -/
  | fork (first second : Nat)
  /-- Keeps the place as an end of a capture. -/
  | save (slot : Nat) (next : Nat)
  /-- The pattern has matched. -/
  | accept

/-- Instructions by their numbers. -/
abbrev Code := Array Instruction

namespace Program

/-- Adds an instruction and gives its number. -/
def emit (i : Instruction) (code : Code) : Nat × Code := (code.size, code.push i)

/-- A fork that prefers the body when it is greedy. -/
def forkFor (greedy : Bool) (body next : Nat) : Instruction :=
  if greedy then .fork body next else .fork next body

/-- Compiles several copies in a row. -/
def copies (compile : Nat → Code → Nat × Code) : (count : Nat) → (next : Nat) → Code → Nat × Code
  | 0, next, code => (next, code)
  | count + 1, next, code =>
    let (start, code) := compile next code
    copies compile count start code

/-- Compiles up to so many copies, each of which may be the last. -/
def upTo (compile : Nat → Code → Nat × Code) (greedy : Bool) (next : Nat) :
    (count : Nat) → (start : Nat) → Code → Nat × Code
  | 0, start, code => (start, code)
  | count + 1, start, code =>
    let (body, code) := compile start code
    let (fork, code) := emit (forkFor greedy body next) code
    upTo compile greedy next count fork code

/-- Compiles one or more copies: the fork behind the body goes back to it. Gives the fork and the
start of the body. -/
def oneOrMore (compile : Nat → Code → Nat × Code) (greedy : Bool) (next : Nat) (code : Code) :
    Nat × Nat × Code :=
  let (fork, code) := emit .accept code
  let (body, code) := compile fork code
  (fork, body, code.setIfInBounds fork (forkFor greedy body next))

/-- Compiles a term in front of an instruction. Groups keep their ends under the place of their name
among the names. -/
def compile (names : List String) : Term → (next : Nat) → Code → Nat × Code
  | .empty, next, code => (next, code)
  | .chars s, next, code => emit (.chars s next) code
  | .anchor a, next, code => emit (.anchor a next) code
  | .group .plain t, next, code => compile names t next code
  | .group .numbered t, next, code => compile names t next code
  | .group (.named name) t, next, code =>
    let i := names.idxOf name
    let (close, code) := emit (.save (2 * i + 1) next) code
    let (body, code) := compile names t close code
    emit (.save (2 * i) body) code
  | .loop t least (some most) greedy, next, code =>
    let (rest, code) := upTo (compile names t) greedy next (most - least) next code
    copies (compile names t) least rest code
  | .loop t 0 none greedy, next, code =>
    let (fork, body, code) := oneOrMore (compile names t) greedy next code
    if 0 < t.minLength then (fork, code) else emit (forkFor greedy body next) code
  | .loop t (least + 1) none greedy, next, code =>
    let (_, body, code) := oneOrMore (compile names t) greedy next code
    copies (compile names t) least body code
  | .both t u, next, code =>
    let (second, code) := compile names u next code
    compile names t second code
  | .either t u, next, code =>
    let (second, code) := compile names u next code
    let (first, code) := compile names t next code
    emit (.fork first second) code

end Program

/-! ### Search -/

/-- Whether a character makes words. -/
def isWord (ascii : Bool) (c : Char) : Bool :=
  if ascii then c.isAlphanum || c = '_' else Text.wordCharacters.contains c

/-- Whether a place between characters is of some kind. -/
def Anchor.holdsAt (a : Anchor) (input : Array Char) (pos : Nat) : Bool :=
  let before : Option Char := if pos = 0 then none else input[pos - 1]?
  let after : Option Char := input[pos]?
  let word (ascii : Bool) (c : Option Char) : Bool := (c.map (isWord ascii)).getD false
  match a with
  | .start => pos = 0
  | .stop => pos = input.size
  | .lineStart => before = none || before = some '\n'
  | .lineStop => after = none || after = some '\n'
  | .crlfStart => before = none || before = some '\n' || (before = some '\r' && after ≠ some '\n')
  | .crlfStop => after = none || after = some '\r' || (after = some '\n' && before ≠ some '\r')
  | .boundary ascii => word ascii before != word ascii after
  | .noBoundary ascii => word ascii before == word ascii after
  | .wordStart ascii => !word ascii before && word ascii after
  | .wordStop ascii => word ascii before && !word ascii after
  | .halfStart ascii => !word ascii before
  | .halfStop ascii => !word ascii after

/-- The ends of captures found so far, by slot. -/
abbrev Slots := Array (Option Nat)

/-- A way to go on: an instruction, a place, and the captures up to there. -/
structure Job where
  place : Nat
  pos : Nat
  slots : Slots

/-- Works through jobs in order. An instruction is tried once at each place: what failed there
before fails there again. -/
def search (code : Code) (input : Array Char) : (fuel : Nat) → List Job → (tried : Array Bool) →
    Option Slots × Array Bool
  | 0, _, tried => (none, tried)
  | _, [], tried => (none, tried)
  | fuel + 1, job :: jobs, tried =>
    let key := job.place * (input.size + 1) + job.pos
    if tried.getD key true then search code input fuel jobs tried
    else
      let tried := tried.setIfInBounds key true
      match code[job.place]? with
      | none => search code input fuel jobs tried
      | some .accept => (some job.slots, tried)
      | some (.chars s next) =>
        match input[job.pos]? with
        | some c =>
          if s.contains c then
            search code input fuel ({ job with place := next, pos := job.pos + 1 } :: jobs) tried
          else search code input fuel jobs tried
        | none => search code input fuel jobs tried
      | some (.anchor a next) =>
        if a.holdsAt input job.pos then
          search code input fuel ({ job with place := next } :: jobs) tried
        else search code input fuel jobs tried
      | some (.fork first second) =>
        search code input fuel ({ job with place := first } :: { job with place := second } :: jobs) tried
      | some (.save slot next) =>
        let slots := job.slots.setIfInBounds slot (some job.pos)
        search code input fuel ({ job with place := next, slots := slots } :: jobs) tried

/-- The captures of the leftmost match that starts at one of the next places. -/
def searchFrom (code : Code) (start slots : Nat) (input : Array Char) :
    (count : Nat) → (pos : Nat) → (tried : Array Bool) → Option Slots
  | 0, _, _ => none
  | count + 1, pos, tried =>
    let fuel := 2 * code.size * (input.size + 1) + 2
    match search code input fuel [⟨start, pos, Array.replicate slots none⟩] tried with
    | (some found, _) => some found
    | (none, tried) => searchFrom code start slots input count (pos + 1) tried

end Converge.Pattern
