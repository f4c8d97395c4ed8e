import Converge.Text.CodeSet

/-!
# Terms of patterns

A pattern as a term: what is matched, in which order alternatives are tried, and which parts are
captured under a name.
-/

namespace Converge.Pattern

/-- A condition on the place between two characters. -/
inductive Anchor where
  | start
  | stop
  | lineStart
  | lineStop
  /-- Line starts and stops where a carriage return before a line feed is one line end with it. -/
  | crlfStart
  | crlfStop
  /-- Word boundaries; `ascii` tells whether only ASCII characters make words. -/
  | boundary (ascii : Bool)
  | noBoundary (ascii : Bool)
  | wordStart (ascii : Bool)
  | wordStop (ascii : Bool)
  | halfStart (ascii : Bool)
  | halfStop (ascii : Bool)
deriving DecidableEq

/-- What a group is for. -/
inductive Group where
  /-- The group only holds its parts together. -/
  | plain
  /-- The group has a number, which no result shows. -/
  | numbered
  /-- The match of the group is kept under a name. -/
  | named (name : String)

/-- A pattern as a term. -/
inductive Term where
  | empty
  | chars (s : Text.CodeSet)
  | anchor (a : Anchor)
  | group (g : Group) (t : Term)
  | loop (t : Term) (least : Nat) (most : Option Nat) (greedy : Bool)
  | both (t u : Term)
  | either (t u : Term)

namespace Term

/-- The term that matches terms in a row. -/
def row : List Term → Term
  | [] => empty
  | [t] => t
  | t :: rest => both t (row rest)

/-- The term that matches one of some terms, the first that can being taken. -/
def choice : List Term → Term
  | [] => empty
  | [t] => t
  | t :: rest => either t (choice rest)

/-- The least count of characters in a match. -/
def minLength : Term → Nat
  | empty => 0
  | chars _ => 1
  | anchor _ => 0
  | group _ t => t.minLength
  | loop t least _ _ => t.minLength * least
  | both t u => t.minLength + u.minLength
  | either t u => min t.minLength u.minLength

/-- Whether the term can match nothing but the empty text. -/
def isWidthless : Term → Bool
  | empty => true
  | chars _ => false
  | anchor _ => true
  | group _ t => t.isWidthless
  | loop t _ most _ => t.isWidthless || most = some 0
  | both t u => t.isWidthless && u.isWidthless
  | either t u => t.isWidthless && u.isWidthless

/-- The term that matches a term several times. What matches the empty text alone matches it once
where it matches it more often. -/
def times (t : Term) (least : Nat) (most : Option Nat) (greedy : Bool) : Term :=
  if t.isWidthless then loop t (min least 1) (some (min (most.getD 1) 1)) greedy
  else loop t least most greedy

end Term

end Converge.Pattern
