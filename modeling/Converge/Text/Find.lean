/-!
# Looking inside a text

Searching and cutting on lists of characters.
-/

namespace Converge.Text

/-- What follows `start` in `cs`, when `cs` begins with it. -/
def after? : (start cs : List Char) → Option (List Char)
  | [], cs => some cs
  | _ :: _, [] => none
  | a :: start, c :: cs => if a = c then after? start cs else none

/-- Whether `cs` begins with `start`. -/
def startsWith (start cs : List Char) : Bool := (after? start cs).isSome

/-- Whether `part` occurs anywhere in `cs`. -/
def contains (part : List Char) : List Char → Bool
  | [] => part.isEmpty
  | c :: cs => startsWith part (c :: cs) || contains part cs

/-- What precedes `ending` in `cs`, when `cs` ends with it. -/
def before? (ending : List Char) : List Char → Option (List Char)
  | [] => if ending.isEmpty then some [] else none
  | c :: cs => if ending = c :: cs then some [] else (before? ending cs).map (c :: ·)

/-- The text up to the first occurrence of `mark`, and what follows that occurrence. -/
def splitAt? (mark : List Char) : List Char → Option (List Char × List Char)
  | [] => if mark.isEmpty then some ([], []) else none
  | c :: cs =>
    match after? mark (c :: cs) with
    | some rest => some ([], rest)
    | none => (splitAt? mark cs).map fun (front, rest) => (c :: front, rest)

/-- The pieces of a text between the occurrences of a character: one more than there are
occurrences. -/
def splitOn (mark : Char) : List Char → List (List Char)
  | [] => [[]]
  | c :: cs =>
    if c = mark then [] :: splitOn mark cs
    else match splitOn mark cs with
      | [] => [[c]]
      | piece :: more => (c :: piece) :: more

end Converge.Text
