/-!
The edit distance of two texts: how many characters have to be inserted, removed or replaced to
turn one into the other. It is computed row by row. The row of a prefix of the first text lists
its distances to all prefixes of the second.
-/

namespace Worksheet

/-- The rest of the row below another, given the entry before it and the one above that. -/
def rowBelow (c : Char) : (before above : Nat) → List Char → List Nat → List Nat
  | before, above, d :: ds, next :: row =>
    let here := min (min (before + 1) (next + 1)) (if c = d then above else above + 1)
    here :: rowBelow c here next ds row
  | _, _, _, _ => []

/-- The row of a text that is longer by one character. -/
def extendRow (target : List Char) (row : List Nat) (c : Char) : List Nat :=
  match row with
  | [] => []
  | first :: rest => (first + 1) :: rowBelow c (first + 1) first target rest

/-- How many characters the two texts differ by. -/
def editDistance (source target : List Char) : Nat :=
  (source.foldl (extendRow target) (List.range (target.length + 1))).getLast?.getD 0

end Worksheet
