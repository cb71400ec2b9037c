/-! The length of a longest common subsequence, row by row of the usual table. -/
namespace Trackplan.Likeness

variable {α : Type} [DecidableEq α]

/-- The next row of the table. The row so far holds the lengths against every nonempty beginning
of the second list; `corner` and `left` are the neighbours of the first cell to be filled. -/
def nextRow (a : α) (corner left : Nat) : List α → List Nat → List Nat
  | b :: bs, above :: rest =>
    let here := if a = b then corner + 1 else max above left
    here :: nextRow a above here bs rest
  | _, _ => []

def commonLength (as bs : List α) : Nat :=
  let row := as.foldl (fun row a => nextRow a 0 0 bs row) (List.replicate bs.length 0)
  row.getLast?.getD 0

end Trackplan.Likeness
