/-! The distance between two sequences.
Two rows of the table of distances are kept. In the row for the part of the source read so far,
entry `j` is the distance to the first `j` items of the target. The row for one more item is written
over the older of the two rows, entry by entry, and then they change places. -/
namespace TextGen.EditDistance

variable {α : Type} [BEq α]

/-- The row written last, and the one that is written over next. -/
structure Rows where
  last : Array Nat
  older : Array Nat

def fill (last : Array Nat) (s : α) : Nat → List α → Array Nat → Array Nat
  | _, [], row => row
  | j, t :: target, row =>
    let cost := if s == t then 0 else 1
    let entry := min (min (last.getD (j + 1) 0 + 1) (row.getD j 0 + 1)) (last.getD j 0 + cost)
    fill last s (j + 1) target (row.setIfInBounds (j + 1) entry)

def Rows.next (target : List α) (rows : Rows) : α × Nat → Rows
  | (s, i) => ⟨fill rows.last s 0 target (rows.older.setIfInBounds 0 (i + 1)), rows.last⟩

def Rows.first (target : List α) : Rows :=
  ⟨(List.range (target.length + 1)).toArray, Array.replicate (target.length + 1) 0⟩

/-- The least number of insertions, deletions and substitutions of single items that lead from the
source to the target. -/
def distance (source target : List α) : Nat :=
  (source.zipIdx.foldl (Rows.next target) (Rows.first target)).last.getD target.length 0

end TextGen.EditDistance
