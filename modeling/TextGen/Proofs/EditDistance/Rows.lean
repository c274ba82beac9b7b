import Mathlib
import TextGen.EditDistance
import TextGen.Proofs.EditDistance.Edits

/-! Rows of distances.
The rows are those of the table of distances between the beginnings of two sequences. A row is right
as far as it has been written, by the recursion at the last items of these beginnings. What it held
before stands behind that, and is never read. So the last entry of the last row is the distance
between the whole sequences. -/
namespace TextGen.EditDistance

theorem getD_setIfInBounds (row : Array Nat) {i : Nat} (within : i < row.size) (v k : Nat) :
    (row.setIfInBounds i v).getD k 0 = if i = k then v else row.getD k 0 := by
  simp only [Array.getD_eq_getD_getElem?, Array.getElem?_setIfInBounds, within, if_true]
  split <;> rfl

variable {α : Type} [DecidableEq α] {source target : List α}

/-- The entries up to `known` are the distances from the source to the beginnings of the target. The
others can be any. -/
structure IsRow (source target : List α) (known : Nat) (row : Array Nat) : Prop where
  size : row.size = target.length + 1
  entry : ∀ k ≤ known, row.getD k 0 = levenshtein source (target.take k)

/-- The last row is written to its end. The older one need only have its size. -/
structure Rows.AreOf (rows : Rows) (source target : List α) : Prop where
  last : IsRow source target target.length rows.last
  older : rows.older.size = target.length + 1

theorem isRow_start (row : Array Nat) (size : row.size = target.length + 1) :
    IsRow source target 0 (row.setIfInBounds 0 source.length) := by
  refine ⟨by rw [Array.size_setIfInBounds, size], fun k start => ?_⟩
  rw [getD_setIfInBounds row (by omega), Nat.le_zero.mp start]
  simp

theorem IsRow.write {known : Nat} {row : Array Nat} (written : IsRow source target known row)
    (within : known < target.length) :
    IsRow source target (known + 1)
      (row.setIfInBounds (known + 1) (levenshtein source (target.take (known + 1)))) := by
  refine ⟨by rw [Array.size_setIfInBounds, written.size], fun k le => ?_⟩
  rw [getD_setIfInBounds row (by rw [written.size]; omega)]
  split
  · rename_i same
    rw [same]
  · exact written.entry k (by omega)

/-- With the row above it complete, a row that is right up to the passed items is right to its end
when the rest has been written. -/
theorem isRow_fill (s : α) {last : Array Nat} (above : IsRow source target target.length last)
    (passed rest : List α) (row : Array Nat) (parts : passed ++ rest = target)
    (written : IsRow (source ++ [s]) target passed.length row) :
    IsRow (source ++ [s]) target target.length (fill last s passed.length rest row) := by
  induction rest generalizing passed row with
  | nil =>
    rw [List.append_nil] at parts
    exact parts ▸ written
  | cons t rest ih =>
    have within : passed.length < target.length := by simp [← parts]
    have here : target.take passed.length = passed := by rw [← parts, List.take_left]
    have beyond : target.take (passed.length + 1) = passed ++ [t] := by
      rw [← parts, List.take_length_add_append, List.take_succ_cons, List.take_zero]
    -- The entry read from the new row is the one written just before: no stale one is read.
    have entry : min (min (last.getD (passed.length + 1) 0 + 1) (row.getD passed.length 0 + 1))
        (last.getD passed.length 0 + if s == t then 0 else 1) =
          levenshtein (source ++ [s]) (target.take (passed.length + 1)) := by
      rw [above.entry _ within, above.entry _ within.le, written.entry _ le_rfl, here, beyond,
        levenshtein_concat_concat]
      simp only [beq_iff_eq]
    have more : (passed ++ [t]).length = passed.length + 1 := List.length_append
    have same : passed ++ [t] ++ rest = target := by rw [List.append_assoc]; exact parts
    have filled := ih (passed ++ [t]) _ same (more ▸ written.write within)
    rw [more, ← entry] at filled
    exact filled

theorem areOf_first (target : List α) : (Rows.first target).AreOf [] target := by
  refine ⟨⟨by simp [Rows.first], fun k le => ?_⟩, by simp [Rows.first]⟩
  have within : k < target.length + 1 := Nat.lt_succ_of_le le
  simp [Rows.first, le, within]

theorem Rows.AreOf.next {rows : Rows} (are : rows.AreOf source target) (s : α) :
    (rows.next target (s, source.length)).AreOf (source ++ [s]) target := by
  have more : (source ++ [s]).length = source.length + 1 := List.length_append
  have start : IsRow (source ++ [s]) target 0 _ := isRow_start rows.older are.older
  rw [more] at start
  exact ⟨isRow_fill s are.last [] target _ rfl start, are.last.size⟩

theorem Rows.AreOf.foldl {rows : Rows} (are : rows.AreOf source target) (more : List α) :
    ((more.zipIdx source.length).foldl (Rows.next target) rows).AreOf (source ++ more) target := by
  induction more generalizing source rows with
  | nil => rwa [List.append_nil]
  | cons s more ih =>
    have rest := ih (are.next s)
    rw [List.length_append, List.append_assoc] at rest
    exact rest

/-- The rows come to what the recursion at the first items defines. -/
theorem distance_eq_levenshtein (source target : List α) :
    distance source target = levenshtein source target := by
  have last := ((areOf_first target).foldl source).last.entry target.length le_rfl
  rwa [List.take_length] at last

/-- The distance is the least number of insertions, deletions and substitutions of single items that
lead from the source to the target, as the recursion of Levenshtein says. So it is a metric. -/
theorem distance_isLeast_edits (source target : List α) :
    IsLeast {n | Edits n source target} (distance source target) ∧
      distance source target = levenshtein source target ∧
      (distance source target = 0 ↔ source = target) ∧
      distance source target = distance target source ∧
      ∀ middle, distance source target ≤ distance source middle + distance middle target := by
  rw [distance_eq_levenshtein source target, distance_eq_levenshtein target source]
  have least := isLeast_levenshtein source target
  refine ⟨least, rfl, ⟨fun none => ?_, ?_⟩, ?_, fun middle => ?_⟩
  · have unchanged := edits_levenshtein source target
    rw [none] at unchanged
    cases unchanged
    rfl
  · rintro rfl
    exact levenshtein_self source
  · exact Nat.le_antisymm (levenshtein_le_of_edits (edits_levenshtein target source).symm)
      (levenshtein_le_of_edits (edits_levenshtein source target).symm)
  · rw [distance_eq_levenshtein source middle, distance_eq_levenshtein middle target]
    exact least.2 ((edits_levenshtein source middle).trans (edits_levenshtein middle target))

/-- Two letters are replaced and one is put in. -/
example : distance "kitten".toList "sitting".toList = 3 := by decide +kernel

end TextGen.EditDistance
