import Mathlib
import TextGen.Markov.Trie

/-! The shape of a tree.
Looking up tokens and paths, and what insertions and removals of branches keep: branches beside one
another have different tokens, and what lies below a branch was not passed more often than it. -/
namespace TextGen.Markov.Trie

def passes : Trie → Nat
  | empty => 0
  | branch _ count _ beside => count + beside.passes

/-- A tree that insertions can build: branches beside one another have different tokens, each was
passed, and what lies below it was not passed more often. -/
inductive Proper : Trie → Prop where
  | empty : Proper .empty
  | branch {token : String} {count : Nat} {below beside : Trie} :
      beside.child? token = none → 0 < count → below.passes ≤ count → Proper below →
        Proper beside → Proper (.branch token count below beside)

/- Looking up one token. -/

@[simp] theorem child?_empty (token : String) : empty.child? token = none := rfl

theorem child?_branch (t token : String) (count : Nat) (below beside : Trie) :
    (branch t count below beside).child? token =
      if t = token then some (count, below) else beside.child? token := rfl

theorem child?_hit (token other : String) (grow : Trie → Trie) (trie : Trie) :
    (trie.hit token grow).child? other =
      if token = other then
        match trie.child? token with
        | none => some (1, grow .empty)
        | some (count, below) => some (count + 1, grow below)
      else trie.child? other := by
  induction trie with
  | empty => rfl
  | branch t count below beside _ ih =>
    by_cases same : t = token
    · subst same
      by_cases found : t = other
      · simp only [hit, child?_branch, if_true, if_pos found]
      · simp only [hit, child?_branch, if_true, if_neg found]
    · by_cases found : t = other
      · subst found
        simp only [hit, child?_branch, if_neg same, if_true, if_neg (Ne.symm same)]
      · simp only [hit, child?_branch, if_neg same, if_neg found, ih]

/- Looking up a path. -/

@[simp] theorem count?_singleton (token : String) (trie : Trie) :
    trie.count? [token] = (trie.child? token).map (·.1) := rfl

theorem count?_cons_cons (token next : String) (w : List String) (trie : Trie) :
    trie.count? (token :: next :: w) =
      (trie.child? token).bind fun node => node.2.count? (next :: w) := rfl

theorem count?_empty (w : List String) : empty.count? w = none := by
  match w with
  | [] => rfl
  | [_] => rfl
  | _ :: _ :: _ => rfl

theorem isSome_walk? (w : List String) (nonempty : w ≠ []) (trie : Trie) :
    (trie.walk? w).isSome = (trie.count? w).isSome := by
  induction w generalizing trie with
  | nil => exact absurd rfl nonempty
  | cons token w ih =>
    cases w with
    | nil => cases h : trie.child? token <;> simp [walk?, h]
    | cons next w =>
      rw [count?_cons_cons, walk?]
      cases trie.child? token with
      | none => rfl
      | some node => exact ih (List.cons_ne_nil _ _) node.2

theorem count?_append (v w : List String) (nonempty : w ≠ []) (trie : Trie) :
    trie.count? (v ++ w) = (trie.walk? v).bind fun below => below.count? w := by
  induction v generalizing trie with
  | nil => rfl
  | cons token v ih =>
    obtain ⟨next, rest, split⟩ := List.exists_cons_of_ne_nil
      (List.append_ne_nil_of_right_ne_nil v nonempty)
    rw [List.cons_append, split, count?_cons_cons, ← split, walk?]
    cases trie.child? token with
    | none => rfl
    | some node => exact ih node.2

theorem walk?_append (v w : List String) (trie : Trie) :
    trie.walk? (v ++ w) = (trie.walk? v).bind fun below => below.walk? w := by
  induction v generalizing trie with
  | nil => rfl
  | cons token v ih =>
    simp only [List.cons_append, walk?]
    cases trie.child? token with
    | none => rfl
    | some node => exact ih node.2

/- Insertions keep a tree proper. -/

theorem passes_hit (token : String) (grow : Trie → Trie) (trie : Trie) :
    (trie.hit token grow).passes = trie.passes + 1 := by
  induction trie with
  | empty => rfl
  | branch t count below beside _ ih =>
    by_cases same : t = token
    · simp only [hit, if_pos same, passes]
      omega
    · simp only [hit, if_neg same, passes, ih]
      omega

theorem passes_insert_le (w : List String) (trie : Trie) :
    (trie.insert w).passes ≤ trie.passes + 1 := by
  cases w with
  | nil => exact Nat.le_succ _
  | cons token w => exact Nat.le_of_eq (passes_hit token _ trie)

theorem proper_hit (token : String) (grow : Trie → Trie)
    (grown : ∀ below, Proper below → Proper (grow below))
    (slow : ∀ below : Trie, (grow below).passes ≤ below.passes + 1) (trie : Trie)
    (h : Proper trie) : Proper (trie.hit token grow) := by
  induction h with
  | empty => exact .branch rfl Nat.one_pos (slow .empty) (grown _ .empty) .empty
  | @branch t count below beside new passed room properBelow properBeside _ ih =>
    rw [hit]
    by_cases same : t = token
    · rw [if_pos same]
      exact .branch new (Nat.succ_pos _) (Nat.le_trans (slow below) (Nat.succ_le_succ room))
        (grown below properBelow) properBeside
    · rw [if_neg same]
      have stillNew : (beside.hit token grow).child? t = none := by
        rw [child?_hit, if_neg (Ne.symm same), new]
      exact .branch stillNew passed room properBelow ih

theorem proper_insert (w : List String) (trie : Trie) (h : Proper trie) :
    Proper (trie.insert w) := by
  induction w generalizing trie with
  | nil => exact h
  | cons token w ih => exact proper_hit token _ ih (passes_insert_le w) trie h

theorem proper_insertWindows (n : Nat) (batch : List String) (trie : Trie) (h : Proper trie) :
    Proper (trie.insertWindows n batch) := by
  induction batch generalizing trie with
  | nil => exact h
  | cons token batch ih => exact ih _ (proper_insert _ trie h)

/- What lies below a path of a proper tree. -/

theorem proper_child? (trie : Trie) (proper : trie.Proper) (token : String) (count : Nat)
    (below : Trie) (h : trie.child? token = some (count, below)) :
    below.Proper ∧ below.passes ≤ trie.passes := by
  induction proper with
  | empty => cases h
  | branch _ _ room properInside _ _ ih =>
    rw [child?_branch] at h
    split at h
    · cases h
      exact ⟨properInside, Nat.le_trans room (Nat.le_add_right _ _)⟩
    · exact ⟨(ih h).1, Nat.le_trans (ih h).2 (Nat.le_add_left _ _)⟩

theorem proper_walk? (path : List String) (trie : Trie) (proper : trie.Proper) (below : Trie)
    (h : trie.walk? path = some below) : below.Proper ∧ below.passes ≤ trie.passes := by
  induction path generalizing trie with
  | nil =>
    cases h
    exact ⟨proper, Nat.le_refl _⟩
  | cons token path ih =>
    simp only [walk?, Option.bind_eq_some_iff] at h
    obtain ⟨⟨count, next⟩, found, rest⟩ := h
    have inside := proper_child? trie proper token count next found
    have deeper := ih next inside.1 rest
    exact ⟨deeper.1, Nat.le_trans deeper.2 inside.2⟩

/- Branches beside a branch, and without one. -/

theorem isSome_count?_cons (token : String) (w : List String) (trie : Trie) :
    (trie.count? (token :: w)).isSome ↔
      ∃ node, trie.child? token = some node ∧ (w = [] ∨ (node.2.count? w).isSome) := by
  cases w with
  | nil => cases h : trie.child? token <;> simp [h]
  | cons next w => cases h : trie.child? token <;> simp [count?_cons_cons, h]

theorem isSome_count?_of_child? (trie other : Trie) (w : List String)
    (same : ∀ token node, trie.child? token = some node → other.child? token = some node)
    (h : (trie.count? w).isSome) : (other.count? w).isSome := by
  cases w with
  | nil => simp [count?] at h
  | cons token w =>
    obtain ⟨node, found, rest⟩ := (isSome_count?_cons token w trie).mp h
    exact (isSome_count?_cons token w other).mpr ⟨node, same _ _ found, rest⟩

theorem child?_beside {t : String} {count : Nat} {below beside : Trie}
    (new : beside.child? t = none) (token : String) (node : Nat × Trie)
    (h : beside.child? token = some node) :
    (branch t count below beside).child? token = some node := by
  have other : t ≠ token := by
    rintro rfl
    rw [new] at h
    cases h
  rw [child?_branch, if_neg other, h]

theorem child?_erase (trie : Trie) (proper : trie.Proper) (token other : String) :
    (trie.erase token).child? other = if token = other then none else trie.child? other := by
  induction proper with
  | empty => simp [erase]
  | @branch t count below beside new _ _ _ _ _ ih =>
    rw [erase, child?_branch]
    by_cases here : t = token
    · subst here
      rw [if_pos rfl]
      by_cases same : t = other
      · subst same
        rw [if_pos rfl, new]
      · rw [if_neg same, if_neg same]
    · rw [if_neg here, child?_branch, ih]
      by_cases same : t = other
      · subst same
        rw [if_pos rfl, if_neg (Ne.symm here), if_pos rfl]
      · rw [if_neg same, if_neg same]

theorem proper_erase (trie : Trie) (proper : trie.Proper) (token : String) :
    (trie.erase token).Proper := by
  induction proper with
  | empty => exact .empty
  | @branch t count below beside new passed room properBelow properBeside _ ih =>
    rw [erase]
    split
    · exact properBeside
    · refine .branch ?_ passed room properBelow ih
      rw [child?_erase beside properBeside, new]
      split <;> rfl

theorem child?_of_erase (trie : Trie) (proper : trie.Proper) (token other : String)
    (node : Nat × Trie) (h : (trie.erase token).child? other = some node) :
    trie.child? other = some node := by
  rw [child?_erase trie proper] at h
  split at h
  · cases h
  · exact h

/- Sizes. -/

theorem width_branch (token : String) (count : Nat) (below beside : Trie) :
    (branch token count below beside).width = beside.width + 1 := rfl

theorem width_erase (trie : Trie) (token : String) (h : (trie.child? token).isSome) :
    (trie.erase token).width + 1 = trie.width := by
  induction trie with
  | empty => cases h
  | branch t count below beside _ ih =>
    rw [erase]
    split
    · rfl
    · rename_i other
      rw [child?_branch, if_neg other] at h
      rw [width_branch, width_branch, ih h]

theorem width_le_size (trie : Trie) : trie.width ≤ trie.size := by
  induction trie with
  | empty => exact Nat.le_refl _
  | branch token count below beside _ ih =>
    rw [width_branch, size]
    omega

theorem size_child?_le (trie : Trie) (token : String) (node : Nat × Trie)
    (h : trie.child? token = some node) : node.2.size ≤ trie.size := by
  induction trie with
  | empty => cases h
  | branch t count below beside _ ih =>
    rw [child?_branch] at h
    rw [size]
    split at h
    · cases h
      change below.size ≤ _
      omega
    · have deeper := ih h
      omega

theorem size_walk?_le (path : List String) (trie below : Trie) (h : trie.walk? path = some below) :
    below.size ≤ trie.size := by
  induction path generalizing trie with
  | nil =>
    cases h
    exact Nat.le_refl _
  | cons token path ih =>
    simp only [walk?, Option.bind_eq_some_iff] at h
    obtain ⟨node, found, rest⟩ := h
    exact (ih node.2 rest).trans (size_child?_le trie token node found)

end TextGen.Markov.Trie
