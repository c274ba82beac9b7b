import Mathlib
import TextGen.Markov.Generate
import TextGen.Proofs.Markov.Counting

/-! What a choice can lead to.
A pick passes some markers and ends at another token. The path that it took is in the tree, and it
is still there when the pick is made from what refusals have left of the tree. -/
namespace TextGen.Markov

namespace Trie

/- Markers are passed, but never chosen. -/

theorem ne_marker_of_settle (trie : Trie) (i : Nat) (s s' : Source) (p : Pick)
    (h : trie.settle i s = (some p, s')) : p.token ≠ marker := by
  induction trie generalizing i s s' p with
  | empty => cases h
  | branch t count below beside ihBelow ihBeside =>
    cases i with
    | zero =>
      rw [settle] at h
      split at h
      · split at h
        · cases h
        · rename_i j rest _
          cases settled : below.settle j rest with
          | mk pick after =>
            simp only [settled, Prod.mk.injEq, Option.map_eq_some_iff] at h
            obtain ⟨⟨q, rfl, rfl⟩, _⟩ := h
            exact ihBelow j rest after q settled
      · rename_i other
        cases h
        exact other
    | succ i => exact ihBeside i s s' p h

theorem ne_marker_of_pick (trie : Trie) (s s' : Source) (p : Pick)
    (h : trie.pick s = (some p, s')) : p.token ≠ marker := by
  rw [pick] at h
  split at h
  · cases h
  · exact ne_marker_of_settle trie _ _ s' p h

/- The paths of picks. -/

/-- The path of a pick: markers, then a token that is not one. -/
def Leads (trie : Trie) (p : Pick) : Prop :=
  p.token ≠ marker ∧ (trie.count? (List.replicate p.markers marker ++ [p.token])).isSome

theorem leads_branch_marker (count : Nat) (below beside : Trie) (p : Pick) (h : below.Leads p) :
    (branch marker count below beside).Leads { p with markers := p.markers + 1 } := by
  refine ⟨h.1, ?_⟩
  rw [List.replicate_succ, List.cons_append, isSome_count?_cons]
  exact ⟨(count, below), by rw [child?_branch, if_pos rfl], .inr h.2⟩

theorem leads_of_settle (trie : Trie) (proper : trie.Proper) (i : Nat) (s s' : Source) (p : Pick)
    (h : trie.settle i s = (some p, s')) : trie.Leads p := by
  induction proper generalizing i s s' p with
  | empty => cases h
  | @branch t count below beside new _ _ _ _ ihBelow ihBeside =>
    cases i with
    | zero =>
      rw [settle] at h
      split at h
      · rename_i same
        subst same
        split at h
        · cases h
        · rename_i j rest _
          cases settled : below.settle j rest with
          | mk pick after =>
            simp only [settled, Prod.mk.injEq, Option.map_eq_some_iff] at h
            obtain ⟨⟨q, rfl, rfl⟩, _⟩ := h
            exact leads_branch_marker count below beside q (ihBelow j rest after q settled)
      · rename_i other
        cases h
        exact ⟨other, by simp [child?_branch]⟩
    | succ i =>
      have leads := ihBeside i s s' p h
      exact ⟨leads.1, isSome_count?_of_child? _ _ _ (child?_beside new) leads.2⟩

theorem leads_of_pick (trie : Trie) (proper : trie.Proper) (s s' : Source) (p : Pick)
    (h : trie.pick s = (some p, s')) : trie.Leads p := by
  rw [pick] at h
  split at h
  · cases h
  · exact leads_of_settle trie proper _ _ s' p h

/- What a refusal leaves. -/

theorem proper_without (trie : Trie) (proper : trie.Proper) (p : Pick) :
    (trie.without p).Proper := by
  rw [without]
  split
  · exact proper_erase trie proper _
  · exact proper_erase trie proper _
  · exact proper

theorem leads_of_without (trie : Trie) (proper : trie.Proper) (p q : Pick)
    (h : (trie.without p).Leads q) : trie.Leads q := by
  rw [without] at h
  split at h
  · exact ⟨h.1, isSome_count?_of_child? _ _ _ (child?_of_erase trie proper _) h.2⟩
  · exact ⟨h.1, isSome_count?_of_child? _ _ _ (child?_of_erase trie proper _) h.2⟩
  · exact h

end Trie

/- The loop of choices. -/

variable (m : Markov) (history : List String) (limit : Option Nat)

/-- A token that the loop returns was picked from a tree that refusals have left, and was not
refused itself. -/
theorem choose_eq_some (P : Trie → Prop) (keep : ∀ trie p, P trie → P (trie.without p))
    (choices : Nat) (trie : Trie) (r r' : Run) (token : String) (start : P trie)
    (h : m.choose history limit choices trie r = (some token, r')) :
    m.copied? history limit token = none ∧
      ∃ rest p s s', P rest ∧ rest.pick s = (some p, s') ∧ p.token = token := by
  induction choices generalizing trie r with
  | zero => cases h
  | succ choices ih =>
    rw [choose, Run.draw] at h
    cases picked : trie.pick r.source with
    | mk pick s =>
      rw [picked] at h
      cases pick with
      | none => cases h
      | some p =>
        cases copied : m.copied? history limit p.token with
        | none =>
          simp only [copied, Prod.mk.injEq, Option.some.injEq] at h
          obtain ⟨rfl, _⟩ := h
          exact ⟨copied, trie, p, r.source, s, start, picked, rfl⟩
        | some window =>
          simp only [copied] at h
          exact ih _ _ (keep trie p start) h

theorem leads_of_choose (choices : Nat) (trie : Trie) (proper : trie.Proper) (r r' : Run)
    (token : String) (h : m.choose history limit choices trie r = (some token, r')) :
    ∃ markers, trie.Leads ⟨token, markers⟩ := by
  let Left (rest : Trie) : Prop := rest.Proper ∧ ∀ p, rest.Leads p → trie.Leads p
  have keep : ∀ rest p, Left rest → Left (rest.without p) := fun rest p left =>
    ⟨rest.proper_without left.1 p, fun q leads =>
      left.2 q (rest.leads_of_without left.1 p q leads)⟩
  obtain ⟨_, rest, p, s, s', left, picked, rfl⟩ :=
    choose_eq_some m history limit Left keep choices trie r r' token ⟨proper, fun _ => id⟩ h
  exact ⟨p.markers, left.2 p (rest.leads_of_pick left.1 s s' p picked)⟩

theorem picked_of_extend? (tokens : List String) (r r' : Run) (token : String)
    (h : m.extend? limit tokens r = (some token, r')) :
    m.copied? tokens limit token = none ∧
      ∃ (rest : Trie) (p : Pick) (s s' : Source), rest.pick s = (some p, s') ∧ p.token = token := by
  rw [extend?] at h
  split at h
  · cases h
  · rename_i trie _
    obtain ⟨allowed, rest, p, s, s', _, picked, same⟩ :=
      choose_eq_some m tokens limit (fun _ => True) (fun _ _ => id) _ trie r r' token trivial h
    exact ⟨allowed, rest, p, s, s', picked, same⟩

theorem ne_marker_of_extend? (tokens : List String) (r r' : Run) (token : String)
    (h : m.extend? limit tokens r = (some token, r')) : token ≠ marker := by
  obtain ⟨_, rest, p, s, s', picked, rfl⟩ := picked_of_extend? m limit tokens r r' token h
  exact rest.ne_marker_of_pick s s' p picked

theorem leads_of_extend? (proper : m.trie.Proper) (tokens : List String) (r r' : Run)
    (token : String) (h : m.extend? limit tokens r = (some token, r')) :
    token ≠ marker ∧ ∃ markers, (m.trie.count?
      (lastItems (m.order - 1) tokens ++ (List.replicate markers marker ++ [token]))).isSome := by
  rw [extend?] at h
  split at h
  · cases h
  · rename_i trie found
    have inside := (Trie.proper_walk? _ m.trie proper trie found).1
    obtain ⟨markers, other, known⟩ := leads_of_choose m tokens limit _ trie inside r r' token h
    refine ⟨other, markers, ?_⟩
    have walked : m.trie.walk? (lastItems (m.order - 1) tokens) = some trie := found
    rw [Trie.count?_append _ _ (by simp), walked]
    exact known

theorem copied?_of_extend? (tokens : List String) (r r' : Run) (token : String)
    (h : m.extend? limit tokens r = (some token, r')) :
    m.copied? tokens limit token = none :=
  (picked_of_extend? m limit tokens r r' token h).1

end TextGen.Markov
