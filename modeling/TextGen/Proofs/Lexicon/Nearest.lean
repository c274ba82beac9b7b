import Mathlib
import TextGen.Lexicon.Similar

/-! What a search for the nearest words finds.
The search keeps the words at the smallest distance so far, among the distances from the least one
on. So a word below the least distance never counts, even if it is the nearest of all. Without a
limit the whole table is searched. -/
namespace TextGen.Lexicon

def distances (distance : String → Entry → Nat) (least : Nat) (t : Table) : Set Nat :=
  {d | least ≤ d ∧ ∃ item ∈ t, distance item.1 item.2 = d}

/-- What the search has found when it has gone through the table. -/
structure Nearest.Found (distance : String → Entry → Nat) (least : Nat) (t : Table) (n : Nearest) :
    Prop where
  smallest : ∀ d, n.distance = some d ↔ IsLeast (distances distance least t) d
  words : n.words.reverse =
    (t.filter fun item => n.distance = some (distance item.1 item.2)).map (·.1)

variable {distance : String → Entry → Nat} {least d k : Nat} {t rest : Table} {n : Nearest}
  {w : String} {e : Entry}

theorem mem_distances_concat : d ∈ distances distance least (t ++ [(w, e)]) ↔
    d ∈ distances distance least t ∨ least ≤ d ∧ distance w e = d := by
  simp only [distances, Set.mem_ofPred_eq, List.mem_append, List.mem_singleton, or_and_right,
    exists_or, exists_eq_left, and_or_left]

theorem isLeast_concat_iff
    (covered : least ≤ distance w e → ∃ m ∈ distances distance least t, m ≤ distance w e) :
    IsLeast (distances distance least (t ++ [(w, e)])) k ↔
      IsLeast (distances distance least t) k := by
  constructor
  · rintro ⟨mem, low⟩
    have earlier : k ∈ distances distance least t := by
      rcases mem_distances_concat.mp mem with earlier | ⟨counts, rfl⟩
      · exact earlier
      · obtain ⟨m, held, near⟩ := covered counts
        have same : m = distance w e := near.antisymm (low (mem_distances_concat.mpr (.inl held)))
        exact same ▸ held
    exact ⟨earlier, fun m held => low (mem_distances_concat.mpr (.inl held))⟩
  · rintro ⟨mem, low⟩
    refine ⟨mem_distances_concat.mpr (.inl mem), fun m held => ?_⟩
    rcases mem_distances_concat.mp held with earlier | ⟨counts, rfl⟩
    · exact low earlier
    · obtain ⟨m, held, near⟩ := covered counts
      exact (low held).trans near

namespace Nearest

theorem found_start : Found distance least [] {} := by
  constructor
  · intro d
    constructor
    · rintro ⟨⟩
    · rintro ⟨⟨_, item, mem, _⟩, _⟩
      cases mem
  · rfl

namespace Found

theorem lt_of_all (found : n.Found distance least t) (all : n.distance.all (d < ·) = true)
    (mem : k ∈ distances distance least t) : d < k := by
  have smallest : IsLeast (distances distance least t) (sInf (distances distance least t)) :=
    ⟨Nat.sInf_mem ⟨k, mem⟩, fun _ held => Nat.sInf_le held⟩
  rw [(found.smallest _).mpr smallest, Option.all_some, decide_eq_true_eq] at all
  exact all.trans_le (smallest.2 mem)

theorem add (found : n.Found distance least t) (w : String) (e : Entry) :
    (n.add least w (distance w e)).Found distance least (t ++ [(w, e)]) := by
  unfold Nearest.add
  split
  · next near =>
    obtain ⟨counts, all⟩ := near
    have smallest : IsLeast (distances distance least (t ++ [(w, e)])) (distance w e) := by
      refine ⟨mem_distances_concat.mpr (.inr ⟨counts, rfl⟩), fun m held => ?_⟩
      rcases mem_distances_concat.mp held with earlier | ⟨_, rfl⟩
      · exact (found.lt_of_all all earlier).le
      · exact le_rfl
    constructor
    · intro m
      constructor
      · rintro ⟨⟩
        exact smallest
      · exact fun least => congrArg some (smallest.unique least)
    · have none :
          t.filter (fun item => some (distance w e) = some (distance item.1 item.2)) = [] := by
        apply List.filter_eq_nil_iff.mpr
        intro item mem same
        have same := Option.some.inj (of_decide_eq_true same)
        have held : distance w e ∈ distances distance least t := ⟨counts, item, mem, same.symm⟩
        exact (found.lt_of_all all held).false
      rw [List.filter_append, none]
      simp
  · next far =>
    split
    · next same =>
      have held := ((found.smallest _).mp same).1
      constructor
      · intro m
        rw [isLeast_concat_iff fun _ => ⟨_, held, le_rfl⟩]
        exact found.smallest m
      · rw [List.reverse_cons, found.words, List.filter_append, List.map_append]
        simp [same]
    · next other =>
      constructor
      · intro m
        rw [isLeast_concat_iff]
        · exact found.smallest m
        · intro counts
          cases smallest : n.distance with
          | none => exact absurd ⟨counts, by rw [smallest]; rfl⟩ far
          | some m =>
            rw [smallest] at far
            refine ⟨m, ((found.smallest m).mp smallest).1, ?_⟩
            by_contra near
            exact far ⟨counts, by simpa using near⟩
      · rw [found.words, List.filter_append, List.map_append]
        simp [other]

theorem nearest (found : n.Found distance least t) (rest : Table) :
    (nearest distance least none n rest).Found distance least (t ++ rest) := by
  induction rest generalizing n t with
  | nil => simpa [Lexicon.nearest] using found
  | cons item rest ih =>
    have later := ih (found.add item.1 item.2)
    rw [List.append_assoc] at later
    exact later

end Found

end Nearest

theorem found_nearest (t : Table) :
    (nearest distance least none {} t).Found distance least t :=
  Nearest.found_start.nearest t

theorem mem_nearest_iff : w ∈ (nearest distance least none {} t).words.reverse ↔
    ∃ e, (w, e) ∈ t ∧ IsLeast (distances distance least t) (distance w e) := by
  have found : (nearest distance least none {} t).Found distance least t := found_nearest t
  simp [found.words, found.smallest]

theorem pairwise_nearest (sorted : t.Pairwise (·.1 < ·.1)) :
    (nearest distance least none {} t).words.reverse.Pairwise (· < ·) := by
  rw [(found_nearest t).words]
  exact List.pairwise_map.mpr (sorted.filter _)

end TextGen.Lexicon
