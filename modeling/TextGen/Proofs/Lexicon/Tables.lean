import Mathlib
import TextGen.Lexicon.Table

/-! Loaded tables.
The words of a table ascend, so each has one entry, and looking a word up finds the entry that stands
beside it. -/
namespace TextGen.Lexicon

/-- The tables that a lexicon can be made with: from entries, or read from a text. -/
inductive Table.Loaded : Table → Prop where
  | ofEntries (entries : List (String × Entry)) : Loaded (Table.ofEntries entries)
  | ofJson {text : String} {t : Table} (read : Table.ofJson? text = .ok t) : Loaded t

theorem mem_of_mem_lastOfEach {items : List (String × Entry)} {item : String × Entry}
    (mem : item ∈ lastOfEach items) : item ∈ items := by
  induction items with
  | nil => cases mem
  | cons first rest ih =>
    rw [lastOfEach] at mem
    split at mem
    · rw [List.mem_singleton.mp mem]
      exact List.mem_cons_self
    · rename_i next kept later
      rw [later] at ih
      split at mem
      · exact List.mem_cons_of_mem first (ih mem)
      · rcases List.mem_cons.mp mem with rfl | mem
        · exact List.mem_cons_self
        · exact List.mem_cons_of_mem first (ih mem)

theorem pairwise_lastOfEach {items : List (String × Entry)}
    (sorted : items.Pairwise (·.1 ≤ ·.1)) : (lastOfEach items).Pairwise (·.1 < ·.1) := by
  induction items with
  | nil => exact .nil
  | cons first rest ih =>
    obtain ⟨least, sorted⟩ := List.pairwise_cons.mp sorted
    have ascending := ih sorted
    rw [lastOfEach]
    split
    · exact List.pairwise_singleton _ first
    · rename_i next kept later
      rw [later] at ascending
      split
      · exact ascending
      · rename_i other
        have before : first.1 < next.1 :=
          lt_of_le_of_ne (least next (mem_of_mem_lastOfEach (later ▸ List.mem_cons_self))) other
        refine List.pairwise_cons.mpr ⟨fun item mem => ?_, ascending⟩
        rcases List.mem_cons.mp mem with rfl | mem
        · exact before
        · exact before.trans ((List.pairwise_cons.mp ascending).1 item mem)

theorem lastOfEach_eq_self {items : List (String × Entry)}
    (ascending : items.Pairwise (·.1 < ·.1)) : lastOfEach items = items := by
  induction items with
  | nil => rfl
  | cons first rest ih =>
    obtain ⟨least, ascending⟩ := List.pairwise_cons.mp ascending
    rw [lastOfEach, ih ascending]
    cases rest with
    | nil => rfl
    | cons next kept => exact if_neg (least next List.mem_cons_self).ne

namespace Table

variable {t : Table}

theorem pairwise_ofEntries (entries : List (String × Entry)) :
    (ofEntries entries).Pairwise (·.1 < ·.1) := by
  apply pairwise_lastOfEach
  have sorted : (entries.mergeSort fun a b => decide (a.1 ≤ b.1)).Pairwise
      (fun a b => decide (a.1 ≤ b.1) = true) := by
    apply List.pairwise_mergeSort
    · intro a b c first second
      exact decide_eq_true ((of_decide_eq_true first).trans (of_decide_eq_true second))
    · intro a b
      simpa using le_total a.1 b.1
  exact sorted.imp of_decide_eq_true

theorem exists_ofEntries_of_ofJson? {text : String} (read : ofJson? text = .ok t) :
    ∃ entries, t = ofEntries entries := by
  rw [ofJson?] at read
  split at read
  · split at read
    · rename_i entries _
      cases read
      exact ⟨entries, rfl⟩
    · cases read
  · cases read

theorem Loaded.pairwise (loaded : Loaded t) : t.Pairwise (·.1 < ·.1) := by
  cases loaded with
  | ofEntries entries => exact pairwise_ofEntries entries
  | ofJson read =>
    obtain ⟨entries, rfl⟩ := exists_ofEntries_of_ofJson? read
    exact pairwise_ofEntries entries

theorem loaded_of_pairwise (ascending : t.Pairwise (·.1 < ·.1)) : Loaded t := by
  have sorted : t.mergeSort (fun a b => decide (a.1 ≤ b.1)) = t :=
    List.mergeSort_of_pairwise (ascending.imp fun before => decide_eq_true before.le)
  have same : ofEntries t = t := by rw [ofEntries, sorted, lastOfEach_eq_self ascending]
  exact same ▸ .ofEntries t

theorem lookup_eq_some_iff (sorted : t.Pairwise (·.1 < ·.1)) {word : String} {e : Entry} :
    t.lookup word = some e ↔ (word, e) ∈ t := by
  induction t with
  | nil => simp
  | cons first rest ih =>
    obtain ⟨key, entry⟩ := first
    obtain ⟨least, ascending⟩ := List.pairwise_cons.mp sorted
    rw [List.lookup_cons, List.mem_cons, Prod.mk.injEq]
    by_cases same : word = key
    · subst same
      have later : (word, e) ∉ rest := fun mem => lt_irrefl word (least (word, e) mem)
      simp [later, eq_comm]
    · have other : (word == key) = false := beq_eq_false_iff_ne.mpr same
      simp [other, ih ascending, same]

theorem entry_unique (sorted : t.Pairwise (·.1 < ·.1)) {word : String} {e f : Entry}
    (mem : (word, e) ∈ t) (mem' : (word, f) ∈ t) : e = f := by
  have found := (lookup_eq_some_iff sorted).mpr mem
  rw [(lookup_eq_some_iff sorted).mpr mem'] at found
  exact (Option.some.inj found).symm

end Table

end TextGen.Lexicon
