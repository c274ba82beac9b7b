import Mathlib
import TextGen.Lexicon.Sound
import TextGen.Proofs.Lexicon.Tables

/-! What queries collect.
A collected word stands in the table beside an entry that the options accept and that satisfies the
test. Without a limit all these words are collected. -/
namespace TextGen.Lexicon

variable {o : SearchOptions} {test : String → Entry → Bool} {t : Table} {w : String}

theorem mem_of_mem_collect {n : Nat} (mem : w ∈ collect o test n t) :
    ∃ e, (w, e) ∈ t ∧ o.accepts 3 w e = true ∧ test w e = true := by
  induction t generalizing n with
  | nil => cases mem
  | cons first rest ih =>
    obtain ⟨word, entry⟩ := first
    have later {n : Nat} (mem : w ∈ collect o test n rest) :
        ∃ e, (w, e) ∈ (word, entry) :: rest ∧ o.accepts 3 w e = true ∧ test w e = true := by
      obtain ⟨e, inside, passed⟩ := ih mem
      exact ⟨e, List.mem_cons_of_mem _ inside, passed⟩
    rw [collect] at mem
    split at mem
    · exact later mem
    · rename_i accepted
      have accepted : o.accepts 3 word entry = true := by simpa using accepted
      split at mem
      · rename_i passed
        rcases List.mem_cons.mp mem with rfl | mem
        · exact ⟨entry, List.mem_cons_self, accepted, passed⟩
        · split at mem
          · cases mem
          · exact later mem
      · split at mem
        · cases mem
        · exact later mem

theorem collect_unlimited (free : o.limit = none) (n : Nat) (t : Table) :
    collect o test n t =
      (t.filter fun item => o.accepts 3 item.1 item.2 && test item.1 item.2).map (·.1) := by
  induction t generalizing n with
  | nil => rfl
  | cons first rest ih =>
    rw [collect, List.filter_cons, ih, ih]
    cases o.accepts 3 first.1 first.2 with
    | false => simp
    | true =>
      cases test first.1 first.2 with
      | false => simp [free]
      | true => simp [free]

theorem mem_collect_iff (free : o.limit = none) (n : Nat) (t : Table) :
    w ∈ collect o test n t ↔ ∃ e, (w, e) ∈ t ∧ o.accepts 3 w e = true ∧ test w e = true := by
  simp [collect_unlimited free]

theorem accepts_default {least : Nat} {e : Entry} :
    ({} : SearchOptions).accepts least w e = true ↔ least ≤ w.length := by
  simp [SearchOptions.accepts, SearchOptions.syllables?]

namespace Table

theorem mem_others_iff (sorted : t.Pairwise (·.1 < ·.1)) {word : String} {e : Entry}
    {test : List Char → Bool} (mem : (w, e) ∈ t) :
    w ∈ t.others word {} test ↔ w ≠ word ∧ 3 ≤ w.length ∧ test e.phones.toList = true := by
  rw [others, mem_collect_iff rfl]
  constructor
  · rintro ⟨e', inside, accepted, passed⟩
    obtain ⟨inside, other⟩ := List.mem_filter.mp inside
    obtain rfl := entry_unique sorted inside mem
    exact ⟨of_decide_eq_true other, accepts_default.mp accepted, passed⟩
  · rintro ⟨other, long, passed⟩
    exact ⟨e, List.mem_filter.mpr ⟨mem, decide_eq_true other⟩, accepts_default.mpr long, passed⟩

theorem find?_of_mem (sorted : t.Pairwise (·.1 < ·.1)) {e : Entry} (mem : (w, e) ∈ t)
    (lower : Unicode.lowercase w = w) : t.find? w = some e := by
  rw [find?, lower]
  exact (lookup_eq_some_iff sorted).mpr mem

theorem phones?_of_mem (sorted : t.Pairwise (·.1 < ·.1)) {e : Entry} (mem : (w, e) ∈ t)
    (lower : Unicode.lowercase w = w) : t.phones? w = some e.phones.toList := by
  rw [phones?, find?_of_mem sorted mem lower]
  rfl

end Table

theorem ask_of_table {α : Type} {l : Lexicon} (holds : l.table = some t) (fatal : Bool) (r : Run)
    (question : Table → Run → Except Error α × Run) :
    l.ask fatal r question = ((question t r).1, l, (question t r).2) := by
  rw [ask, holds]

/-- A lexicon without a table answers like one with the empty table, unless its lack is an error. -/
theorem ask_getD {α : Type} {l : Lexicon} (answers : l.fatal = true → l.table.isSome = true)
    (question : Table → Except Error α) (r : Run) :
    (l.ask l.fatal r fun t r => (question t, r)).1 = question (l.table.getD []) := by
  cases holds : l.table with
  | some t => rw [ask_of_table holds, Option.getD_some]
  | none =>
    have lenient : l.fatal = false := by
      cases fatal : l.fatal with
      | false => rfl
      | true => simpa [holds] using answers fatal
    rw [ask, holds, lenient]
    rfl

/-- A lexicon that was loaded with a table of words in lower case. -/
structure Lowercased (l : Lexicon) (t : Table) : Prop where
  table : l.table = some t
  loaded : t.Loaded
  lower : ∀ item ∈ t, Unicode.lowercase item.1 = item.1

theorem Lowercased.phones? {l : Lexicon} {e : Entry} (held : l.Lowercased t)
    (mem : (w, e) ∈ t) : t.phones? w = some e.phones.toList :=
  Table.phones?_of_mem held.loaded.pairwise mem (held.lower (w, e) mem)

/-- The list that a query returns holds a word exactly if the word passes a test. -/
def Agree (listed : Except Error (List String)) (tested : Except Error Bool) (word : String) :
    Prop :=
  ∃ words answer, listed = .ok words ∧ tested = .ok answer ∧ (word ∈ words ↔ answer = true)

theorem not_agree_of_nil (word : String) : ¬ Agree (.ok []) (.ok true) word := by
  rintro ⟨words, answer, listed, tested, agree⟩
  cases listed
  cases tested
  exact List.not_mem_nil (agree.mpr rfl)

end TextGen.Lexicon
