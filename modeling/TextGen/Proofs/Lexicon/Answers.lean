import Mathlib
import TextGen.Lexicon.Search
import TextGen.Lexicon.Similar
import TextGen.Proofs.Lexicon.Collecting

/-! Looking up what a query returns.
A query returns words as they stand in the table; a word is looked up in lower case. So a returned
word is found exactly if its lower-case form stands in the table too, with the same entry. -/
namespace TextGen.Lexicon

/-- The queries that return lists of words. -/
inductive Query where
  | search (pattern : String)
  | rhymes (word : String)
  | alliterations (word : String)
  | soundsLike (word : String)
  | spellsLike (word : String)
deriving DecidableEq, Repr

def Query.ask (l : Lexicon) (o : SearchOptions) (r : Run) :
    Query → Except Error (List String) × Lexicon × Run
  | search pattern => l.search pattern o r
  | rhymes word => l.rhymes word o r
  | alliterations word => l.alliterations word o r
  | soundsLike word => l.soundsLike word o r
  | spellsLike word => l.spellsLike word o r

variable {l : Lexicon} {t : Table} {o : SearchOptions} {w : String}

def Table.Holds (t : Table) (word : String) : Prop := ∃ e, (word, e) ∈ t

theorem Table.Holds.of_filter {test : String × Entry → Bool}
    (inside : Table.Holds (t.filter test) w) : t.Holds w := by
  obtain ⟨e, mem⟩ := inside
  exact ⟨e, (List.mem_filter.mp mem).1⟩

theorem holds_of_mem_collect {test : String → Entry → Bool} {n : Nat}
    (mem : w ∈ collect o test n t) : t.Holds w := by
  obtain ⟨e, inside, _⟩ := mem_of_mem_collect mem
  exact ⟨e, inside⟩

theorem mem_of_mem_add {n : Nearest} {least d : Nat} {word : String}
    (mem : w ∈ (n.add least word d).words) : w = word ∨ w ∈ n.words := by
  rw [Nearest.add] at mem
  split at mem
  · exact .inl (List.mem_singleton.mp mem)
  · split at mem
    · exact List.mem_cons.mp mem
    · exact .inr mem

theorem mem_of_mem_nearest {distance : String → Entry → Nat} {least : Nat} {limit : Option Nat}
    {n : Nearest} (mem : w ∈ (nearest distance least limit n t).words) :
    w ∈ n.words ∨ t.Holds w := by
  induction t generalizing n with
  | nil => exact .inl mem
  | cons first rest ih =>
    have added {n : Nearest}
        (mem : w ∈ (n.add least first.1 (distance first.1 first.2)).words) :
        w ∈ n.words ∨ Table.Holds (first :: rest) w := by
      rcases mem_of_mem_add mem with rfl | earlier
      · exact .inr ⟨first.2, List.mem_cons_self⟩
      · exact .inl earlier
    rw [nearest] at mem
    split at mem
    · exact added mem
    · rcases ih mem with earlier | ⟨e, later⟩
      · exact added earlier
      · exact .inr ⟨e, List.mem_cons_of_mem first later⟩

namespace Table

theorem holds_of_mem_others {word : String} {test : List Char → Bool}
    (mem : w ∈ t.others word o test) : t.Holds w :=
  (holds_of_mem_collect mem).of_filter

theorem holds_of_mem_rhymes {word : String} (mem : w ∈ t.rhymes word o) : t.Holds w := by
  rw [rhymes] at mem
  dsimp only at mem
  split at mem
  · cases mem
  · exact holds_of_mem_others mem

theorem holds_of_mem_alliterations {word : String} {r : Run}
    (mem : w ∈ (t.alliterations word o r).1) : t.Holds w := by
  rw [alliterations] at mem
  dsimp only at mem
  split at mem
  · cases mem
  · split at mem
    · cases mem
    · dsimp only at mem
      exact holds_of_mem_others mem

theorem holds_of_mem_similar {word : String} {k : Similarity}
    (mem : w ∈ t.similar word o k) : t.Holds w := by
  rw [similar] at mem
  dsimp only at mem
  split at mem
  · cases mem
  · rcases mem_of_mem_nearest (List.mem_reverse.mp mem) with none | inside
    · cases none
    · exact inside.of_filter

theorem holds_of_mem_similarInBoth {word : String} (mem : w ∈ t.similarInBoth word o) :
    t.Holds w := by
  have unlimited : w ∈ (t.similar word { o with limit := none } .sounds).filter
      (t.similar word { o with limit := none } .letters).contains := by
    rw [similarInBoth] at mem
    split at mem
    · exact mem
    · exact List.mem_of_mem_take mem
  exact holds_of_mem_similar (List.mem_filter.mp unlimited).1

theorem holds_of_search {pattern : String} {words : List String}
    (found : t.search pattern o = .ok words) (mem : w ∈ words) : t.Holds w := by
  rw [search] at found
  split at found
  · cases found
  · cases found
    exact holds_of_mem_collect mem

end Table

theorem holds_of_ask (holds : l.table = some t) {q : Query} {r : Run} {words : List String}
    (answered : (q.ask l o r).1 = .ok words) (mem : w ∈ words) : t.Holds w := by
  cases q with
  | search pattern =>
    rw [Query.ask, search, ask_of_table holds] at answered
    exact Table.holds_of_search answered mem
  | rhymes word =>
    rw [Query.ask, rhymes, ask_of_table holds] at answered
    cases answered
    exact Table.holds_of_mem_rhymes mem
  | alliterations word =>
    rw [Query.ask, alliterations, ask_of_table holds] at answered
    cases answered
    exact Table.holds_of_mem_alliterations mem
  | soundsLike word =>
    rw [Query.ask, soundsLike, ask_of_table holds] at answered
    split at answered
    · cases answered
      cases mem
    · cases answered
      split at mem
      · exact Table.holds_of_mem_similarInBoth mem
      · exact Table.holds_of_mem_similar mem
  | spellsLike word =>
    rw [Query.ask, spellsLike, ask_of_table holds] at answered
    split at answered
    · cases answered
      cases mem
    · cases answered
      exact Table.holds_of_mem_similar mem

/- Looking words up. -/

/-- The word is in the lexicon, with the given entry. -/
def Finds (l : Lexicon) (word : String) (e : Entry) : Prop :=
  (∀ r, (l.hasWord word r).1 = .ok true) ∧ l.find? word = some e

theorem finds_iff (holds : l.table = some t) (sorted : t.Pairwise (·.1 < ·.1)) (named : w ≠ "")
    (e : Entry) : l.Finds w e ↔ (Unicode.lowercase w, e) ∈ t := by
  have found : l.find? w = t.find? w := by rw [find?, holds, Option.bind_some]
  rw [Finds, found, Table.find?, Table.lookup_eq_some_iff sorted]
  refine and_iff_right_of_imp fun mem r => ?_
  rw [hasWord, if_neg named, ask_of_table holds]
  dsimp only
  rw [Table.find?, (Table.lookup_eq_some_iff sorted).mpr mem, Option.isSome_some]

theorem search_all (holds : l.table = some t) (r : Run) :
    (Query.ask l { minLength := some 0 } r (.search "")).1 = .ok (t.map (·.1)) := by
  have empty : Pattern.ofText? "" = some .empty := by decide +kernel
  have every (text : String) : Pattern.empty.isMatch text = true := by
    rw [Pattern.isMatch]
    cases text.toList <;> rfl
  have all : (t.filter fun item =>
      ({ minLength := some 0 } : SearchOptions).accepts 3 item.1 item.2 && true) = t := by
    simp [SearchOptions.accepts, SearchOptions.syllables?]
  rw [Query.ask, search, ask_of_table holds, Table.search]
  simp only [searchPattern, reduceCtorEq, false_and, if_false, empty, every]
  rw [collect_unlimited rfl, all]

/-- A returned word is found, with the entry beside which it stands, exactly if its lower-case form
stands beside this entry. So all words that queries can return are found exactly if this is so for
all words of the table. -/
theorem answers_found_iff (holds : l.table = some t) (loaded : t.Loaded)
    (named : ∀ item ∈ t, item.1 ≠ "") :
    (∀ q o r words, (Query.ask l o r q).1 = .ok words → ∀ w ∈ words,
      ∃ e, (w, e) ∈ t ∧ (l.Finds w e ↔ (Unicode.lowercase w, e) ∈ t)) ∧
    ((∀ q o r words, (Query.ask l o r q).1 = .ok words → ∀ w ∈ words,
      ∃ e, (w, e) ∈ t ∧ l.Finds w e) ↔ ∀ item ∈ t, (Unicode.lowercase item.1, item.2) ∈ t) := by
  have sorted := loaded.pairwise
  have finds {w : String} {e : Entry} (mem : (w, e) ∈ t) :
      l.Finds w e ↔ (Unicode.lowercase w, e) ∈ t := finds_iff holds sorted (named _ mem) e
  refine ⟨fun q o r words answered w mem => ?_, fun all item mem => ?_,
    fun all q o r words answered w mem => ?_⟩
  · obtain ⟨e, inside⟩ := holds_of_ask holds answered mem
    exact ⟨e, inside, finds inside⟩
  · obtain ⟨e, inside, found⟩ := all (.search "") _ default _ (search_all holds default) item.1
      (List.mem_map_of_mem mem)
    have same : e = item.2 := Table.entry_unique sorted inside mem
    exact same ▸ (finds inside).mp found
  · obtain ⟨e, inside⟩ := holds_of_ask holds answered mem
    exact ⟨e, inside, (finds inside).mpr (all _ inside)⟩

/-- A word that is not in lower case is found with its entry if it stands in the table in lower case
too. -/
theorem answers_found_iff_of_both_spellings :
    let t : Table := [("Cat", ⟨"k-ae1-t", "nn"⟩), ("cat", ⟨"k-ae1-t", "nn"⟩),
      ("hat", ⟨"hh-ae1-t", "nn"⟩)]
    let l : Lexicon := { table := some t }
    (l.table = some t ∧ t.Loaded ∧ ∀ item ∈ t, item.1 ≠ "") ∧
      (∀ r, (Query.ask l {} r (.rhymes "Hat")).1 = .ok ["Cat", "cat"]) ∧
      ∀ q o r words, (Query.ask l o r q).1 = .ok words → ∀ w ∈ words,
        ∃ e, (w, e) ∈ t ∧ l.Finds w e := by
  intro t l
  have loaded : t.Loaded := Table.loaded_of_pairwise (by decide)
  have named : ∀ item ∈ t, item.1 ≠ "" := by decide
  have listed : t.rhymes "Hat" {} = ["Cat", "cat"] := by decide +kernel
  refine ⟨⟨rfl, loaded, named⟩, fun r => congrArg Except.ok listed, ?_⟩
  exact (answers_found_iff rfl loaded named).2.mpr (by decide +kernel)

theorem not_all_answers_found :
    ¬ ∀ (l : Lexicon) (t : Table) (q : Query) (o : SearchOptions) (r : Run) (words : List String),
      l.table = some t → t.Loaded → (∀ item ∈ t, item.1 ≠ "") →
      (Query.ask l o r q).1 = .ok words → ∀ w ∈ words,
        (l.hasWord w r).1 = .ok true ∧ ∃ e, (w, e) ∈ t ∧ l.find? w = some e := by
  intro all
  let t : Table := [("Cat", ⟨"k-ae1-t", "nn"⟩)]
  let l : Lexicon := { table := some t }
  have found : (Query.ask l {} default (.search "at")).1 = .ok ["Cat"] := by decide +kernel
  have absent : (l.hasWord "Cat" default).1 = .ok false := by decide +kernel
  have claimed := (all l t (.search "at") {} default _ rfl (Table.loaded_of_pairwise (by decide))
    (by decide) found "Cat" List.mem_cons_self).1
  rw [absent] at claimed
  cases claimed

end TextGen.Lexicon
