import Mathlib
import TextGen.Proofs.Lexicon.Limits
import TextGen.Proofs.Lexicon.Similarity

/-! Where a limit stops the search for similar words.
The number of the words found is compared with the limit while nearer words may still come. So the
search stops at the first part of the table that has as many words at its own smallest distance as the
limit says, whether this is the smallest distance of the table or not. -/
namespace TextGen.Lexicon

variable {distance : String → Entry → Nat} {least k : Nat} {t front back : Table} {n : Nearest}

/-- A first part of the table has as many words at its smallest distance as the limit says, and a
word that is nearer comes after it. -/
def StopsEarly (distance : String → Entry → Nat) (least k : Nat) (t : Table) : Prop :=
  ∃ front back d, t = front ++ back ∧ IsLeast (distances distance least front) d ∧
    front.countP (fun item => distance item.1 item.2 = d) = k ∧
    ∃ item ∈ back, least ≤ distance item.1 item.2 ∧ distance item.1 item.2 < d

def CountsFirst (distance : String → Entry → Nat) (least : Nat) (t : Table) : Prop :=
  ∃ item ∈ t.head?, least ≤ distance item.1 item.2

/- The words at the smallest distance. -/

theorem words_eq_of_isLeast {d : Nat} (smallest : IsLeast (distances distance least t) d) :
    (nearest distance least none {} t).words.reverse =
      (t.filter fun item => distance item.1 item.2 = d).map (·.1) := by
  have found : (nearest distance least none {} t).Found distance least t := found_nearest t
  rw [found.words, (found.smallest d).mpr smallest]
  congr 1
  apply List.filter_congr
  intro item _
  simp [eq_comm]

theorem length_eq_of_isLeast {d : Nat} (smallest : IsLeast (distances distance least t) d) :
    (nearest distance least none {} t).words.length =
      t.countP fun item => distance item.1 item.2 = d := by
  rw [← List.length_reverse, words_eq_of_isLeast smallest, List.length_map,
    ← List.countP_eq_length_filter]

theorem exists_isLeast (some_ : (nearest distance least none {} t).words ≠ []) :
    ∃ d, IsLeast (distances distance least t) d := by
  obtain ⟨w, mem⟩ := List.exists_mem_of_ne_nil _ some_
  obtain ⟨e, _, smallest⟩ := mem_nearest_iff.mp (List.mem_reverse.mpr mem)
  exact ⟨_, smallest⟩

theorem words_append {d : Nat} (smallest : IsLeast (distances distance least front) d)
    (farther : ∀ item ∈ back, least ≤ distance item.1 item.2 → d ≤ distance item.1 item.2) :
    (nearest distance least none {} front).words.reverse <+:
      (nearest distance least none {} (front ++ back)).words.reverse := by
  have whole : IsLeast (distances distance least (front ++ back)) d := by
    obtain ⟨⟨counts, item, mem, same⟩, low⟩ := smallest
    refine ⟨⟨counts, item, List.mem_append_left back mem, same⟩, ?_⟩
    rintro _ ⟨counts', other, inside, rfl⟩
    rcases List.mem_append.mp inside with inside | inside
    · exact low ⟨counts', other, inside, rfl⟩
    · exact farther other inside counts'
  rw [words_eq_of_isLeast smallest, words_eq_of_isLeast whole, List.filter_append, List.map_append]
  exact List.prefix_append _ _

/- The search with a limit. -/

theorem length_add_le (n : Nearest) (w : String) (d : Nat) :
    (n.add least w d).words.length ≤ n.words.length + 1 := by
  unfold Nearest.add
  split
  · simp
  · split
    · simp
    · exact Nat.le_succ _

/-- The search with a limit goes as far as `front`, the first part of the table that fills it, or to
the end. -/
structure Stop (distance : String → Entry → Nat) (least k : Nat) (n : Nearest)
    (t front back : Table) : Prop where
  split : t = front ++ back
  found : nearest distance least (some k) n t = nearest distance least none n front
  length_le : (nearest distance least none n front).words.length ≤ k
  reached : back ≠ [] → (nearest distance least none n front).words.length = k
  before : ∀ part, part <+: front → part ≠ front →
    (nearest distance least none n part).words.length < k

theorem exists_stop (distance : String → Entry → Nat) (least : Nat) (below : n.words.length < k)
    (t : Table) :
    ∃ front back, Stop distance least k n t front back := by
  induction t generalizing n with
  | nil =>
    refine ⟨[], [], rfl, rfl, below.le, fun more => absurd rfl more, ?_⟩
    intro part inside other
    exact absurd (List.prefix_nil.mp inside) other
  | cons item rest ih =>
    let next := n.add least item.1 (distance item.1 item.2)
    have grown : next.words.length ≤ n.words.length + 1 := length_add_le n item.1 _
    by_cases reached : k = next.words.length
    · have stops : nearest distance least (some k) n (item :: rest) = next :=
        if_pos (congrArg some reached)
      refine ⟨[item], rest, rfl, stops, reached.ge, fun _ => reached.symm, ?_⟩
      intro part inside other
      rcases List.prefix_cons_iff.mp inside with rfl | ⟨later, rfl, inner⟩
      · exact below
      · exact absurd (congrArg _ (List.prefix_nil.mp inner)) other
    · obtain ⟨front, back, stop⟩ := ih (n := next) (by omega)
      have goes : nearest distance least (some k) n (item :: rest) =
          nearest distance least (some k) next rest :=
        if_neg fun same => reached (Option.some.inj same)
      refine ⟨item :: front, back, congrArg _ stop.split, goes.trans stop.found, stop.length_le,
        stop.reached, ?_⟩
      intro part inside other
      rcases List.prefix_cons_iff.mp inside with rfl | ⟨later, rfl, inner⟩
      · exact below
      · exact stop.before later inner fun same => other (congrArg _ same)

theorem Stop.filled (stop : Stop distance least k n t front back) (some_ : k ≠ 0)
    (goesOn : back ≠ []) : (nearest distance least none n front).words ≠ [] := by
  intro none_
  have reached := stop.reached goesOn
  rw [none_] at reached
  exact some_ reached.symm

/-- The search does not go past a part that has as many words at its smallest distance as the limit
says. -/
theorem Stop.isPrefix {part : Table} {d : Nat} (stop : Stop distance least k {} t front back)
    (inside : part <+: t) (smallest : IsLeast (distances distance least part) d)
    (count : part.countP (fun item => distance item.1 item.2 = d) = k) : front <+: part := by
  rcases List.prefix_or_prefix_of_prefix inside ⟨back, stop.split.symm⟩ with shorter | longer
  · by_contra outside
    have fewer := stop.before part shorter fun same => outside (same ▸ List.prefix_refl _)
    rw [length_eq_of_isLeast smallest, count] at fewer
    exact fewer.false
  · exact longer

/-- A search that stopped at a distance that is not the smallest returns a word that is farther. -/
theorem exists_farther (sorted : t.Pairwise (·.1 < ·.1)) (some_ : k ≠ 0)
    (early : StopsEarly distance least k t) :
    ∃ w ∈ (nearest distance least (some k) {} t).words.reverse,
      w ∉ (nearest distance least none {} t).words.reverse := by
  obtain ⟨part, later, d, parts, smallest, count, item, mem, counts, nearer⟩ := early
  obtain ⟨front, back, stop⟩ :=
    exists_stop distance least (n := {}) (Nat.pos_of_ne_zero some_) t
  -- The search stops within the part whose smallest distance is too large.
  have whole : front <+: part := stop.isPrefix ⟨later, parts.symm⟩ smallest count
  have goesOn : back ≠ [] := by
    rintro rfl
    have lengths := congrArg List.length (stop.split.symm.trans parts)
    have shorter := whole.length_le
    have positive := List.length_pos_of_mem mem
    simp only [List.length_append, List.length_nil] at lengths
    omega
  obtain ⟨w, found⟩ := List.exists_mem_of_ne_nil _ (stop.filled some_ goesOn)
  obtain ⟨e, inside, nearest_⟩ := mem_nearest_iff.mp (List.mem_reverse.mpr found)
  refine ⟨w, ?_, fun all => ?_⟩
  · rw [stop.found]
    exact List.mem_reverse.mpr found
  · obtain ⟨e', inside', least_⟩ := mem_nearest_iff.mp all
    have held : (w, e) ∈ t := stop.split ▸ List.mem_append_left back inside
    obtain rfl := Table.entry_unique sorted held inside'
    have far : d ≤ distance w e := smallest.2 ⟨nearest_.1.1, (w, e), whole.subset inside, rfl⟩
    have near : distance w e ≤ distance item.1 item.2 :=
      least_.2 ⟨counts, item, parts ▸ List.mem_append_right part mem, rfl⟩
    omega

theorem nearest_limit_eq (some_ : k ≠ 0) (right : ¬ StopsEarly distance least k t) :
    (nearest distance least (some k) {} t).words.reverse =
      (nearest distance least none {} t).words.reverse.take k := by
  obtain ⟨front, back, stop⟩ :=
    exists_stop distance least (n := {}) (Nat.pos_of_ne_zero some_) t
  have few := stop.length_le
  rw [stop.found]
  by_cases goesOn : back = []
  · have whole : front = t := by rw [stop.split, goesOn, List.append_nil]
    rw [whole] at few ⊢
    rw [List.take_of_length_le (by rwa [List.length_reverse])]
  · have reached := stop.reached goesOn
    obtain ⟨d, smallest⟩ := exists_isLeast (stop.filled some_ goesOn)
    have farther : ∀ item ∈ back, least ≤ distance item.1 item.2 →
        d ≤ distance item.1 item.2 := by
      intro item mem counts
      by_contra nearer
      refine right ⟨front, back, d, stop.split, smallest, ?_, item, mem, counts, by omega⟩
      rw [← length_eq_of_isLeast smallest, reached]
    -- What comes after the stop adds words behind those found and takes none away.
    have beginning := words_append smallest farther
    rw [← stop.split] at beginning
    have cut := List.prefix_iff_eq_take.mp beginning
    rwa [List.length_reverse, reached] at cut

theorem nearest_beyond (filled : n.words ≠ []) (t : Table) :
    nearest distance least (some 0) n t = nearest distance least none n t := by
  induction t generalizing n with
  | nil => rfl
  | cons item rest ih =>
    -- Another word takes the place of those found, or is added to them.
    have kept : (n.add least item.1 (distance item.1 item.2)).words ≠ [] := by
      unfold Nearest.add
      split
      · exact List.cons_ne_nil _ _
      · split
        · exact List.cons_ne_nil _ _
        · exact filled
    have goesOn : nearest distance least (some 0) n (item :: rest) =
        nearest distance least (some 0) (n.add least item.1 (distance item.1 item.2)) rest :=
      if_neg fun same => kept (List.length_eq_zero_iff.mp (Option.some.inj same).symm)
    rw [goesOn, ih kept]
    rfl

theorem nearest_zero_of_countsFirst (first : CountsFirst distance least t) :
    nearest distance least (some 0) {} t = nearest distance least none {} t := by
  obtain ⟨item, here, counts⟩ := first
  obtain ⟨rest, rfl⟩ := List.head?_eq_some_iff.mp here
  have added : ({} : Nearest).add least item.1 (distance item.1 item.2) =
      ⟨some (distance item.1 item.2), [item.1]⟩ := if_pos ⟨counts, rfl⟩
  simp only [nearest, added]
  exact nearest_beyond (List.cons_ne_nil _ _) rest

theorem nearest_zero_of_not_countsFirst (first : ¬ CountsFirst distance least t) :
    nearest distance least (some 0) {} t = {} := by
  cases t with
  | nil => rfl
  | cons item rest =>
    have passed : ¬ least ≤ distance item.1 item.2 := fun counts => first ⟨item, rfl, counts⟩
    simp [nearest, Nearest.add, passed]

theorem not_stopsEarly_nil : ¬ StopsEarly distance least k [] := by
  rintro ⟨front, back, d, parts, _, _, item, mem, _⟩
  rw [(List.append_eq_nil_iff.mp parts.symm).2] at mem
  cases mem

theorem not_stopsEarly_zero : ¬ StopsEarly distance least 0 t := by
  rintro ⟨front, back, d, _, ⟨⟨_, item, mem, same⟩, _⟩, none_, _⟩
  have other := List.countP_eq_zero.mp none_ item mem
  exact other (decide_eq_true same)

theorem nearest_ne_nil (first : CountsFirst distance least t) :
    (nearest distance least none {} t).words ≠ [] := by
  obtain ⟨item, here, counts⟩ := first
  have some_ : (distances distance least t).Nonempty :=
    ⟨_, counts, item, List.mem_of_head? here, rfl⟩
  have smallest : IsLeast (distances distance least t) (sInf (distances distance least t)) :=
    ⟨Nat.sInf_mem some_, fun _ held => Nat.sInf_le held⟩
  obtain ⟨_, nearest_, mem, same⟩ := smallest.1
  have found := mem_nearest_iff.mpr ⟨nearest_.2, mem, same ▸ smallest⟩
  exact List.ne_nil_of_mem (List.mem_reverse.mp found)

/-- A limit cuts the list off exactly if the search does not stop early and does not go past a limit
of zero. -/
theorem nearest_take_iff (sorted : t.Pairwise (·.1 < ·.1)) (k : Nat) :
    (nearest distance least (some k) {} t).words.reverse =
        (nearest distance least none {} t).words.reverse.take k ↔
      ¬ StopsEarly distance least k t ∧ (k = 0 → ¬ CountsFirst distance least t) := by
  by_cases zero : k = 0
  · subst zero
    by_cases first : CountsFirst distance least t
    · simp [nearest_zero_of_countsFirst first, nearest_ne_nil first, first]
    · simp [nearest_zero_of_not_countsFirst first, not_stopsEarly_zero, first]
  · constructor
    · intro cut
      refine ⟨fun early => ?_, fun none_ => absurd none_ zero⟩
      obtain ⟨w, found, far⟩ := exists_farther sorted zero early
      exact far (List.mem_of_mem_take (cut ▸ found))
    · exact fun right => nearest_limit_eq zero right.1

theorem forall_mem_nearest_iff (sorted : t.Pairwise (·.1 < ·.1)) (k : Nat) :
    (∀ w ∈ (nearest distance least (some k) {} t).words.reverse,
        w ∈ (nearest distance least none {} t).words.reverse) ↔
      ¬ StopsEarly distance least k t := by
  by_cases zero : k = 0
  · subst zero
    refine iff_of_true (fun w found => ?_) not_stopsEarly_zero
    by_cases first : CountsFirst distance least t
    · rwa [nearest_zero_of_countsFirst first] at found
    · rw [nearest_zero_of_not_countsFirst first] at found
      cases found
  · constructor
    · intro all early
      obtain ⟨w, found, far⟩ := exists_farther sorted zero early
      exact far (all w found)
    · intro right w found
      rw [nearest_limit_eq zero right] at found
      exact List.mem_of_mem_take found

/- Queries for similar words. -/

/-- The distance by which a query compares words, if it does. The empty word is compared with none,
and a word that is not in the table has no sounds. -/
def Query.distance? (l : Lexicon) : Query → Option (String → Entry → Nat)
  | spellsLike word => if word = "" then none else some (letterDistance word)
  | soundsLike word => if word = "" then none else (l.find? word).map soundDistance
  | search _ | rhymes _ | alliterations _ => none

/-- The query asks for the words that are similar to the given one in one respect. -/
def Query.AsksSimilar (o : SearchOptions) (word : String) (q : Query) : Prop :=
  q = .spellsLike word ∨ q = .soundsLike word ∧ o.matchSpelling = false

variable {l : Lexicon} {o : SearchOptions} {word : String} {q : Query}

theorem answer_spellsLike (l : Lexicon) (o : SearchOptions) (r : Run) (limit : Option Nat) :
    Query.answer l o r (.spellsLike word) limit = if word = "" then .ok [] else
      (l.ask l.fatal r fun t r => (.ok (t.similar word (o.withLimit limit) .letters), r)).1 := by
  rw [Query.answer, Query.ask, spellsLike]
  split <;> rfl

theorem answer_soundsLike (l : Lexicon) (plain : o.matchSpelling = false) (r : Run)
    (limit : Option Nat) :
    Query.answer l o r (.soundsLike word) limit = if word = "" then .ok [] else
      (l.ask l.fatal r fun t r => (.ok (t.similar word (o.withLimit limit) .sounds), r)).1 := by
  have plain : (o.withLimit limit).matchSpelling = false := plain
  rw [Query.answer, Query.ask, soundsLike]
  split <;> simp [plain]

theorem exists_nearest_of_asksSimilar (l : Lexicon) (similar : q.AsksSimilar o word) (r : Run) :
    (l.table = none ∧ ∃ e, ∀ limit, q.answer l o r limit = .error e) ∨
    (q.distance? l = none ∧ ∀ limit, q.answer l o r limit = .ok []) ∨
    ∃ distance, q.distance? l = some distance ∧ ∀ limit, q.answer l o r limit =
      .ok (nearest distance (max o.minDistance 1) limit {}
        ((l.table.getD []).candidates (Unicode.lowercase word) o)).words.reverse := by
  have asked := exists_ask (α := List String) l r
  obtain rfl | ⟨rfl, plain⟩ := similar
  · simp only [answer_spellsLike, Query.distance?]
    by_cases empty : word = ""
    · exact .inr (.inl ⟨if_pos empty, fun limit => if_pos empty⟩)
    simp only [if_neg empty]
    rcases asked with ⟨absent, e, fails⟩ | ⟨r', answers⟩
    · exact .inl ⟨absent, e, fun limit => fails _⟩
    · refine .inr (.inr ⟨letterDistance word, rfl, fun limit => ?_⟩)
      rw [answers, similar_letters]
      rfl
  · simp only [answer_soundsLike l plain, Query.distance?]
    by_cases empty : word = ""
    · exact .inr (.inl ⟨if_pos empty, fun limit => if_pos empty⟩)
    simp only [if_neg empty]
    rcases asked with ⟨absent, e, fails⟩ | ⟨r', answers⟩
    · exact .inl ⟨absent, e, fun limit => fails _⟩
    · cases known : l.find? word with
      | none =>
        refine .inr (.inl ⟨rfl, fun limit => ?_⟩)
        rw [find?_eq_getD] at known
        rw [answers, similar_sounds_of_unknown known]
      | some e =>
        refine .inr (.inr ⟨soundDistance e, rfl, fun limit => ?_⟩)
        rw [find?_eq_getD] at known
        rw [answers, similar_sounds known]
        rfl

/-- With a limit, the similar words are the first of those without one exactly if the search does not
stop early and does not go past a limit of zero; and all of them are nearest words exactly if it does
not stop early. -/
theorem limit_truncates_similar_iff (loaded : (l.table.getD []).Loaded)
    (similar : q.AsksSimilar o word) (r : Run) (k : Nat) :
    let least := max o.minDistance 1
    let compared := (l.table.getD []).candidates (Unicode.lowercase word) o
    (q.answer l o r (some k) = (q.answer l o r none).map (List.take k) ↔
      ∀ distance ∈ q.distance? l, ¬ StopsEarly distance least k compared ∧
        (k = 0 → ¬ CountsFirst distance least compared)) ∧
    ((∀ words, q.answer l o r (some k) = .ok words → ∀ c ∈ words, ∃ distance ∈ q.distance? l,
        IsNearest (l.table.getD []) word o distance c) ↔
      ∀ distance ∈ q.distance? l, ¬ StopsEarly distance least k compared) := by
  intro least compared
  have sorted : compared.Pairwise (·.1 < ·.1) := loaded.pairwise.filter _
  rcases exists_nearest_of_asksSimilar l similar r with
    ⟨absent, e, fails⟩ | ⟨none_, nothing⟩ | ⟨distance, some_, found⟩
  · have nothing : compared = [] := by simp [compared, absent, Table.candidates]
    simp [fails, nothing, not_stopsEarly_nil, CountsFirst, Except.map]
  · simp [none_, nothing, Except.map]
  · simp only [some_, found, Except.map, Except.ok.injEq, forall_eq', Option.mem_some_iff,
      exists_eq_left', ← (lists_nearest loaded.pairwise distance).2]
    exact ⟨nearest_take_iff sorted k, forall_mem_nearest_iff sorted k⟩

/-- Among `dog` and `hat`, in this order, the search for one word like `cat` stops at `dog`, and the
search for two words goes on to `hat`. -/
theorem limit_truncates_similar_iff_of_dog_before_hat :
    let dog : String × Entry := ("dog", ⟨"d-ao1-g", "nn"⟩)
    let hat : String × Entry := ("hat", ⟨"hh-ae1-t", "nn"⟩)
    let l : Lexicon := { table := some [("cat", ⟨"k-ae1-t", "nn"⟩), dog, hat] }
    let similar : Query := .spellsLike "cat"
    ((l.table.getD []).Loaded ∧ similar.AsksSimilar {} "cat") ∧
      ∀ r, similar.answer l {} r none = .ok ["hat"] ∧
        (StopsEarly (letterDistance "cat") 1 1 [dog, hat] ∧
          similar.answer l {} r (some 1) ≠ .ok ["hat"]) ∧
        ¬ StopsEarly (letterDistance "cat") 1 2 [dog, hat] ∧
          similar.answer l {} r (some 2) = .ok ["hat"] := by
  intro dog hat l similar
  have loaded : (l.table.getD []).Loaded := Table.loaded_of_pairwise (by decide)
  have asks : similar.AsksSimilar {} "cat" := .inl rfl
  have compared : (l.table.getD []).candidates (Unicode.lowercase "cat") {} = [dog, hat] := by
    decide +kernel
  have listed : (l.table.getD []).similar "cat" {} .letters = ["hat"] := by decide +kernel
  have two : (l.table.getD []).similar "cat" { limit := some 2 } .letters = ["hat"] := by
    decide +kernel
  refine ⟨⟨loaded, asks⟩, fun r => ?_⟩
  have all : similar.answer l {} r none = .ok ["hat"] := congrArg Except.ok listed
  have both : similar.answer l {} r (some 2) = .ok ["hat"] := congrArg Except.ok two
  have early : StopsEarly (letterDistance "cat") 1 1 [dog, hat] := by
    refine ⟨[dog], [hat], 3, rfl,
      ⟨⟨by decide, dog, List.mem_singleton_self _, by decide +kernel⟩, ?_⟩, by decide +kernel,
      hat, List.mem_singleton_self _, by decide +kernel⟩
    rintro _ ⟨_, item, mem, rfl⟩
    rw [List.mem_singleton.mp mem]
    decide +kernel
  have one := (limit_truncates_similar_iff loaded asks r 1).1
  have more := (limit_truncates_similar_iff loaded asks r 2).1
  rw [all, compared] at one more
  refine ⟨all, ⟨early, fun cut => ?_⟩, ?_, both⟩
  · exact (one.mp cut _ rfl).1 early
  · exact (more.mp both _ rfl).1

/-- With a limit of one, `dog` is returned for `cat` and not `hat`. -/
theorem not_all_similar_limits_truncate :
    ¬ ∀ (l : Lexicon) (q : Query) (word : String) (o : SearchOptions) (r : Run) (k : Nat),
      (l.table.getD []).Loaded → q.AsksSimilar o word →
      q.answer l o r (some k) = (q.answer l o r none).map (List.take k) := by
  intro all
  let t : Table := [("cat", ⟨"k-ae1-t", "nn"⟩), ("dog", ⟨"d-ao1-g", "nn"⟩),
    ("hat", ⟨"hh-ae1-t", "nn"⟩)]
  let l : Lexicon := { table := some t }
  have listed : Query.answer l {} default (.spellsLike "cat") none = .ok ["hat"] := by
    decide +kernel
  have first : Query.answer l {} default (.spellsLike "cat") (some 1) = .ok ["dog"] := by
    decide +kernel
  have claimed := all l (.spellsLike "cat") "cat" {} default 1
    (Table.loaded_of_pairwise (by decide)) (.inl rfl)
  rw [listed, first] at claimed
  have same : ["dog"] = ["hat"].take 1 := Except.ok.inj claimed
  exact absurd same (by decide)

end TextGen.Lexicon
