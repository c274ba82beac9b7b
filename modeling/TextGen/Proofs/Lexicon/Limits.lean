import Mathlib
import TextGen.Proofs.Lexicon.Answers

/-! What a limit does to the list of a query.
The number of the words found is compared with the limit after each accepted word. From one on, no
limit can be jumped over, and the list is cut off there. A limit of zero has already been jumped over
if the very first accepted word is found; then it is no limit at all. -/
namespace TextGen.Lexicon

variable {l : Lexicon} {o : SearchOptions} {test : String → Entry → Bool} {t : Table} {n k : Nat}

def SearchOptions.withLimit (o : SearchOptions) (limit : Option Nat) : SearchOptions :=
  { o with limit }

@[simp] theorem SearchOptions.limit_withLimit (o : SearchOptions) (limit : Option Nat) :
    (o.withLimit limit).limit = limit := rfl

@[simp] theorem SearchOptions.accepts_withLimit (o : SearchOptions) (limit : Option Nat) :
    (o.withLimit limit).accepts = o.accepts := rfl

@[simp] theorem SearchOptions.searchType_withLimit (o : SearchOptions) (limit : Option Nat) :
    (o.withLimit limit).searchType = o.searchType := rfl

def SearchOptions.accepted (o : SearchOptions) (t : Table) : Table :=
  t.filter fun item => o.accepts 3 item.1 item.2

theorem collect_eq_filter_accepted (free : o.limit = none) (test : String → Entry → Bool) (n : Nat)
    (t : Table) :
    collect o test n t = ((o.accepted t).filter fun item => test item.1 item.2).map (·.1) := by
  rw [collect_unlimited free, SearchOptions.accepted, List.filter_filter]
  simp only [Bool.and_comm]

/- Collecting up to a limit. -/

theorem collect_limit (below : n < k) (t : Table) :
    collect (o.withLimit (some k)) test n t =
      (collect (o.withLimit none) test n t).take (k - n) := by
  -- The number of the words found grows by one at most, so it meets the limit before it passes it.
  induction t generalizing n with
  | nil => exact List.take_nil.symm
  | cons item rest ih =>
    cases accepted : o.accepts 3 item.1 item.2 with
    | false => simp [collect, accepted, ih below]
    | true =>
      cases passed : test item.1 item.2 with
      | false =>
        have apart : k ≠ n := by omega
        simp [collect, accepted, passed, apart, ih below]
      | true =>
        have left : k - n = k - (n + 1) + 1 := by omega
        by_cases last : k = n + 1
        · simp [collect, accepted, passed, last]
        · have next : n + 1 < k := by omega
          simp [collect, accepted, passed, last, left, ih next]

theorem collect_beyond (beyond : k < n) (t : Table) :
    collect (o.withLimit (some k)) test n t = collect (o.withLimit none) test n t := by
  induction t generalizing n with
  | nil => rfl
  | cons item rest ih =>
    have here : k ≠ n := by omega
    have next : k ≠ n + 1 := by omega
    have later : k < n + 1 := by omega
    simp [collect, here, next, ih beyond, ih later]

theorem collect_zero (t : Table) :
    collect (o.withLimit (some 0)) test 0 t =
      if (o.accepted t).head?.any fun item => test item.1 item.2 then
        collect (o.withLimit none) test 0 t
      else [] := by
  induction t with
  | nil => rfl
  | cons item rest ih =>
    obtain ⟨word, e⟩ := item
    cases accepted : o.accepts 3 word e with
    | false =>
      -- The limit is not looked at here, so the rest of the table decides.
      have same : o.accepted ((word, e) :: rest) = o.accepted rest := by
        simp [SearchOptions.accepted, accepted]
      simp [collect, accepted, same, ih]
    | true =>
      have first : (o.accepted ((word, e) :: rest)).head? = some (word, e) := by
        simp [SearchOptions.accepted, accepted]
      cases passed : test word e with
      | false => simp [collect, accepted, passed, first]
      | true => simp [collect, accepted, passed, first, collect_beyond (k := 0) (n := 1)]

theorem collect_nothing (t : Table) : collect o (fun _ _ => false) n t = [] := by
  induction t with
  | nil => rfl
  | cons item rest ih => simp [collect, ih]

/- Queries that collect. -/

/-- What a query answers with a limit put into the options. -/
def Query.answer (l : Lexicon) (o : SearchOptions) (r : Run) (q : Query) (limit : Option Nat) :
    Except Error (List String) :=
  (q.ask l (o.withLimit limit) r).1

/-- The items that a query goes through to list those that pass a test: all, or those of the other
words. Queries for similar words compare the items with each other. -/
def Query.scope? (t : Table) : Query → Option Table
  | search _ => some t
  | rhymes word | alliterations word => some (t.filter (·.1 ≠ Unicode.lowercase word))
  | soundsLike _ | spellsLike _ => none

def FindsFirst (o : SearchOptions) (t : Table) (answer : Except Error (List String)) : Prop :=
  ∃ words, answer = .ok words ∧ ∃ first ∈ (o.accepted t).head?, first.1 ∈ words

theorem Table.exists_search (t : Table) (pattern : String) (o : SearchOptions) :
    (∃ e, ∀ limit, t.search pattern (o.withLimit limit) = .error e) ∨
      ∃ test, ∀ limit, t.search pattern (o.withLimit limit) =
        .ok (collect (o.withLimit limit) test 0 t) := by
  simp only [Table.search, SearchOptions.searchType_withLimit]
  cases Pattern.ofText? (searchPattern o.searchType pattern) with
  | none => exact .inl ⟨_, fun _ => rfl⟩
  | some p => exact .inr ⟨_, fun _ => rfl⟩

theorem Table.exists_rhymes (t : Table) (word : String) (o : SearchOptions) :
    ∃ test, ∀ limit, t.rhymes word (o.withLimit limit) =
      collect (o.withLimit limit) test 0 (t.filter (·.1 ≠ Unicode.lowercase word)) := by
  simp only [Table.rhymes]
  cases t.phones? (Unicode.lowercase word) with
  | none => exact ⟨fun _ _ => false, fun limit => (collect_nothing _).symm⟩
  | some phones => exact ⟨_, fun _ => rfl⟩

theorem Table.exists_alliterations (t : Table) (word : String) (o : SearchOptions) (r : Run) :
    ∃ test, ∀ limit, (t.alliterations word (o.withLimit limit) r).1 =
      collect (o.withLimit limit) test 0 (t.filter (·.1 ≠ Unicode.lowercase word)) := by
  simp only [Table.alliterations]
  split
  · exact ⟨fun _ _ => false, fun limit => (collect_nothing _).symm⟩
  · cases (t.phones? (Unicode.lowercase word)).bind onset? with
    | none => exact ⟨fun _ _ => false, fun limit => (collect_nothing _).symm⟩
    | some onset => exact ⟨_, fun _ => rfl⟩

theorem exists_ask {α : Type} (l : Lexicon) (r : Run) :
    (l.table = none ∧ ∃ e, ∀ question : Table → Run → Except Error α × Run,
      (l.ask l.fatal r question).1 = .error e) ∨
    ∃ r', ∀ question : Table → Run → Except Error α × Run,
      (l.ask l.fatal r question).1 = (question (l.table.getD []) r').1 := by
  cases holds : l.table with
  | some t => exact .inr ⟨r, fun question => by rw [ask_of_table holds, Option.getD_some]⟩
  | none =>
    simp only [ask, holds]
    split
    · exact .inl ⟨trivial, _, fun _ => rfl⟩
    · exact .inr ⟨_, fun _ => rfl⟩

theorem Query.exists_answer {q : Query} {s : Table}
    (scope : q.scope? (l.table.getD []) = some s) (o : SearchOptions) (r : Run) :
    (∃ e, ∀ limit, q.answer l o r limit = .error e) ∨
      ∃ test, ∀ limit, q.answer l o r limit = .ok (collect (o.withLimit limit) test 0 s) := by
  rcases exists_ask (α := List String) l r with ⟨_, e, fails⟩ | ⟨r', asks⟩
  · refine .inl ⟨e, fun limit => ?_⟩
    cases q with
    | search pattern | rhymes word | alliterations word => exact fails _
    | soundsLike word | spellsLike word => cases scope
  · cases q with
    | search pattern =>
      cases scope
      rcases (l.table.getD []).exists_search pattern o with ⟨e, fails⟩ | ⟨test, found⟩
      · exact .inl ⟨e, fun limit => (asks _).trans (fails limit)⟩
      · exact .inr ⟨test, fun limit => (asks _).trans (found limit)⟩
    | rhymes word =>
      cases scope
      obtain ⟨test, found⟩ := (l.table.getD []).exists_rhymes word o
      exact .inr ⟨test, fun limit => (asks _).trans (congrArg Except.ok (found limit))⟩
    | alliterations word =>
      cases scope
      obtain ⟨test, found⟩ := (l.table.getD []).exists_alliterations word o r'
      exact .inr ⟨test, fun limit => (asks _).trans (congrArg Except.ok (found limit))⟩
    | soundsLike word | spellsLike word => cases scope

theorem Query.pairwise_scope {q : Query} {s : Table} (sorted : t.Pairwise (·.1 < ·.1))
    (scope : q.scope? t = some s) : s.Pairwise (·.1 < ·.1) := by
  cases q with
  | search pattern => exact Option.some.inj scope ▸ sorted
  | rhymes word | alliterations word => exact Option.some.inj scope ▸ sorted.filter _
  | soundsLike word | spellsLike word => cases scope

theorem findsFirst_iff (sorted : t.Pairwise (·.1 < ·.1)) :
    FindsFirst o t (.ok (collect (o.withLimit none) test 0 t)) ↔
      (o.accepted t).head?.any (fun item => test item.1 item.2) = true := by
  constructor
  · rintro ⟨words, answered, first, here, found⟩
    cases answered
    -- A word stands only once in the table, so the item found is the first one.
    obtain ⟨e, inside, _, passed⟩ := mem_of_mem_collect found
    have held : first ∈ t := (List.mem_filter.mp (List.mem_of_head? here)).1
    obtain rfl := Table.entry_unique sorted inside held
    rw [here]
    exact passed
  · intro passes
    cases here : (o.accepted t).head? with
    | none => simp [here] at passes
    | some first =>
      rw [here] at passes
      obtain ⟨held, accepted⟩ := List.mem_filter.mp (List.mem_of_head? here)
      exact ⟨_, rfl, first, here, (mem_collect_iff rfl 0 t).mpr ⟨first.2, held, accepted, passes⟩⟩

/-- What a limit makes of a list, if `first` says that the first accepted item is found. -/
structure Cuts (first : Prop) (k : Nat) (words cut : List String) : Prop where
  take_iff : cut = words.take k ↔ k ≠ 0 ∨ ¬ first
  length_le_iff : cut.length ≤ k ↔ k ≠ 0 ∨ ¬ first
  eq_of_zero : k = 0 → first → cut = words

theorem cuts_collect (sorted : t.Pairwise (·.1 < ·.1)) (o : SearchOptions)
    (test : String → Entry → Bool) (k : Nat) :
    Cuts (FindsFirst o t (.ok (collect (o.withLimit none) test 0 t))) k
      (collect (o.withLimit none) test 0 t) (collect (o.withLimit (some k)) test 0 t) := by
  by_cases zero : k = 0
  · subst zero
    by_cases first : FindsFirst o t (.ok (collect (o.withLimit none) test 0 t))
    · have all : collect (o.withLimit (some 0)) test 0 t = collect (o.withLimit none) test 0 t := by
        rw [collect_zero, if_pos ((findsFirst_iff sorted).mp first)]
      have some_ : collect (o.withLimit none) test 0 t ≠ [] := by
        obtain ⟨words, answered, item, _, found⟩ := first
        exact List.ne_nil_of_mem (Except.ok.inj answered ▸ found)
      constructor <;> simp [all, some_, first]
    · have none_ : collect (o.withLimit (some 0)) test 0 t = [] := by
        rw [collect_zero, if_neg fun passes => first ((findsFirst_iff sorted).mpr passes)]
      constructor <;> simp [none_, first]
  · have cut : collect (o.withLimit (some k)) test 0 t =
        (collect (o.withLimit none) test 0 t).take k :=
      collect_limit (Nat.pos_of_ne_zero zero) t
    constructor <;> simp [cut, zero]

/-- With a limit the list is the beginning of the list without one, unless the limit is zero and the
first accepted word is found; then the limit has no effect. -/
theorem limit_truncates_iff (loaded : (l.table.getD []).Loaded) {q : Query} {s : Table}
    (scope : q.scope? (l.table.getD []) = some s) (o : SearchOptions) (r : Run) (k : Nat) :
    (q.answer l o r (some k) = (q.answer l o r none).map (List.take k) ↔
      k ≠ 0 ∨ ¬ FindsFirst o s (q.answer l o r none)) ∧
    ((∀ words, q.answer l o r (some k) = .ok words → words.length ≤ k) ↔
      k ≠ 0 ∨ ¬ FindsFirst o s (q.answer l o r none)) ∧
    (k = 0 → FindsFirst o s (q.answer l o r none) →
      q.answer l o r (some k) = q.answer l o r none) := by
  rcases q.exists_answer scope o r with ⟨e, fails⟩ | ⟨test, found⟩
  · simp [fails, FindsFirst, Except.map]
  · have cuts := cuts_collect (q.pairwise_scope loaded.pairwise scope) o test k
    simp only [found, Except.map, Except.ok.injEq, forall_eq']
    exact ⟨cuts.take_iff, cuts.length_le_iff, cuts.eq_of_zero⟩

theorem limit_truncates_iff_of_one_and_zero :
    let bat : String × Entry := ("bat", ⟨"b-ae1-t", "nn"⟩)
    let hat : String × Entry := ("hat", ⟨"hh-ae1-t", "nn"⟩)
    let l : Lexicon := { table := some [bat, ("cat", ⟨"k-ae1-t", "nn"⟩), hat] }
    let rhymes : Query := .rhymes "cat"
    ((l.table.getD []).Loaded ∧ rhymes.scope? (l.table.getD []) = some [bat, hat]) ∧
      ∀ r, rhymes.answer l {} r none = .ok ["bat", "hat"] ∧
        rhymes.answer l {} r (some 1) = .ok ["bat"] ∧
        rhymes.answer l {} r (some 0) = .ok ["bat", "hat"] := by
  intro bat hat l rhymes
  have loaded : (l.table.getD []).Loaded := Table.loaded_of_pairwise (by decide)
  have scope : rhymes.scope? (l.table.getD []) = some [bat, hat] := by decide +kernel
  have listed : Table.rhymes [bat, ("cat", ⟨"k-ae1-t", "nn"⟩), hat] "cat"
      (({} : SearchOptions).withLimit none) = ["bat", "hat"] := by decide +kernel
  refine ⟨⟨loaded, scope⟩, fun r => ?_⟩
  have all : rhymes.answer l {} r none = .ok ["bat", "hat"] := congrArg Except.ok listed
  have first : FindsFirst {} [bat, hat] (rhymes.answer l {} r none) :=
    ⟨_, all, bat, by decide +kernel, List.mem_cons_self⟩
  have one := (limit_truncates_iff loaded scope {} r 1).1.mpr (.inl one_ne_zero)
  have zero := (limit_truncates_iff loaded scope {} r 0).2.2 rfl first
  rw [all] at one zero
  exact ⟨all, one, zero⟩

theorem not_all_limits_truncate :
    ¬ ∀ (l : Lexicon) (q : Query) (s : Table) (o : SearchOptions) (r : Run) (k : Nat),
      (l.table.getD []).Loaded → q.scope? (l.table.getD []) = some s →
      q.answer l o r (some k) = (q.answer l o r none).map (List.take k) := by
  intro all
  let t : Table := [("bat", ⟨"b-ae1-t", "nn"⟩), ("cat", ⟨"k-ae1-t", "nn"⟩)]
  let l : Lexicon := { table := some t }
  have listed : Query.answer l {} default (.rhymes "cat") none = .ok ["bat"] := by decide +kernel
  have kept : Query.answer l {} default (.rhymes "cat") (some 0) = .ok ["bat"] := by decide +kernel
  have claimed := all l (.rhymes "cat") _ {} default 0 (Table.loaded_of_pairwise (by decide)) rfl
  rw [listed, kept] at claimed
  cases claimed

end TextGen.Lexicon
