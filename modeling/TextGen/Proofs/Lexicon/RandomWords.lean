import Mathlib
import TextGen.Lexicon.RandomWord
import TextGen.Proofs.Lexicon.Collecting
import TextGen.Proofs.Random.Drawn

/-! Which words are drawn at random.
The table is searched once around from the place that is drawn, so whether a word is found does not
depend on this place, and each word that will do is found from its own place. -/
namespace TextGen.Lexicon

variable {f : Word.Morphology} {o : SearchOptions} {word form : String} {e : Entry} {t : Table}

/-- Whether the length of a word is within the bounds, of which the lower one is 4 if it is not set. -/
def SearchOptions.Spans (o : SearchOptions) (word : String) : Prop :=
  o.minLength.getD 4 ≤ word.length ∧ ∀ most, o.maxLength = some most → word.length ≤ most

def formFor (f : Word.Morphology) (pos word : String) : String :=
  if pos = "nns" then f.pluralize word
  else if pos.toList.head? = some 'v' ∧ 2 < pos.utf8ByteSize then conjugated f word pos
  else word

/-- The form in which a word of the table is returned. -/
def wantedForm (f : Word.Morphology) (o : SearchOptions) (word : String) : String :=
  match o.pos with
  | none => word
  | some pos => formFor f pos word

/-- An item of the table whose word will do. -/
structure Eligible (f : Word.Morphology) (o : SearchOptions) (item : String × Entry) : Prop where
  spans : o.Spans item.1
  syllables : ∀ n, o.syllables? = some n → item.2.syllableCount = n
  tag : ∀ target, o.target? = some target → item.2.firstPos = target.pos
  countable : o.pos = some "nns" → isMassNoun item.1 item.2 = false
  keeps : ∀ n, o.syllables? = some n → wantedForm f o item.1 ≠ item.1 →
    (Text.splitOn '/' (f.syllables (wantedForm f o item.1)).toList).length = n

/- The form of a word. -/

theorem accepts_iff : o.accepts 4 word e = true ↔
    o.Spans word ∧ ∀ n, o.syllables? = some n → e.syllableCount = n := by
  rw [SearchOptions.accepts, SearchOptions.Spans]
  cases o.maxLength <;> cases o.syllables? <;> simp

theorem inflected?_ofPos (f : Word.Morphology) (pos word : String) (e : Entry) :
    inflected? f (Target.ofPos pos).inflection word e =
      if pos = "nns" ∧ isMassNoun word e = true then none else some (formFor f pos word) := by
  by_cases plural : pos = "nns"
  · subst plural
    have target : (Target.ofPos "nns").inflection = .plural := by decide
    simp [target, inflected?, formFor]
  · rw [Target.ofPos, formFor]
    simp only [plural, false_and, if_false]
    split
    · rename_i rest spelled
      simp [inflected?, spelled]
    · rename_i rest spelled
      by_cases long : 2 < pos.utf8ByteSize
      · simp [inflected?, spelled, long]
      · simp [inflected?, spelled, long]
    · rename_i spelled
      simp [inflected?, spelled]
    · rename_i spelled
      simp [inflected?, spelled]
    · rename_i other _ _
      have none_ : pos.toList.head? ≠ some 'v' := by
        intro first
        obtain ⟨rest, spelled⟩ := List.head?_eq_some_iff.mp first
        exact other _ spelled
      simp [inflected?, none_]

theorem keepsSyllables_iff : keepsSyllables f o word form = true ↔
    ∀ n, o.syllables? = some n → form ≠ word →
      (Text.splitOn '/' (f.syllables form).toList).length = n := by
  rw [keepsSyllables]
  cases o.syllables? with
  | none => simp
  | some n => simp [or_iff_not_imp_left]

theorem wantedForm_of_untargeted (untargeted : o.target? = none) : wantedForm f o word = word := by
  rw [SearchOptions.target?, Option.map_eq_none_iff, Option.filter_eq_none_iff] at untargeted
  rw [wantedForm]
  split
  · rfl
  · rename_i pos asked
    have empty : pos = "" := by simpa using untargeted pos asked
    rw [empty]
    rfl

theorem exists_pos_of_target? {target : Target} (targeted : o.target? = some target) :
    ∃ pos, o.pos = some pos ∧ target = Target.ofPos pos := by
  obtain ⟨pos, asked, rfl⟩ := Option.map_eq_some_iff.mp targeted
  exact ⟨pos, (Option.filter_eq_some_iff.mp asked).1, rfl⟩

theorem target?_of_plural (asked : o.pos = some "nns") : o.target? = some (Target.ofPos "nns") := by
  rw [SearchOptions.target?, asked]
  rfl

theorem eligible_of_untargeted (accepted : o.accepts 4 word e = true)
    (untargeted : o.target? = none) : Eligible f o (word, e) := by
  obtain ⟨spans, syllables⟩ := accepts_iff.mp accepted
  refine ⟨spans, syllables, by simp [untargeted], fun plural => ?_, ?_⟩
  · simp [target?_of_plural plural] at untargeted
  · simp [wantedForm_of_untargeted untargeted]

theorem eligible_iff {pos : String} (accepted : o.accepts 4 word e = true)
    (asked : o.pos = some pos) (targeted : o.target? = some (Target.ofPos pos)) :
    Eligible f o (word, e) ↔ e.firstPos = (Target.ofPos pos).pos ∧
      ¬ (pos = "nns" ∧ isMassNoun word e = true) ∧
        keepsSyllables f o word (formFor f pos word) = true := by
  obtain ⟨spans, syllables⟩ := accepts_iff.mp accepted
  have wanted : wantedForm f o word = formFor f pos word := by rw [wantedForm, asked]
  rw [keepsSyllables_iff, ← wanted]
  constructor
  · intro eligible
    refine ⟨eligible.tag _ targeted, ?_, eligible.keeps⟩
    rintro ⟨rfl, mass⟩
    simp [eligible.countable asked] at mass
  · rintro ⟨tag, countable, keeps⟩
    refine ⟨spans, syllables, fun target found => ?_, fun plural => ?_, keeps⟩
    · obtain rfl := Option.some.inj (targeted.symm.trans found)
      exact tag
    · obtain rfl := Option.some.inj (asked.symm.trans plural)
      simpa using countable

theorem form?_eq_some_iff :
    form? f o word e = some form ↔ Eligible f o (word, e) ∧ form = wantedForm f o word := by
  cases accepted : o.accepts 4 word e with
  | false =>
    have refused : form? f o word e = none := by simp [form?, accepted]
    have ineligible : ¬ Eligible f o (word, e) := fun eligible => by
      simp [accepts_iff.mpr ⟨eligible.spans, eligible.syllables⟩] at accepted
    simp [refused, ineligible]
  | true =>
    cases targeted : o.target? with
    | none =>
      have eligible : Eligible f o (word, e) := eligible_of_untargeted accepted targeted
      simp [form?, accepted, targeted, wantedForm_of_untargeted targeted, eligible, eq_comm]
    | some target =>
      obtain ⟨pos, asked, rfl⟩ := exists_pos_of_target? targeted
      have wanted : wantedForm f o word = formFor f pos word := by rw [wantedForm, asked]
      rw [eligible_iff accepted asked targeted, wanted]
      simp only [form?, accepted, targeted, inflected?_ofPos]
      by_cases tag : e.firstPos = (Target.ofPos pos).pos
      · -- A mass noun has no plural; every other word is inflected, and its syllables are counted.
        by_cases mass : pos = "nns" ∧ isMassNoun word e = true
        · simp [tag, mass]
        · simp only [Bool.not_true, Bool.false_eq_true, ↓reduceIte, tag, ne_eq, not_true_eq_false,
            mass, Option.filter_eq_some_iff, Option.some.injEq, not_false_eq_true, true_and]
          constructor
          · rintro ⟨rfl, keeps⟩
            exact ⟨keeps, rfl⟩
          · rintro ⟨keeps, rfl⟩
            exact ⟨rfl, keeps⟩
      · simp [tag]

/- Going round the table. -/

/-- The first item with a property from `start` on, going round the table once. -/
def FirstFrom (property : String × Entry → Prop) (t : Table) (start : Nat)
    (item : String × Entry) : Prop :=
  ∃ j < t.length, t[(start + j) % t.length]? = some item ∧ property item ∧
    ∀ i < j, ∀ other, t[(start + i) % t.length]? = some other → ¬ property other

theorem firstFrom_of_findSome? {α : Type} {g : String × Entry → Option α} {start : Nat} {a : α}
    (found : (t.rotate start).findSome? g = some a) :
    ∃ item, FirstFrom (fun item => g item ≠ none) t start item ∧ g item = some a := by
  obtain ⟨before, item, after, parts, here, none_⟩ := List.findSome?_eq_some_iff.mp found
  -- The place of the item in the turned table is the number of items passed on the way.
  have length : t.length = before.length + after.length + 1 := by
    rw [← List.length_rotate t start, parts]
    simp; omega
  have at_ (i : Nat) (inside : i < t.length) :
      t[(start + i) % t.length]? = (before ++ item :: after)[i]? := by
    rw [← parts, List.getElem?_rotate inside, Nat.add_comm]
  refine ⟨item, ⟨before.length, by omega, ?_, by simp [here], ?_⟩, here⟩
  · rw [at_ _ (by omega)]
    simp
  · intro i less other stands
    rw [at_ _ (by omega), List.getElem?_append_left less] at stands
    simp [none_ other (List.mem_of_getElem? stands)]

variable {l : Lexicon}

/-- The place from which the table is searched. -/
def startOf (t : Table) (r : Run) : Nat := (r.source.below t.length).1

theorem answer_randomWord (holds : l.table = some t) (o : SearchOptions) (r : Run) :
    (l.randomWord o r).1 =
      match (t.rotate (startOf t r)).findSome? fun item => form? l.morphology o item.1 item.2 with
      | some form => .ok form
      | none => .error (.noRandomWord o) := by
  have inside : startOf t r ≤ t.length := by
    rw [startOf]
    cases t with
    | nil => exact Nat.le_refl 0
    | cons item rest => exact (r.source.below_lt _ (Nat.succ_pos _)).le
  rw [randomWord, ask_of_table holds, List.rotate_eq_drop_append_take inside]
  simp only [Table.randomWord, Run.draw, startOf]
  generalize List.findSome? _ _ = found
  cases found <;> rfl

theorem form?_ne_none_iff : form? f o word e ≠ none ↔ Eligible f o (word, e) := by
  rw [Option.ne_none_iff_exists']
  constructor
  · rintro ⟨form, given⟩
    exact (form?_eq_some_iff.mp given).1
  · exact fun eligible => ⟨_, form?_eq_some_iff.mpr ⟨eligible, rfl⟩⟩

theorem exists_answer_randomWord (holds : l.table = some t) (o : SearchOptions) (r : Run) :
    ((∀ item ∈ t, ¬ Eligible l.morphology o item) ∧
      (l.randomWord o r).1 = .error (.noRandomWord o)) ∨
    ∃ item, FirstFrom (Eligible l.morphology o) t (startOf t r) item ∧
      (l.randomWord o r).1 = .ok (wantedForm l.morphology o item.1) := by
  rw [answer_randomWord holds]
  cases found : (t.rotate (startOf t r)).findSome? fun item =>
      form? l.morphology o item.1 item.2 with
  | none =>
    refine .inl ⟨fun item mem eligible => ?_, rfl⟩
    have refused := List.findSome?_eq_none_iff.mp found item (List.mem_rotate.mpr mem)
    exact form?_ne_none_iff.mpr eligible refused
  | some form =>
    obtain ⟨item, first, given⟩ := firstFrom_of_findSome? found
    simp only [form?_ne_none_iff] at first
    refine .inr ⟨item, first, ?_⟩
    rw [(form?_eq_some_iff.mp given).2]

theorem firstFrom_self {property : String × Entry → Prop} {i : Nat} (inside : i < t.length)
    (holds : property t[i]) {item : String × Entry} (first : FirstFrom property t i item) :
    item = t[i] := by
  obtain ⟨j, _, here, _, before⟩ := first
  have start : (i + 0) % t.length = i := Nat.mod_eq_of_lt inside
  have self : t[(i + 0) % t.length]? = some t[i] := by
    rw [start]
    exact List.getElem?_eq_getElem inside
  cases j with
  | zero => exact Option.some.inj (here.symm.trans self)
  | succ j => exact absurd holds (before 0 (Nat.succ_pos j) _ self)

theorem exists_start (few : t.length ≤ UInt64.size) {i : Nat} (inside : i < t.length) :
    ∃ r, startOf t r = i := by
  obtain ⟨w, draws⟩ := Source.below_reaches t.length i inside few
  exact ⟨⟨⟨[w], 0⟩, []⟩, congrArg Prod.fst (draws [] 0)⟩

theorem answer_of_start (holds : l.table = some t) {i : Nat} (inside : i < t.length)
    (eligible : Eligible l.morphology o t[i]) {r : Run} (start : startOf t r = i) :
    (l.randomWord o r).1 = .ok (wantedForm l.morphology o t[i].1) := by
  rcases exists_answer_randomWord holds o r with ⟨none_, _⟩ | ⟨item, first, found⟩
  · exact absurd eligible (none_ _ (List.getElem_mem inside))
  · rw [start] at first
    rwa [firstFrom_self inside eligible first] at found

/-- A random word is found from every start if a word of the table is eligible, and then it is the
wanted form of the first such word from the start on. Each eligible word is the first one from its own
place, and every place is drawn with some random words. -/
theorem random_word_outcomes (holds : l.table = some t) (o : SearchOptions) :
    (∀ r, (l.randomWord o r).1 = .error (.noRandomWord o) ↔
      ∀ item ∈ t, ¬ Eligible l.morphology o item) ∧
    (∀ r, (∃ item ∈ t, Eligible l.morphology o item) →
      ∃ item, FirstFrom (Eligible l.morphology o) t (startOf t r) item ∧
        (l.randomWord o r).1 = .ok (wantedForm l.morphology o item.1)) ∧
    ∀ i (inside : i < t.length), Eligible l.morphology o t[i] →
      (∀ r, startOf t r = i →
        (l.randomWord o r).1 = .ok (wantedForm l.morphology o t[i].1)) ∧
      (t.length ≤ UInt64.size → ∃ r, startOf t r = i) := by
  refine ⟨fun r => ?_, fun r some_ => ?_,
    fun i inside eligible => ⟨fun r start => ?_, fun few => ?_⟩⟩
  · rcases exists_answer_randomWord holds o r with ⟨none_, fails⟩ | ⟨item, first, found⟩
    · exact iff_of_true fails none_
    · obtain ⟨j, _, here, eligible, _⟩ := first
      refine iff_of_false ?_ fun none_ => none_ item (List.mem_of_getElem? here) eligible
      simp [found]
  · rcases exists_answer_randomWord holds o r with ⟨none_, _⟩ | found
    · obtain ⟨item, mem, eligible⟩ := some_
      exact absurd eligible (none_ item mem)
    · exact found
  · exact answer_of_start holds inside eligible start
  · exact exists_start few inside

theorem random_word_outcomes_of_two_verbs :
    let have_ : String × Entry := ("have", ⟨"hh-ae1-v", "vb"⟩)
    let walk : String × Entry := ("walk", ⟨"w-ao1-k", "vb nn"⟩)
    let t : Table := [have_, walk, ("water", ⟨"w-ao1 t-er", "nn vb"⟩)]
    let l : Lexicon := { table := some t }
    let o : SearchOptions := { pos := some "vbz" }
    l.table = some t ∧ (∀ r, (l.randomWord o r).1 ≠ .error (.noRandomWord o)) ∧
      (∃ r, (l.randomWord o r).1 = .ok "has") ∧ ∃ r, (l.randomWord o r).1 = .ok "walks" := by
  intro have_ walk t l o
  have first : Eligible l.morphology o have_ := form?_ne_none_iff.mp (by decide +kernel)
  have second : Eligible l.morphology o walk := form?_ne_none_iff.mp (by decide +kernel)
  have has : wantedForm l.morphology o "have" = "has" := by decide +kernel
  have walks : wantedForm l.morphology o "walk" = "walks" := by decide +kernel
  have few : t.length ≤ UInt64.size := by decide
  obtain ⟨fails, _, places⟩ := random_word_outcomes (l := l) (t := t) rfl o
  refine ⟨rfl, fun r failed => (fails r).mp failed have_ List.mem_cons_self first, ?_, ?_⟩
  · obtain ⟨found, reached⟩ := places 0 (by decide) first
    obtain ⟨r, start⟩ := reached few
    exact ⟨r, has ▸ found r start⟩
  · obtain ⟨found, reached⟩ := places 1 (by decide) second
    obtain ⟨r, start⟩ := reached few
    exact ⟨r, walks ▸ found r start⟩

end TextGen.Lexicon
