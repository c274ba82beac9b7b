import Mathlib
import TextGen.Proofs.Text.Words
import TextGen.Word.Syllable

/-! The syllables of a word.
In order they are the word itself, and each of them has a vowel if there are several. A syllable
begins with a consonant between two vowels, the second right behind it and the first anywhere before
it. A consonant and a silent `e` at the end of a word are no syllable. -/
namespace TextGen.Word

variable {word current read rest front back piece last : List Char} {pieces : List (List Char)}
  {c : Char}

/-- A text with a vowel letter or a `y`. -/
def HasVowel (text : List Char) : Prop := ∃ c ∈ text, isVowelOrY c = true

/-- Whether a vowel has been seen when the beginning of a word is read. A `y` that the word starts
with is none. -/
def vowelSeen : List Char → Bool
  | [] => false
  | c :: rest => isVowel c || rest.any isVowelOrY

/-- Whether one part of a word has a vowel, and a consonant in front of a vowel starts the other. -/
def SyllableBegins (front back : List Char) : Prop :=
  vowelSeen front = true ∧
    ∃ c v rest, back = c :: v :: rest ∧ isVowelOrY c = false ∧ isVowelOrY v = true

/-- What is no syllable at the end of a word. -/
def IsSilentEnd (back : List Char) : Prop := ∃ c, c ≠ 'l' ∧ back = [c, 'e']

/-- Whether some of the pieces make up the first text and those behind them the second. -/
def PartedAt (pieces : List (List Char)) (front back : List Char) : Prop :=
  ∃ before after, before ≠ [] ∧ after ≠ [] ∧ pieces = before ++ after ∧
    before.flatten = front ∧ after.flatten = back

theorem hasVowel_iff {text : List Char} :
    HasVowel text ↔ ∃ c ∈ text, c.toLower ∈ vowels ∨ c = 'y' := by
  simp [HasVowel, isVowelOrY, isVowel]

theorem hasVowel_of_vowelSeen (seen : vowelSeen front = true) : HasVowel front := by
  cases front with
  | nil => cases seen
  | cons c front =>
    rw [vowelSeen, Bool.or_eq_true, List.any_eq_true] at seen
    rcases seen with vowel | ⟨d, mem, vowel⟩
    · exact ⟨c, List.mem_cons_self, by rw [isVowelOrY, vowel, Bool.true_or]⟩
    · exact ⟨d, List.mem_cons_of_mem c mem, vowel⟩

theorem vowelSeen_append (seen : vowelSeen front = true) (back : List Char) :
    vowelSeen (front ++ back) = true := by
  cases front with
  | nil => cases seen
  | cons c front =>
    rw [vowelSeen] at seen
    rw [List.cons_append, vowelSeen, List.any_append, ← Bool.or_assoc, seen, Bool.true_or]

theorem vowelSeen_concat : vowelSeen (current ++ [c]) =
    (vowelSeen current || (isVowel c || (c == 'y' && !current.isEmpty))) := by
  cases current with
  | nil => simp [vowelSeen]
  | cons d current => simp [vowelSeen, isVowelOrY, Bool.or_assoc]

/- Places between pieces. -/

theorem not_partedAt_of_short (short : pieces.length ≤ 1) : ¬ PartedAt pieces front back := by
  rintro ⟨before, after, someBefore, someAfter, rfl, -, -⟩
  have first := List.length_pos_iff.mpr someBefore
  have second := List.length_pos_iff.mpr someAfter
  rw [List.length_append] at short
  omega

theorem partedAt_cons_iff :
    PartedAt (piece :: pieces) front back ↔
      (pieces ≠ [] ∧ front = piece ∧ back = pieces.flatten) ∨
        ∃ more, front = piece ++ more ∧ PartedAt pieces more back := by
  constructor
  · rintro ⟨before, after, someBefore, someAfter, whole, rfl, rfl⟩
    obtain ⟨first, before, rfl⟩ := List.exists_cons_of_ne_nil someBefore
    obtain ⟨rfl, rfl⟩ := List.cons.inj whole
    cases before with
    | nil => exact .inl ⟨someAfter, List.flatten_singleton, rfl⟩
    | cons next before =>
      exact .inr ⟨_, rfl, next :: before, after, List.cons_ne_nil next before, someAfter, rfl, rfl,
        rfl⟩
  · rintro (⟨some_, rfl, rfl⟩ | ⟨more, rfl, before, after, someBefore, someAfter, rfl, rfl, rfl⟩)
    · exact ⟨[front], pieces, List.cons_ne_nil front [], some_, rfl, List.flatten_singleton, rfl⟩
    · exact ⟨piece :: before, after, List.cons_ne_nil piece before, someAfter, rfl, rfl, rfl⟩

theorem partedAt_pair_iff : PartedAt [piece, last] front back ↔ front = piece ∧ back = last := by
  have single (more : List Char) : ¬ PartedAt [last] more back := not_partedAt_of_short le_rfl
  simp [partedAt_cons_iff, single]

/- Cutting. -/

/-- What is cut from the rest of a word when the current syllable has been read so far. -/
def piecesFrom (current rest : List Char) : List (List Char) :=
  cutSyllables current.isEmpty (vowelSeen current) current rest

theorem piecesFrom_nil : piecesFrom current [] = [current] := rfl

theorem syllableBegins_cons_iff :
    SyllableBegins front (c :: rest) ↔
      vowelSeen front = true ∧ isVowelOrY c = false ∧ startsWithVowel rest = true := by
  cases rest with
  | nil => simp [SyllableBegins, startsWithVowel]
  | cons v rest => simp [SyllableBegins, startsWithVowel]

/- The test of the scan, with the flags for the syllable that has been read so far. -/
theorem cut_iff_syllableBegins :
    (!(isVowel c || (c == 'y' && !current.isEmpty)) && vowelSeen current && startsWithVowel rest) =
      true ↔ SyllableBegins current (c :: rest) := by
  rw [syllableBegins_cons_iff]
  cases current with
  | nil => simp [vowelSeen]
  | cons d current =>
    simp only [isVowelOrY, List.isEmpty_cons, Bool.not_false, Bool.and_true, Bool.and_eq_true,
      Bool.not_eq_true']
    rw [and_comm (b := vowelSeen _ = true), and_assoc]

theorem piecesFrom_cons_of_begins (begins : SyllableBegins current (c :: rest)) :
    piecesFrom current (c :: rest) = current :: piecesFrom [c] rest := by
  have unseen : vowelSeen [c] = false := by
    have consonant := (syllableBegins_cons_iff.mp begins).2.1
    rw [isVowelOrY, Bool.or_eq_false_iff] at consonant
    rw [vowelSeen, consonant.1, List.any_nil, Bool.or_false]
  rw [piecesFrom, cutSyllables, if_pos (cut_iff_syllableBegins.mpr begins), piecesFrom, unseen,
    List.isEmpty_cons]

theorem piecesFrom_cons_of_goesOn (goesOn : ¬ SyllableBegins current (c :: rest)) :
    piecesFrom current (c :: rest) = piecesFrom (current ++ [c]) rest := by
  have some_ : (current ++ [c]).isEmpty = false := by
    rw [List.isEmpty_eq_false_iff]
    exact List.append_ne_nil_of_right_ne_nil current (List.cons_ne_nil c [])
  rw [piecesFrom, cutSyllables, if_neg (mt cut_iff_syllableBegins.mp goesOn), piecesFrom,
    vowelSeen_concat, some_]

theorem flatten_piecesFrom : (piecesFrom current rest).flatten = current ++ rest := by
  induction rest generalizing current with
  | nil => rw [piecesFrom_nil, List.flatten_singleton, List.append_nil]
  | cons c rest ih =>
    by_cases begins : SyllableBegins current (c :: rest)
    · rw [piecesFrom_cons_of_begins begins, List.flatten_cons, ih, List.singleton_append]
    · rw [piecesFrom_cons_of_goesOn begins, ih, List.append_assoc, List.singleton_append]

theorem piecesFrom_ne_nil (some_ : current ++ rest ≠ []) : piecesFrom current rest ≠ [] := by
  intro none
  apply some_
  rw [← flatten_piecesFrom, none, List.flatten_nil]

/-- A word that is cut at all has a vowel in every piece: one before each cut and one right behind
the consonant that starts a piece. -/
theorem hasVowel_or_piecesFrom_eq (current rest : List Char) :
    (∀ p ∈ piecesFrom current rest, HasVowel p) ∨ piecesFrom current rest = [current ++ rest] := by
  induction rest generalizing current with
  | nil => exact .inr (by rw [piecesFrom_nil, List.append_nil])
  | cons c rest ih =>
    by_cases begins : SyllableBegins current (c :: rest)
    · rw [piecesFrom_cons_of_begins begins]
      refine .inl (List.forall_mem_cons.mpr ⟨hasVowel_of_vowelSeen begins.1, ?_⟩)
      rcases ih [c] with voiced | single
      · exact voiced
      · obtain ⟨-, _, v, later, same, -, vowel⟩ := begins
        cases same
        rw [single, List.forall_mem_singleton]
        exact ⟨v, List.mem_cons_of_mem c List.mem_cons_self, vowel⟩
    · rw [piecesFrom_cons_of_goesOn begins]
      have more := ih (current ++ [c])
      rwa [List.append_assoc, List.singleton_append] at more

theorem syllableBegins_append_iff (begins : SyllableBegins current (c :: (read ++ back))) :
    SyllableBegins (current ++ c :: read) back ↔ SyllableBegins (c :: read) back := by
  obtain ⟨seen, _, v, later, same, -, vowel⟩ := begins
  obtain ⟨rfl, behind⟩ := List.cons.inj same
  cases read with
  | nil =>
    -- The vowel itself comes next, and no syllable begins with it.
    rw [List.nil_append] at behind
    subst behind
    simp only [syllableBegins_cons_iff, vowel, Bool.true_eq_false, false_and, and_false]
  | cons d read =>
    obtain ⟨rfl, -⟩ := List.cons.inj behind
    have seenAgain : vowelSeen (c :: d :: read) = true := by simp [vowelSeen, vowel]
    rw [SyllableBegins, SyllableBegins, vowelSeen_append seen, seenAgain]

theorem partedAt_piecesFrom_iff :
    PartedAt (piecesFrom current rest) front back ↔
      ∃ read, front = current ++ read ∧ rest = read ++ back ∧ SyllableBegins front back := by
  induction rest generalizing current front with
  | nil =>
    rw [piecesFrom_nil, iff_false_left (not_partedAt_of_short le_rfl)]
    rintro ⟨read, -, empty, -, _, _, _, rfl, -⟩
    simp at empty
  | cons c rest ih =>
    by_cases begins : SyllableBegins current (c :: rest)
    · rw [piecesFrom_cons_of_begins begins]
      simp only [partedAt_cons_iff, ih, flatten_piecesFrom]
      constructor
      · rintro (⟨-, rfl, rfl⟩ | ⟨_, rfl, read, rfl, rfl, later⟩)
        · exact ⟨[], by simp, rfl, begins⟩
        · exact ⟨c :: read, rfl, rfl, (syllableBegins_append_iff begins).mpr later⟩
      · rintro ⟨read, rfl, whole, later⟩
        cases read with
        | nil => exact .inl ⟨piecesFrom_ne_nil (List.cons_ne_nil c rest), by simp, whole.symm⟩
        | cons d read =>
          obtain ⟨rfl, rfl⟩ := List.cons.inj whole
          exact .inr ⟨_, rfl, read, rfl, rfl, (syllableBegins_append_iff begins).mp later⟩
    · rw [piecesFrom_cons_of_goesOn begins, ih]
      constructor
      · rintro ⟨read, rfl, rfl, later⟩
        exact ⟨c :: read, by simp, rfl, later⟩
      · rintro ⟨read, rfl, whole, later⟩
        cases read with
        | nil =>
          rw [List.nil_append] at whole
          rw [List.append_nil, ← whole] at later
          exact absurd later begins
        | cons d read =>
          obtain ⟨rfl, rfl⟩ := List.cons.inj whole
          exact ⟨read, by simp, rfl, later⟩

/- The end of the word. -/

theorem hasEnding_iff {ending : String} :
    hasEnding ending word = true ↔ ending.toList <:+ word := by
  rw [hasEnding, dropEnding?, ← List.reverse_prefix, ← List.isPrefixOf_iff_prefix]
  split <;> simp_all

theorem isSilent_iff :
    isSilent piece = true ↔ piece.countP isVowelOrY = 0 ∨
      ['e'] <:+ piece ∧ ¬ ['l', 'e'] <:+ piece ∧ piece.countP isVowelOrY = 1 := by
  have e : hasEnding "e" piece = true ↔ ['e'] <:+ piece := hasEnding_iff
  have le : hasEnding "le" piece = true ↔ ['l', 'e'] <:+ piece := hasEnding_iff
  rw [isSilent, ← e, ← le]
  simp [and_assoc]

theorem isSilent_iff_of_begins (begins : SyllableBegins front back) :
    isSilent back = true ↔ IsSilentEnd back := by
  obtain ⟨-, c, v, rest, rfl, consonant, vowel⟩ := begins
  have count : (c :: v :: rest).countP isVowelOrY = rest.countP isVowelOrY + 1 := by
    rw [List.countP_cons_of_neg (by simp [consonant]), List.countP_cons_of_pos vowel]
  rw [isSilent_iff, count]
  constructor
  · rintro (none | ⟨e, notLe, one⟩)
    · cases none
    · have mute : ¬ ['e'] <:+ rest := fun last => by
        have mem : 'e' ∈ rest := last.subset List.mem_cons_self
        have some_ : 0 < rest.countP isVowelOrY := List.countP_pos_iff.mpr ⟨'e', mem, by decide⟩
        omega
      rw [List.suffix_cons_iff, List.suffix_cons_iff] at e
      rcases e with same | same | last
      · cases same
      · cases same
        exact ⟨c, fun l => notLe (l ▸ List.suffix_rfl), rfl⟩
      · exact absurd last mute
  · rintro ⟨c, notL, same⟩
    cases same
    refine .inr ⟨List.suffix_cons c ['e'], fun le => ?_, rfl⟩
    rcases List.suffix_cons_iff.mp le with same | short
    · exact notL (List.cons.inj same).1.symm
    · exact absurd short.length_le (by decide)

theorem isSilent_append (first : HasVowel piece) (second : HasVowel last) (rest : List Char) :
    isSilent (piece ++ (last ++ rest)) = false := by
  have one := List.countP_pos_iff.mpr first
  have two := List.countP_pos_iff.mpr second
  rw [Bool.eq_false_iff, ne_eq, isSilent_iff, List.countP_append, List.countP_append]
  omega

theorem joinSilent_cases (pieces : List (List Char)) :
    joinSilent pieces = pieces ∨
      ∃ before piece last, pieces = before ++ [piece, last] ∧
        joinSilent pieces = before ++ [piece ++ last] := by
  induction pieces using joinSilent.induct with
  | case1 => exact .inl rfl
  | case2 piece => exact .inl rfl
  | case3 piece last silent => exact .inr ⟨[], piece, last, rfl, if_pos silent⟩
  | case4 piece last spoken => exact .inl (if_neg spoken)
  | case5 piece next rest more ih =>
    rw [joinSilent.eq_4 piece next rest more]
    rcases ih with same | ⟨before, one, last, parts, joined⟩
    · exact .inl (by rw [same])
    · exact .inr ⟨piece :: before, one, last, by rw [parts]; rfl, by rw [joined]; rfl⟩

theorem flatten_joinSilent (pieces : List (List Char)) :
    (joinSilent pieces).flatten = pieces.flatten := by
  rcases joinSilent_cases pieces with same | ⟨before, piece, last, rfl, joined⟩
  · rw [same]
  · simp [joined]

theorem joinSilent_ne_nil (some_ : pieces ≠ []) : joinSilent pieces ≠ [] := by
  rcases joinSilent_cases pieces with same | ⟨before, piece, last, -, joined⟩
  · rwa [same]
  · simp [joined]

theorem hasVowel_of_mem_joinSilent (voiced : ∀ p ∈ pieces, HasVowel p) :
    ∀ p ∈ joinSilent pieces, HasVowel p := by
  rcases joinSilent_cases pieces with same | ⟨before, piece, last, rfl, joined⟩
  · rwa [same]
  · rw [List.forall_mem_append] at voiced
    obtain ⟨c, mem, vowel⟩ := voiced.2 piece List.mem_cons_self
    rw [joined, List.forall_mem_append, List.forall_mem_singleton]
    exact ⟨voiced.1, c, List.mem_append_left last mem, vowel⟩

theorem partedAt_joinSilent_iff (voiced : ∀ p ∈ pieces, HasVowel p) :
    PartedAt (joinSilent pieces) front back ↔
      PartedAt pieces front back ∧ isSilent back = false := by
  induction pieces using joinSilent.induct generalizing front with
  | case1 =>
    have apart : ¬ PartedAt [] front back := not_partedAt_of_short (Nat.zero_le 1)
    exact iff_of_false apart fun parted => apart parted.1
  | case2 piece =>
    have apart : ¬ PartedAt [piece] front back := not_partedAt_of_short le_rfl
    exact iff_of_false apart fun parted => apart parted.1
  | case3 piece last silent =>
    rw [joinSilent, if_pos silent, iff_false_left (not_partedAt_of_short le_rfl), partedAt_pair_iff]
    rintro ⟨⟨-, rfl⟩, spoken⟩
    rw [silent] at spoken
    cases spoken
  | case4 piece last spoken =>
    rw [joinSilent, if_neg spoken, partedAt_pair_iff, iff_self_and]
    rintro ⟨-, rfl⟩
    exact Bool.eq_false_iff.mpr spoken
  | case5 piece next rest more ih =>
    obtain ⟨third, rest, rfl⟩ := List.exists_cons_of_ne_nil more
    obtain ⟨-, later⟩ := List.forall_mem_cons.mp voiced
    -- Behind this place there are two vowels, so the whole end is not silent.
    have spokenBehind : isSilent (next :: third :: rest).flatten = false :=
      isSilent_append (later next (by simp)) (later third (by simp)) rest.flatten
    have some_ : joinSilent (next :: third :: rest) ≠ [] := joinSilent_ne_nil (List.cons_ne_nil _ _)
    rw [joinSilent.eq_4 piece next _ more, partedAt_cons_iff, partedAt_cons_iff, flatten_joinSilent]
    simp only [ih later]
    constructor
    · rintro (⟨-, rfl, rfl⟩ | ⟨read, rfl, parted, spoken⟩)
      · exact ⟨.inl ⟨List.cons_ne_nil _ _, rfl, rfl⟩, spokenBehind⟩
      · exact ⟨.inr ⟨read, rfl, parted⟩, spoken⟩
    · rintro ⟨⟨-, rfl, rfl⟩ | ⟨read, rfl, parted⟩, spoken⟩
      · exact .inl ⟨some_, rfl, rfl⟩
      · exact .inr ⟨read, rfl, parted, spoken⟩

/- Whole words. -/

theorem syllablesOf_of_ne_nil (some_ : word ≠ []) :
    syllablesOf word = joinSilent (piecesFrom [] word) := by
  rw [syllablesOf, if_neg some_]
  rfl

theorem flatten_syllablesOf (word : List Char) : (syllablesOf word).flatten = word := by
  by_cases some_ : word = []
  · rw [some_]
    rfl
  · rw [syllablesOf_of_ne_nil some_, flatten_joinSilent, flatten_piecesFrom, List.nil_append]

theorem syllablesOf_ne_nil (some_ : word ≠ []) : syllablesOf word ≠ [] := by
  rw [syllablesOf_of_ne_nil some_]
  exact joinSilent_ne_nil (piecesFrom_ne_nil some_)

theorem hasVowel_or_syllablesOf_eq (some_ : word ≠ []) :
    (∀ p ∈ syllablesOf word, HasVowel p) ∨ syllablesOf word = [word] := by
  rw [syllablesOf_of_ne_nil some_]
  refine (hasVowel_or_piecesFrom_eq [] word).imp hasVowel_of_mem_joinSilent fun single => ?_
  rw [single]
  rfl

theorem ne_nil_of_mem_syllablesOf (mem : piece ∈ syllablesOf word) : piece ≠ [] := by
  rintro rfl
  by_cases some_ : word = []
  · rw [some_] at mem
    cases mem
  · rcases hasVowel_or_syllablesOf_eq some_ with voiced | single
    · obtain ⟨c, none, -⟩ := voiced [] mem
      cases none
    · rw [single, List.mem_singleton] at mem
      exact some_ mem.symm

theorem partedAt_syllablesOf_iff :
    PartedAt (syllablesOf word) front back ↔
      word = front ++ back ∧ SyllableBegins front back ∧ ¬ IsSilentEnd back := by
  by_cases some_ : word = []
  · rw [some_]
    refine iff_of_false (not_partedAt_of_short (Nat.zero_le 1)) ?_
    rintro ⟨empty, ⟨-, c, v, rest, rfl, -⟩, -⟩
    simp at empty
  · have places : PartedAt (piecesFrom [] word) front back ↔
        word = front ++ back ∧ SyllableBegins front back := by
      simp [partedAt_piecesFrom_iff]
    rw [syllablesOf_of_ne_nil some_, ← and_assoc, ← places]
    rcases hasVowel_or_piecesFrom_eq [] word with voiced | single
    · rw [partedAt_joinSilent_iff voiced, and_congr_right_iff]
      intro parted
      rw [← isSilent_iff_of_begins (places.mp parted).2, Bool.not_eq_true]
    · have apart : ¬ PartedAt [word] front back := not_partedAt_of_short le_rfl
      rw [single]
      exact iff_of_false apart fun parted => apart parted.1

theorem splitOn_syllables {text : String} (plain : '/' ∉ text.toList) (some_ : text ≠ "") :
    Text.splitOn '/' (syllables text).toList = syllablesOf text.toList := by
  have free : ∀ p ∈ syllablesOf text.toList, '/' ∉ p := fun p mem slash => plain <| by
    rw [← flatten_syllablesOf text.toList]
    exact List.mem_flatten_of_mem mem slash
  have same : String.toList ∘ String.ofList = id := funext fun p => String.toList_ofList
  rw [syllables, String.toList_intercalate, List.map_map, same, List.map_id]
  exact Text.splitOn_intercalate free (syllablesOf_ne_nil (by simpa using some_))

/-- The syllables of a word are the word without the strokes, none is empty, and of several each has
a vowel. A stroke stands exactly where a syllable begins, but not in front of a silent end. -/
theorem syllables_conserve_word {word : String} (plain : '/' ∉ word.toList) :
    let pieces := Text.splitOn '/' (syllables word).toList
    (syllables word).toList.filter (· ≠ '/') = word.toList ∧
      (word ≠ "" → ∀ piece ∈ pieces, piece ≠ []) ∧
      (1 < pieces.length → ∀ piece ∈ pieces, ∃ c ∈ piece, c.toLower ∈ vowels ∨ c = 'y') ∧
      ∀ front back, PartedAt pieces front back ↔
        word.toList = front ++ back ∧ SyllableBegins front back ∧ ¬ IsSilentEnd back := by
  intro pieces
  by_cases some_ : word = ""
  · subst some_
    have single : pieces = [[]] := rfl
    rw [single]
    refine ⟨rfl, absurd rfl, fun several => absurd several (lt_irrefl 1), fun front back => ?_⟩
    rw [iff_false_left (not_partedAt_of_short le_rfl), ← partedAt_syllablesOf_iff]
    exact not_partedAt_of_short (Nat.zero_le 1)
  · have cut : pieces = syllablesOf word.toList := splitOn_syllables plain some_
    have letters : word.toList ≠ [] := by simpa using some_
    refine ⟨?_, fun _ piece mem => ?_, fun several piece mem => ?_, fun front back => ?_⟩
    · rw [← Text.flatten_splitOn, splitOn_syllables plain some_, flatten_syllablesOf]
    · exact ne_nil_of_mem_syllablesOf (cut ▸ mem)
    · rw [cut] at several mem
      rcases hasVowel_or_syllablesOf_eq letters with voiced | single
      · exact hasVowel_iff.mp (voiced piece mem)
      · rw [single] at several
        exact absurd several (lt_irrefl 1)
    · rw [cut, partedAt_syllablesOf_iff]

theorem syllables_conserve_word_of_separate :
    let pieces := Text.splitOn '/' (syllables "separate").toList
    ('/' ∉ "separate".toList ∧ "separate" ≠ "" ∧ 1 < pieces.length) ∧
      pieces = [['s', 'e'], ['p', 'a'], ['r', 'a', 't', 'e']] ∧
      pieces.flatten = "separate".toList ∧
      (∀ piece ∈ pieces, piece ≠ [] ∧ ∃ c ∈ piece, c.toLower ∈ vowels ∨ c = 'y') ∧
      PartedAt pieces ['s', 'e'] ['p', 'a', 'r', 'a', 't', 'e'] ∧
      ¬ PartedAt pieces ['s', 'e', 'p', 'a', 'r', 'a'] ['t', 'e'] := by
  intro pieces
  have plain : '/' ∉ "separate".toList := by decide
  have some_ : "separate" ≠ "" := by decide
  have cut : pieces = [['s', 'e'], ['p', 'a'], ['r', 'a', 't', 'e']] := by decide +kernel
  have several : 1 < pieces.length := by rw [cut]; decide
  obtain ⟨whole, nonempty, voiced, places⟩ := syllables_conserve_word plain
  refine ⟨⟨plain, some_, several⟩, cut, ?_, fun piece mem => ?_, ?_, ?_⟩
  · rw [Text.flatten_splitOn, whole]
  · exact ⟨nonempty some_ piece mem, voiced several piece mem⟩
  · refine (places _ _).mpr ⟨rfl, ⟨rfl, 'p', 'a', _, rfl, rfl, rfl⟩, ?_⟩
    rintro ⟨c, -, same⟩
    cases same
  · exact fun parted => ((places _ _).mp parted).2.2 ⟨'t', by decide, rfl⟩

end TextGen.Word
