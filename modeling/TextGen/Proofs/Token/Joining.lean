import Mathlib
import TextGen.Token
import TextGen.Proofs.Text.Words
import TextGen.Proofs.Markov.Training

/-! Tokens joined to a text and cut again.
Joining puts a blank before each word and none before a mark, so a piece between blanks is one token
with the marks behind it. Such a piece is cut where it was joined, but for one case: behind a word,
two apostrophes or more stay with it but the last. -/
namespace TextGen.Token

/-- A text in which nothing breaks a word, with no mark at its beginning. -/
def IsWord (text : List Char) : Prop :=
  (∃ c rest, text = c :: rest ∧ marks.contains c = false) ∧
    ∀ c ∈ text, breaksWord c = false ∧ Text.isBlank c = false

def cut (piece : List Char) : List String := (ofPiece piece).map String.ofList

/-- Marks and words, where an apostrophe at the end of a word has another one behind it. -/
def Parted : List String → Prop
  | [] => True
  | token :: rest =>
    (isMark token = true ∨
      IsWord token.toList ∧ (token.toList.getLast? = some '\'' → rest.head? = some "'")) ∧
      Parted rest

/-- Tokens in which two apostrophes follow a word. -/
def HasDoubled (tokens : List String) : Prop :=
  ∃ word, isMark word = false ∧ [word, "'", "'"] <:+: tokens

theorem tokenize_eq (text : String) : tokenize text = (Text.words text.toList).flatMap cut := by
  rw [tokenize, List.map_flatMap]
  rfl

/- Marks and words. -/

theorem isMark_iff (token : String) :
    isMark token = true ↔ ∃ c, token = String.ofList [c] ∧ marks.contains c = true := by
  constructor
  · intro mark
    rw [isMark] at mark
    split at mark
    · rename_i c single
      exact ⟨c, by rw [← single, String.ofList_toList], mark⟩
    · cases mark
  · rintro ⟨c, rfl, mark⟩
    rw [isMark, String.toList_ofList]
    exact mark

theorem isBlank_of_mark {c : Char} (h : marks.contains c = true) : Text.isBlank c = false := by
  have solid : marks.all (!Text.isBlank ·) = true := by rfl
  simpa using List.all_eq_true.mp solid c (by simpa using h)

theorem isSolid_of_isMark {token : String} (h : isMark token = true) :
    Text.IsSolid token.toList := by
  obtain ⟨c, rfl, mark⟩ := (isMark_iff token).mp h
  rw [String.toList_ofList]
  exact ⟨by simp, by simpa using isBlank_of_mark mark⟩

theorem IsWord.isSolid {text : List Char} (h : IsWord text) : Text.IsSolid text := by
  obtain ⟨⟨c, rest, rfl, _⟩, inside⟩ := h
  exact ⟨by simp, fun d mem => (inside d mem).2⟩

theorem IsWord.isMark_eq_false {token : String} (h : IsWord token.toList) :
    isMark token = false := by
  obtain ⟨⟨c, rest, begins, start⟩, _⟩ := h
  rw [isMark, begins]
  cases rest with
  | nil => exact start
  | cons d rest => rfl

theorem breaksWord_apostrophe : breaksWord '\'' = false := by decide

/- Pieces. -/

theorem cut_nil : cut [] = [] := by rw [cut, ofPiece.eq_def]; rfl

theorem cut_mark {c : Char} (h : marks.contains c = true) (rest : List Char) :
    cut (c :: rest) = String.ofList [c] :: cut rest := by
  rw [cut, ofPiece, if_pos h, List.map_cons]
  rfl

theorem cut_marks {tokens : List String} (h : ∀ token ∈ tokens, isMark token = true)
    (rest : List Char) : cut (tokens.flatMap String.toList ++ rest) = tokens ++ cut rest := by
  induction tokens with
  | nil => rfl
  | cons token tokens ih =>
    obtain ⟨c, rfl, mark⟩ := (isMark_iff token).mp (h token List.mem_cons_self)
    rw [List.flatMap_cons, String.toList_ofList, List.append_assoc, List.singleton_append,
      cut_mark mark, ih fun t mem => h t (List.mem_cons_of_mem _ mem), List.cons_append]

theorem cut_word {word : List Char} (h : IsWord word) (rest : List Char) :
    cut (word ++ rest) =
      (ofWord (word ++ rest.takeWhile (!breaksWord ·))).map String.ofList ++
        cut (rest.dropWhile (!breaksWord ·)) := by
  obtain ⟨⟨c, letters, rfl, start⟩, inside⟩ := h
  have goesOn : ∀ d ∈ letters, (!breaksWord d) = true := by
    intro d mem
    rw [(inside d (List.mem_cons_of_mem _ mem)).1]
    rfl
  rw [cut, List.cons_append, ofPiece, if_neg (by rw [start]; decide), List.map_append,
    List.takeWhile_append_of_pos goesOn, List.dropWhile_append_of_pos goesOn]
  rfl

theorem cut_word_marks {word : List Char} (h : IsWord word) {tokens : List String}
    (mark : ∀ token ∈ tokens, isMark token = true) (other : ∀ token ∈ tokens.head?, token ≠ "'") :
    cut (word ++ tokens.flatMap String.toList) = (ofWord word).map String.ofList ++ tokens := by
  have behind : cut (tokens.flatMap String.toList) = tokens := by
    have read := cut_marks mark []
    rwa [List.append_nil, cut_nil, List.append_nil] at read
  rw [cut_word h]
  cases tokens with
  | nil => rw [List.flatMap_nil, List.takeWhile_nil, List.append_nil, List.dropWhile_nil, cut_nil]
  | cons token tokens =>
    obtain ⟨c, rfl, isOne⟩ := (isMark_iff token).mp (mark token List.mem_cons_self)
    have breaks : breaksWord c = true := by
      have differs : c ≠ '\'' := by
        rintro rfl
        exact other _ rfl rfl
      simpa [breaksWord, differs] using isOne
    rw [List.flatMap_cons, String.toList_ofList, List.singleton_append] at behind ⊢
    rw [List.takeWhile_cons_of_neg (by simp [breaks]), List.append_nil,
      List.dropWhile_cons_of_neg (by simp [breaks]), behind]

/- Words. -/

theorem ofWord_of_getLast?_ne {word : List Char} (h : word.getLast? ≠ some '\'')
    (nonempty : word ≠ []) : ofWord word = [word] := by
  rw [ofWord]
  split
  · rename_i turned
    exact absurd (List.reverse_eq_nil_iff.mp turned) nonempty
  · rename_i c stem turned
    rw [← List.head?_reverse, turned] at h
    exact absurd rfl h
  · rfl

theorem ofWord_append_apostrophe {stem : List Char} (nonempty : stem ≠ []) :
    ofWord (stem ++ ['\'']) = [stem, ['\'']] := by
  cases turned : stem.reverse with
  | nil => exact absurd (List.reverse_eq_nil_iff.mp turned) nonempty
  | cons c rest =>
    have straight : (c :: rest).reverse = stem := by rw [← turned, List.reverse_reverse]
    rw [ofWord, List.reverse_append, turned]
    simp [← straight]

theorem length_ofWord {word : List Char} (nonempty : word ≠ []) :
    ∃ first others, ofWord word = first :: others ∧ word.length ≤ first.length + 1 := by
  by_cases last : word.getLast? = some '\''
  · obtain ⟨stem, rfl⟩ := List.getLast?_eq_some_iff.mp last
    cases stem with
    | nil => exact ⟨['\''], [], rfl, by simp⟩
    | cons c stem => exact ⟨_, _, ofWord_append_apostrophe (List.cons_ne_nil c stem), by simp⟩
  · exact ⟨_, _, ofWord_of_getLast?_ne last nonempty, by simp⟩

theorem IsWord.append_apostrophe {text : List Char} (h : IsWord text) : IsWord (text ++ ['\'']) := by
  obtain ⟨⟨c, rest, rfl, start⟩, inside⟩ := h
  refine ⟨⟨c, rest ++ ['\''], rfl, start⟩, ?_⟩
  intro d mem
  rcases List.mem_append.mp mem with before | last
  · exact inside d before
  · rw [List.mem_singleton.mp last]
    decide

/- What is cut from a text. -/

theorem Parted.append {front back : List String} (first : Parted front) (second : Parted back) :
    Parted (front ++ back) := by
  induction front with
  | nil => exact second
  | cons token front ih =>
    refine ⟨first.1.imp_right fun word => ⟨word.1, fun last => ?_⟩, ih first.2⟩
    show (front ++ back).head? = some "'"
    rw [List.head?_append, word.2 last]
    rfl

theorem parted_ofWord {word : List Char} (h : IsWord word) :
    Parted ((ofWord word).map String.ofList) := by
  by_cases last : word.getLast? = some '\''
  · obtain ⟨stem, rfl⟩ := List.getLast?_eq_some_iff.mp last
    obtain ⟨⟨c, rest, begins, start⟩, inside⟩ := h
    cases stem with
    | nil =>
      rw [← (List.cons.inj begins).1] at start
      exact absurd start (by decide)
    | cons d stem =>
      rw [List.cons_append, List.cons.injEq] at begins
      obtain ⟨rfl, _⟩ := begins
      rw [ofWord_append_apostrophe (List.cons_ne_nil d stem)]
      have isWord : IsWord (d :: stem) :=
        ⟨⟨d, stem, rfl, start⟩, fun e mem => inside e (List.mem_append_left _ mem)⟩
      refine ⟨.inr ⟨?_, fun _ => rfl⟩, .inl rfl, trivial⟩
      rwa [String.toList_ofList]
  · rw [ofWord_of_getLast?_ne last h.isSolid.1]
    refine ⟨.inr ?_, trivial⟩
    rw [String.toList_ofList]
    exact ⟨h, fun isLast => absurd isLast last⟩

theorem parted_cut {piece : List Char} (solid : ∀ c ∈ piece, Text.isBlank c = false) :
    Parted (cut piece) := by
  induction piece using ofPiece.induct with
  | case1 => rw [cut_nil]; trivial
  | case2 c rest mark ih =>
    rw [cut_mark mark]
    refine ⟨.inl ?_, ih fun d mem => solid d (List.mem_cons_of_mem _ mem)⟩
    exact (isMark_iff _).mpr ⟨c, rfl, mark⟩
  | case3 c rest word ih =>
    have start : marks.contains c = false := by simpa using word
    have isWord : IsWord (c :: rest.takeWhile (!breaksWord ·)) := by
      refine ⟨⟨c, _, rfl, start⟩, List.forall_mem_cons.mpr ⟨?_, fun d mem => ?_⟩⟩
      · exact ⟨by rw [breaksWord, start]; rfl, solid c List.mem_cons_self⟩
      · have goesOn := List.mem_takeWhile_imp mem
        have inside := solid d (List.mem_cons_of_mem _ ((List.takeWhile_prefix _).subset mem))
        exact ⟨by simpa using goesOn, inside⟩
    rw [cut, ofPiece, if_neg word, List.map_append]
    refine (parted_ofWord isWord).append (ih fun d mem => solid d ?_)
    exact List.mem_cons_of_mem _ ((List.dropWhile_suffix _).subset mem)

theorem parted_tokenize (text : String) : Parted (tokenize text) := by
  have parts : ∀ pieces : List (List Char), (∀ p ∈ pieces, Text.IsSolid p) →
      Parted (pieces.flatMap cut) := by
    intro pieces solid
    induction pieces with
    | nil => trivial
    | cons piece pieces ih =>
      rw [List.flatMap_cons]
      exact (parted_cut (solid piece List.mem_cons_self).2).append
        (ih fun p mem => solid p (List.mem_cons_of_mem _ mem))
  rw [tokenize_eq]
  exact parts _ fun piece mem => Text.isSolid_of_mem_words mem

/- Joining. -/

def behind (rest : List String) : List Char := (rest.map spaced).flatMap String.toList

theorem toList_join (token : String) (rest : List String) :
    (join (token :: rest)).toList = token.toList ++ behind rest := by
  rw [join, String.toList_append, String.toList_join]
  rfl

theorem behind_marks {tokens : List String} (h : ∀ token ∈ tokens, isMark token = true)
    (rest : List String) : behind (tokens ++ rest) = tokens.flatMap String.toList ++ behind rest := by
  induction tokens with
  | nil => rfl
  | cons token tokens ih =>
    have mark := h token List.mem_cons_self
    have later := ih fun t mem => h t (List.mem_cons_of_mem _ mem)
    rw [behind] at later ⊢
    rw [List.cons_append, List.map_cons, List.flatMap_cons, later, spaced, if_pos mark,
      List.flatMap_cons, List.append_assoc]

theorem behind_word {token : String} (h : isMark token = false) (rest : List String) :
    behind (token :: rest) = ' ' :: (join (token :: rest)).toList := by
  rw [behind, List.map_cons, List.flatMap_cons, spaced, h, toList_join]
  simp [behind]

theorem tokenize_join {token : String} (solid : Text.IsSolid token.toList) {tokens : List String}
    (mark : ∀ t ∈ tokens, isMark t = true) {rest : List String}
    (word : ∀ t ∈ rest.head?, isMark t = false) :
    tokenize (join (token :: (tokens ++ rest))) =
      cut (token.toList ++ tokens.flatMap String.toList) ++ tokenize (join rest) := by
  have piece : Text.IsSolid (token.toList ++ tokens.flatMap String.toList) := by
    refine ⟨by simp [solid.1], fun c mem => ?_⟩
    rcases List.mem_append.mp mem with first | later
    · exact solid.2 c first
    · obtain ⟨t, among, inside⟩ := List.mem_flatMap.mp later
      exact (isSolid_of_isMark (mark t among)).2 c inside
  rw [tokenize_eq, toList_join, behind_marks mark, ← List.append_assoc]
  cases rest with
  | nil =>
    rw [behind, List.map_nil, List.flatMap_nil, List.append_nil, Text.words_of_isSolid piece,
      List.flatMap_singleton]
    exact (List.append_nil _).symm
  | cons t rest =>
    rw [behind_word (word t rfl), Text.words_append (by decide), Text.words_of_isSolid piece,
      List.singleton_append, List.flatMap_cons, ← tokenize_eq]

/- Two apostrophes behind a word. -/

theorem hasDoubled_cons (token : String) (rest : List String) :
    HasDoubled (token :: rest) ↔
      (isMark token = false ∧ ["'", "'"] <+: rest) ∨ HasDoubled rest := by
  simp only [HasDoubled, List.infix_cons_iff, List.cons_prefix_cons]
  constructor
  · rintro ⟨word, isWord, ⟨rfl, here⟩ | later⟩
    · exact .inl ⟨isWord, here⟩
    · exact .inr ⟨word, isWord, later⟩
  · rintro (⟨isWord, here⟩ | ⟨word, isWord, later⟩)
    · exact ⟨token, isWord, .inl ⟨rfl, here⟩⟩
    · exact ⟨word, isWord, .inr later⟩

theorem hasDoubled_marks {tokens : List String} (h : ∀ token ∈ tokens, isMark token = true)
    (rest : List String) : HasDoubled (tokens ++ rest) ↔ HasDoubled rest := by
  induction tokens with
  | nil => rfl
  | cons token tokens ih =>
    rw [List.cons_append, hasDoubled_cons, ih fun t mem => h t (List.mem_cons_of_mem _ mem),
      h token List.mem_cons_self]
    simp

theorem Parted.of_append {front back : List String} (h : Parted (front ++ back)) :
    Parted back := by
  induction front with
  | nil => exact h
  | cons token front ih => exact ih h.2

theorem doubled_append_iff {marks rest : List String} (word : ∀ t ∈ rest.head?, isMark t = false) :
    ["'", "'"] <+: marks ++ rest ↔ ["'", "'"] <+: marks := by
  refine ⟨fun doubled => ?_, fun doubled => doubled.trans (List.prefix_append _ _)⟩
  have apart : ∀ tokens, ¬ "'" :: tokens <+: rest := by
    rintro tokens ⟨more, rfl⟩
    exact absurd (word "'" rfl) (by decide)
  match marks with
  | [] => exact absurd doubled (apart _)
  | [mark] => exact absurd (List.cons_prefix_cons.mp doubled).2 (apart _)
  | mark :: next :: marks =>
    rw [List.cons_append, List.cons_append, List.cons_prefix_cons, List.cons_prefix_cons] at doubled
    rw [← doubled.1, ← doubled.2.1]
    exact List.prefix_append ["'", "'"] marks

theorem cut_word_joined {token : String} (h : IsWord token.toList) {marks : List String}
    (mark : ∀ t ∈ marks, isMark t = true)
    (last : token.toList.getLast? = some '\'' → marks.head? = some "'")
    (single : ¬ ["'", "'"] <+: marks) :
    cut (token.toList ++ marks.flatMap String.toList) = token :: marks := by
  by_cases follows : marks.head? = some "'"
  · obtain ⟨marks, rfl⟩ := List.head?_eq_some_iff.mp follows
    have other : ∀ t ∈ marks.head?, t ≠ "'" := by
      rintro t first rfl
      obtain ⟨more, rfl⟩ := List.head?_eq_some_iff.mp first
      exact single (List.prefix_append ["'", "'"] more)
    have read := cut_word_marks h.append_apostrophe
      (fun t mem => mark t (List.mem_cons_of_mem _ mem)) other
    rw [ofWord_append_apostrophe h.isSolid.1, List.append_assoc] at read
    simpa using read
  · rw [cut_word_marks h mark fun t first same => follows (same ▸ first),
      ofWord_of_getLast?_ne (fun isLast => follows (last isLast)) h.isSolid.1]
    simp

theorem cut_word_doubled {token : String} (h : IsWord token.toList) {rest : List Char}
    (doubled : ['\'', '\''] <+: rest) (tokens others : List String) :
    cut (token.toList ++ rest) ++ others ≠ token :: tokens := by
  obtain ⟨rest, rfl⟩ := doubled
  have kept : (['\'', '\''] ++ rest).takeWhile (!breaksWord ·) =
      ['\'', '\''] ++ rest.takeWhile (!breaksWord ·) :=
    List.takeWhile_append_of_pos (by simp [breaksWord_apostrophe])
  have nonempty : token.toList ++ (['\'', '\''] ++ rest.takeWhile (!breaksWord ·)) ≠ [] := by simp
  obtain ⟨first, later, isCut, long⟩ := length_ofWord nonempty
  rw [cut_word h, kept, isCut]
  intro same
  have isFirst : String.ofList first = token := (List.cons.inj same).1
  rw [← isFirst, String.toList_ofList, List.length_append, List.length_append] at long
  simp only [List.length_cons] at long
  omega

theorem tokenize_join_iff {tokens : List String} (h : Parted tokens) :
    tokenize (join tokens) = tokens ↔ ¬ HasDoubled tokens := by
  match tokens with
  | [] => simp [HasDoubled, join, tokenize]
  | token :: behind =>
    obtain ⟨marks, rest, rfl, mark, word⟩ : ∃ marks rest, behind = marks ++ rest ∧
        (∀ t ∈ marks, isMark t = true) ∧ ∀ t ∈ rest.head?, isMark t = false := by
      refine ⟨behind.takeWhile isMark, behind.dropWhile isMark,
        List.takeWhile_append_dropWhile.symm, fun t mem => List.mem_takeWhile_imp mem, ?_⟩
      intro t first
      have stops := List.head?_dropWhile_not isMark behind
      rw [Option.mem_def.mp first] at stops
      simpa using stops
    have later := tokenize_join_iff h.2.of_append
    have joined : token :: marks ++ tokenize (join rest) = token :: (marks ++ rest) ↔
        ¬ HasDoubled rest := by
      rw [← later, ← List.cons_append, List.append_cancel_left_eq]
    rw [hasDoubled_cons, hasDoubled_marks mark, doubled_append_iff word, not_or]
    rcases h.1 with isOne | ⟨isWord, last⟩
    · have all : ∀ t ∈ token :: marks, isMark t = true := List.forall_mem_cons.mpr ⟨isOne, mark⟩
      have read := cut_marks all []
      rw [List.flatMap_cons, List.append_nil, cut_nil, List.append_nil] at read
      rw [tokenize_join (isSolid_of_isMark isOne) mark word, read, joined]
      simp [isOne]
    · rw [tokenize_join isWord.isSolid mark word]
      by_cases doubled : ["'", "'"] <+: marks
      · obtain ⟨marks, rfl⟩ := doubled
        have behindWord : ['\'', '\''] <+: (["'", "'"] ++ marks).flatMap String.toList :=
          ⟨marks.flatMap String.toList, by simp⟩
        refine iff_of_false (cut_word_doubled isWord behindWord _ _) ?_
        exact fun single => single.1 ⟨isWord.isMark_eq_false, List.prefix_append _ _⟩
      · have follows : token.toList.getLast? = some '\'' → marks.head? = some "'" := by
          intro isLast
          have first := last isLast
          cases marks with
          | cons => exact first
          | nil => exact absurd (word "'" first) (by decide)
        rw [cut_word_joined isWord mark follows doubled, joined]
        simp [doubled]
termination_by tokens.length

/- Sentences. -/

open Markov

theorem flatten_splitSentences (tokens : List String) :
    (splitSentences tokens).flatten = tokens := by
  induction tokens with
  | nil => rfl
  | cons token tokens ih =>
    rw [splitSentences]
    split
    · rw [List.flatten_cons, ih, List.singleton_append]
    · split
      · rename_i none
        rw [none] at ih
        rw [← ih]
        rfl
      · rename_i sentence sentences some
        rw [some, List.flatten_cons] at ih
        rw [List.flatten_cons, List.cons_append, ih]

theorem ne_nil_of_mem_splitSentences {tokens sentence : List String}
    (h : sentence ∈ splitSentences tokens) : sentence ≠ [] := by
  induction tokens generalizing sentence with
  | nil => cases h
  | cons token tokens ih =>
    rw [splitSentences] at h
    split at h
    · rcases List.mem_cons.mp h with rfl | later
      · exact List.cons_ne_nil _ _
      · exact ih later
    · split at h
      · rw [List.mem_singleton.mp h]
        exact List.cons_ne_nil _ _
      · rename_i first sentences some
        rcases List.mem_cons.mp h with rfl | later
        · exact List.cons_ne_nil _ _
        · exact ih (some ▸ List.mem_cons_of_mem _ later)

theorem isMark_of_endsSentence {token : String} (h : endsSentence token = true) :
    isMark token = true := by
  have among : enders ⊆ marks := by simp [enders, marks]
  rw [endsSentence] at h
  split at h
  · rename_i c single
    rw [isMark, single]
    simpa using among (by simpa using h)
  · cases h

theorem parted_of_mem_splitSentences {tokens sentence : List String} (h : Parted tokens)
    (mem : sentence ∈ splitSentences tokens) : Parted sentence := by
  induction tokens generalizing sentence with
  | nil => cases mem
  | cons token tokens ih =>
    rw [splitSentences] at mem
    split at mem
    · rename_i ends
      rcases List.mem_cons.mp mem with rfl | later
      · exact ⟨.inl (isMark_of_endsSentence ends), trivial⟩
      · exact ih h.2 later
    · have whole := flatten_splitSentences tokens
      split at mem
      · rename_i none
        rw [none] at whole
        rw [List.mem_singleton.mp mem]
        rwa [← whole] at h
      · rename_i first sentences some
        rcases List.mem_cons.mp mem with rfl | later
        · have isFirst : first ∈ splitSentences tokens := some ▸ List.mem_cons_self
          refine ⟨h.1.imp_right fun word => ⟨word.1, fun last => ?_⟩, ih h.2 isFirst⟩
          obtain ⟨t, more, rfl⟩ := List.exists_cons_of_ne_nil (ne_nil_of_mem_splitSentences isFirst)
          rw [some] at whole
          rw [← word.2 last, ← whole]
          rfl
        · exact ih h.2 (some ▸ List.mem_cons_of_mem _ later)

theorem tokenize_spaced (text : String) :
    tokenize (String.intercalate " " ((Text.words text.toList).map String.ofList)) =
      tokenize text := by
  rw [tokenize_eq, String.toList_intercalate, List.map_map]
  have same : (String.toList ∘ String.ofList) = id := funext fun _ => String.toList_ofList
  rw [same, List.map_id, tokenize_eq]
  have blank : " ".toList = [' '] := rfl
  rw [blank, Text.words_intercalate fun piece mem => Text.isSolid_of_mem_words mem]

theorem markedTokens_join {sentence : List String} (nonempty : sentence ≠ [])
    (again : tokenize (join sentence) = sentence) :
    markedTokens .plain (join sentence) = marker :: sentence := by
  have plain : Tokenizer.plain.tokenize = tokenize := rfl
  rw [markedTokens, plain, tokenize_spaced, again]
  cases sentence with
  | nil => exact absurd rfl nonempty
  | cons token rest => rfl

/-- Joining a text's tokens and cutting them again gives these tokens if and only if no two
apostrophes follow a word, and then a text that is loaded counts the sentences of its tokens. -/
theorem tokenize_join_tokenize_iff (text : String) :
    (tokenize (join (tokenize text)) = tokenize text ↔ ¬ HasDoubled (tokenize text)) ∧
      (¬ HasDoubled (tokenize text) →
        (Load.text text).batch .plain =
          (splitSentences (tokenize text)).flatMap (marker :: ·)) := by
  have parted := parted_tokenize text
  refine ⟨tokenize_join_iff parted, fun single => ?_⟩
  show ((splitSentences (tokenize text)).map join).flatMap (markedTokens .plain) = _
  rw [List.flatMap_map]
  refine List.flatMap_congr fun sentence mem => ?_
  have within := List.infix_of_mem_flatten mem
  rw [flatten_splitSentences] at within
  have alone : ¬ HasDoubled sentence := fun ⟨word, isWord, inside⟩ =>
    single ⟨word, isWord, inside.trans within⟩
  have again := (tokenize_join_iff (parted_of_mem_splitSentences parted mem)).mpr alone
  exact markedTokens_join (ne_nil_of_mem_splitSentences mem) again

theorem tokenize_join_tokenize_of_quotes :
    let text := "''Tis the dogs' , '' bone,' isn't it? 'No!'"
    ¬ HasDoubled (tokenize text) ∧ tokenize (join (tokenize text)) = tokenize text ∧
      (Load.text text).batch .plain =
        ["<s/>", "'", "'", "Tis", "the", "dogs", "'", ",", "'", "'", "bone", ",", "'", "isn't",
          "it", "?", "<s/>", "'", "No", "!", "<s/>", "'"] := by
  intro text
  have again : tokenize (join (tokenize text)) = tokenize text := by decide +kernel
  obtain ⟨whole, loaded⟩ := tokenize_join_tokenize_iff text
  have single := whole.mp again
  refine ⟨single, again, ?_⟩
  rw [loaded single]
  decide +kernel

/-- Two apostrophes after a word, apart from it at first, are read as part of it once joined. -/
theorem not_all_tokenized_again : ¬ ∀ text, tokenize (join (tokenize text)) = tokenize text := by
  intro all
  have again := all "a ''b"
  revert again
  decide +kernel

end TextGen.Token
