import Mathlib
import TextGen.Proofs.Token.Joining

/-! Cutting and joining lose nothing.
Only blanks get lost when a text is cut into tokens, and nothing is added to it. Joining tokens adds
spaces and nothing else. -/
namespace TextGen.Token

/-- What a text is cut into: a mark, or a word in which apostrophes are the only marks. -/
structure IsToken (token : String) : Prop where
  nonempty : token ≠ ""
  solid : ∀ c ∈ token.toList, Text.isBlank c = false
  mark_or_word : (∃ c ∈ marks, token = String.ofList [c]) ∨
    token.toList.head? ≠ some '\'' ∧ ∀ c ∈ token.toList, c ∈ marks → c = '\''

/- Cutting. -/

theorem flatten_ofWord (word : List Char) : (ofWord word).flatten = word := by
  by_cases last : word.getLast? = some '\''
  · obtain ⟨stem, rfl⟩ := List.getLast?_eq_some_iff.mp last
    cases stem with
    | nil => rfl
    | cons c stem =>
      rw [ofWord_append_apostrophe (List.cons_ne_nil c stem), List.flatten_cons,
        List.flatten_singleton]
  · cases word with
    | nil => rfl
    | cons c word =>
      rw [ofWord_of_getLast?_ne last (List.cons_ne_nil c word), List.flatten_singleton]

theorem flatten_ofPiece (piece : List Char) : (ofPiece piece).flatten = piece := by
  induction piece using ofPiece.induct with
  | case1 => rw [ofPiece, List.flatten_nil]
  | case2 c rest mark ih =>
    rw [ofPiece, if_pos mark, List.flatten_cons, ih, List.singleton_append]
  | case3 c rest word ih =>
    rw [ofPiece, if_neg word, List.flatten_append, flatten_ofWord, ih, List.cons_append,
      List.takeWhile_append_dropWhile]

theorem flatMap_toList_tokenize (text : String) :
    (tokenize text).flatMap String.toList = text.toList.filter (!Text.isBlank ·) := by
  have whole : List.flatten ∘ ofPiece = id := funext flatten_ofPiece
  calc (tokenize text).flatMap String.toList
      = ((Text.words text.toList).flatMap ofPiece).flatten := by
        rw [tokenize, List.flatMap_map, ← List.flatMap_id']
        simp only [String.toList_ofList]
    _ = (Text.words text.toList).flatten := by
        rw [List.flatMap_def, List.flatten_flatten, List.map_map, whole, List.map_id]
    _ = text.toList.filter (!Text.isBlank ·) := Text.flatten_words text.toList

theorem Parted.of_mem {tokens : List String} {token : String} (h : Parted tokens)
    (mem : token ∈ tokens) : isMark token = true ∨ IsWord token.toList := by
  obtain ⟨front, back, rfl⟩ := List.append_of_mem mem
  exact h.of_append.1.imp_right And.left

theorem isToken_of_isMark {token : String} (h : isMark token = true) : IsToken token := by
  have solid := isSolid_of_isMark h
  obtain ⟨c, rfl, mark⟩ := (isMark_iff token).mp h
  exact ⟨by simp, solid.2, .inl ⟨c, by simpa using mark, rfl⟩⟩

theorem isToken_of_isWord {token : String} (h : IsWord token.toList) : IsToken token := by
  refine ⟨?_, h.isSolid.2, .inr ⟨?_, fun c mem mark => ?_⟩⟩
  · rintro rfl
    exact h.isSolid.1 rfl
  · obtain ⟨c, rest, begins, start⟩ := h.1
    rw [begins, List.head?_cons]
    rintro same
    cases same
    exact absurd start (by decide)
  · by_contra other
    have breaks : breaksWord c = true := by simp [breaksWord, mark, other]
    rw [(h.2 c mem).1] at breaks
    cases breaks

/- Joining. -/

theorem filter_behind (rest : List String) :
    (behind rest).filter (· ≠ ' ') = (rest.flatMap String.toList).filter (· ≠ ' ') := by
  induction rest with
  | nil => rfl
  | cons token rest ih =>
    have here : (spaced token).toList.filter (· ≠ ' ') = token.toList.filter (· ≠ ' ') := by
      rw [spaced]
      split
      · rfl
      · simp
    rw [behind] at ih ⊢
    rw [List.map_cons, List.flatMap_cons, List.flatMap_cons, List.filter_append,
      List.filter_append, here, ih]

theorem filter_toList_join (tokens : List String) :
    (join tokens).toList.filter (· ≠ ' ') =
      (tokens.flatMap String.toList).filter (· ≠ ' ') := by
  cases tokens with
  | nil => rfl
  | cons token rest =>
    rw [toList_join, List.filter_append, filter_behind, ← List.filter_append, List.flatMap_cons]

/-- The tokens of a text are the text without its blanks, each of them is a mark or a word, and
joined tokens are what they were but for spaces. -/
theorem tokens_conserve_text (text : String) (tokens : List String) :
    (String.join (tokenize text)).toList = text.toList.filter (!Text.isBlank ·) ∧
      (∀ token ∈ tokenize text, IsToken token) ∧
      (join tokens).toList.filter (· ≠ ' ') = (String.join tokens).toList.filter (· ≠ ' ') := by
  refine ⟨?_, fun token mem => ?_, ?_⟩
  · rw [String.toList_join, flatMap_toList_tokenize]
  · rcases (parted_tokenize text).of_mem mem with mark | word
    · exact isToken_of_isMark mark
    · exact isToken_of_isWord word
  · rw [String.toList_join, filter_toList_join]

end TextGen.Token
