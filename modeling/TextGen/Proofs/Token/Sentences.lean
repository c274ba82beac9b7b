import Mathlib
import TextGen.Token

/-! The sentences of a list of tokens.
The list is cut behind each token that ends a sentence, and nowhere else. There is only one such way
to cut it. -/
namespace TextGen.Token

variable {token : String} {rest tokens : List String} {sentences : List (List String)}

/-- A list of tokens, cut behind the tokens that end sentences. -/
structure CutIntoSentences (tokens : List String) (sentences : List (List String)) : Prop where
  whole : sentences.flatten = tokens
  nonempty : ∀ sentence ∈ sentences, sentence ≠ []
  inside : ∀ sentence ∈ sentences, ∀ token ∈ sentence.dropLast, token ∉ [".", "!", "?"]
  /-- Only the last sentence may do without an end. -/
  ended : ∀ sentence ∈ sentences.dropLast, ∃ token ∈ sentence.getLast?, token ∈ [".", "!", "?"]

namespace CutIntoSentences

theorem nil_iff : CutIntoSentences [] sentences ↔ sentences = [] := by
  constructor
  · intro cut
    cases sentences with
    | nil => rfl
    | cons first later =>
      have empty : first = [] := (List.append_eq_nil_iff.mp cut.whole).1
      exact absurd empty (cut.nonempty first List.mem_cons_self)
  · rintro rfl
    exact ⟨rfl, nofun, nofun, nofun⟩

theorem exists_first (cut : CutIntoSentences (token :: rest) sentences) :
    ∃ others later, sentences = (token :: others) :: later ∧ others ++ later.flatten = rest := by
  match sentences, cut with
  | [] :: later, cut => exact absurd rfl (cut.nonempty [] List.mem_cons_self)
  | (first :: others) :: later, cut =>
    obtain ⟨rfl, behind⟩ := List.cons.inj cut.whole
    exact ⟨others, later, rfl, behind⟩

theorem tail {first : List String} (cut : CutIntoSentences tokens (first :: sentences)) :
    CutIntoSentences sentences.flatten sentences where
  whole := rfl
  nonempty sentence mem := cut.nonempty sentence (List.mem_cons_of_mem first mem)
  inside sentence mem := cut.inside sentence (List.mem_cons_of_mem first mem)
  ended sentence mem := by
    have some_ := List.ne_nil_of_mem (List.mem_of_mem_dropLast mem)
    refine cut.ended sentence ?_
    rw [List.dropLast_cons_of_ne_nil some_]
    exact List.mem_cons_of_mem first mem

theorem cons_iff_of_ends (ends : token ∈ [".", "!", "?"]) :
    CutIntoSentences (token :: rest) sentences ↔
      ∃ later, sentences = [token] :: later ∧ CutIntoSentences rest later := by
  constructor
  · intro cut
    obtain ⟨others, later, rfl, rfl⟩ := cut.exists_first
    cases others with
    | nil => exact ⟨later, rfl, cut.tail⟩
    | cons next others =>
      exact absurd ends (cut.inside _ List.mem_cons_self token List.mem_cons_self)
  · rintro ⟨later, rfl, cut⟩
    constructor
    case whole => rw [List.flatten_cons, cut.whole, List.singleton_append]
    case nonempty => exact List.forall_mem_cons.mpr ⟨List.cons_ne_nil token [], cut.nonempty⟩
    case inside => exact List.forall_mem_cons.mpr ⟨nofun, cut.inside⟩
    case ended =>
      cases later with
      | nil => nofun
      | cons next later => exact List.forall_mem_cons.mpr ⟨⟨token, rfl, ends⟩, cut.ended⟩

theorem cons_iff_of_goesOn (goesOn : token ∉ [".", "!", "?"]) :
    CutIntoSentences (token :: rest) sentences ↔
      (rest = [] ∧ sentences = [[token]]) ∨
        ∃ others later, sentences = (token :: others) :: later ∧
          CutIntoSentences rest (others :: later) := by
  constructor
  · intro cut
    obtain ⟨others, later, rfl, rfl⟩ := cut.exists_first
    cases others with
    | nil =>
      cases later with
      | nil => exact .inl ⟨rfl, rfl⟩
      | cons next later =>
        obtain ⟨last, isLast, ends⟩ := cut.ended [token] List.mem_cons_self
        cases isLast
        exact absurd ends goesOn
    | cons second others =>
      refine .inr ⟨second :: others, later, rfl, ?_⟩
      constructor
      case whole => rfl
      case nonempty =>
        exact List.forall_mem_cons.mpr ⟨List.cons_ne_nil second others, cut.tail.nonempty⟩
      case inside =>
        refine List.forall_mem_cons.mpr ⟨fun t mem => ?_, cut.tail.inside⟩
        exact cut.inside _ List.mem_cons_self t (List.mem_cons_of_mem token mem)
      case ended =>
        cases later with
        | nil => nofun
        | cons next later =>
          refine List.forall_mem_cons.mpr ⟨?_, cut.tail.ended⟩
          have last := cut.ended _ List.mem_cons_self
          rwa [List.getLast?_cons_cons] at last
  · rintro (⟨rfl, rfl⟩ | ⟨others, later, rfl, cut⟩)
    · exact ⟨rfl, by simp, by simp, by simp⟩
    · have some_ := cut.nonempty others List.mem_cons_self
      obtain ⟨second, more, rfl⟩ := List.exists_cons_of_ne_nil some_
      constructor
      case whole =>
        rw [← cut.whole]
        rfl
      case nonempty =>
        exact List.forall_mem_cons.mpr ⟨List.cons_ne_nil token _, cut.tail.nonempty⟩
      case inside =>
        refine List.forall_mem_cons.mpr ⟨?_, cut.tail.inside⟩
        rw [List.dropLast_cons_of_ne_nil some_]
        exact List.forall_mem_cons.mpr ⟨goesOn, cut.inside _ List.mem_cons_self⟩
      case ended =>
        cases later with
        | nil => nofun
        | cons next later =>
          refine List.forall_mem_cons.mpr ⟨?_, cut.tail.ended⟩
          rw [List.getLast?_cons_cons]
          exact cut.ended _ List.mem_cons_self

end CutIntoSentences

/-- The sentences of a list of tokens are the only way to cut it behind the tokens that end
sentences. -/
theorem cutIntoSentences_iff (tokens : List String) (sentences : List (List String)) :
    CutIntoSentences tokens sentences ↔ sentences = splitSentences tokens := by
  induction tokens generalizing sentences with
  | nil => exact CutIntoSentences.nil_iff
  | cons token rest ih =>
    rw [splitSentences]
    by_cases ends : token ∈ [".", "!", "?"]
    · rw [if_pos ((endsSentence_iff token).mpr ends), CutIntoSentences.cons_iff_of_ends ends]
      simp only [ih, exists_eq_right]
    · rw [if_neg (mt (endsSentence_iff token).mp ends), CutIntoSentences.cons_iff_of_goesOn ends]
      have found := (ih _).mpr rfl
      cases split : splitSentences rest with
      | nil =>
        rw [split] at found
        have empty : rest = [] := found.whole.symm
        simp only [ih, split, reduceCtorEq, and_false, exists_false, or_false]
        exact and_iff_right empty
      | cons others later =>
        rw [split] at found
        have some_ : rest ≠ [] := by
          rintro rfl
          cases split
        simp only [ih, split, some_, false_and, false_or]
        constructor
        · rintro ⟨_, _, rfl, same⟩
          cases same
          rfl
        · rintro rfl
          exact ⟨others, later, rfl, rfl⟩

example : splitSentences ["It", "is", "!", ".", "No", "."] =
    [["It", "is", "!"], ["."], ["No", "."]] := by decide

end TextGen.Token
