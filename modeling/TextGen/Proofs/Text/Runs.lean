import Mathlib
import TextGen.Text.Search
import TextGen.Text.Split

/-! Runs of characters at the beginning or at the end of a text.
A run does not go past a character that fails its test, whatever stands behind that character. -/
namespace TextGen.Text

variable {test : Char → Bool} {stop : Char}

theorem takeWhile_append_stop (text rest : List Char) (h : test stop = false) :
    (text ++ stop :: rest).takeWhile test = text.takeWhile test := by
  induction text with
  | nil => simp [h]
  | cons c text ih =>
    rw [List.cons_append, List.takeWhile_cons, List.takeWhile_cons, ih]

theorem dropWhile_append_stop (text rest : List Char) (h : test stop = false) :
    (text ++ stop :: rest).dropWhile test = text.dropWhile test ++ stop :: rest := by
  induction text with
  | nil => simp [h]
  | cons c text ih =>
    rw [List.cons_append, List.dropWhile_cons, List.dropWhile_cons, ih]
    split <;> rfl

theorem takeWhile_append_of_stopped {text : List Char} (stopped : text.dropWhile test ≠ [])
    (rest : List Char) : (text ++ rest).takeWhile test = text.takeWhile test ∧
      (text ++ rest).dropWhile test = text.dropWhile test ++ rest := by
  induction text with
  | nil => exact absurd rfl stopped
  | cons c text ih =>
    simp only [List.cons_append, List.takeWhile_cons, List.dropWhile_cons] at stopped ⊢
    by_cases passes : test c = true
    · simp only [passes, if_true] at stopped ⊢
      exact ⟨congrArg (c :: ·) (ih stopped).1, (ih stopped).2⟩
    · simp only [passes, Bool.false_eq_true, if_false]
      exact ⟨trivial, rfl⟩

theorem takeWhile_append_of_run {run rest : List Char} (passes : ∀ c ∈ run, test c = true)
    (stopped : ∀ c ∈ rest.head?, test c = false) :
    (run ++ rest).takeWhile test = run ∧ (run ++ rest).dropWhile test = rest := by
  rw [List.takeWhile_append_of_pos passes, List.dropWhile_append_of_pos passes]
  cases rest with
  | nil => exact ⟨List.append_nil run, rfl⟩
  | cons c rest => simp [stopped c rfl]

theorem dropPrefix?_append_stop (needle text rest : List Char) (h : stop ∉ needle) :
    dropPrefix? needle (text ++ stop :: rest) =
      (dropPrefix? needle text).map (· ++ stop :: rest) := by
  induction needle generalizing text with
  | nil => rfl
  | cons a needle ih =>
    rw [List.mem_cons, not_or] at h
    cases text with
    | nil => simp [dropPrefix?, Ne.symm h.1]
    | cons c text =>
      simp only [List.cons_append, dropPrefix?]
      split
      · exact ih text h.2
      · rfl

theorem all_ne_of_not_mem {text : List Char} (absent : stop ∉ text) :
    ∀ c ∈ text, decide (c ≠ stop) = true :=
  fun _ mem => decide_eq_true fun same => absent (same ▸ mem)

theorem takeWhileEnd_eq_rtakeWhile (test : Char → Bool) (text : List Char) :
    takeWhileEnd test text = text.rtakeWhile test := rfl

theorem takeWhileEnd_append_of_all (front : List Char) {text : List Char}
    (all : ∀ c ∈ text, test c = true) :
    takeWhileEnd test (front ++ text) = takeWhileEnd test front ++ text := by
  have turned : ∀ c ∈ text.reverse, test c = true := fun c mem => all c (List.mem_reverse.mp mem)
  rw [takeWhileEnd, List.reverse_append, List.takeWhile_append_of_pos turned, List.reverse_append,
    List.reverse_reverse, takeWhileEnd]

theorem takeWhileEnd_append_of_stop (front : List Char) {text : List Char} (mem : stop ∈ text)
    (h : test stop = false) : takeWhileEnd test (front ++ text) = takeWhileEnd test text := by
  obtain ⟨early, late, rfl⟩ := List.append_of_mem mem
  simp only [takeWhileEnd, List.reverse_append, List.reverse_cons, List.append_assoc,
    List.cons_append]
  rw [takeWhile_append_stop _ _ h, takeWhile_append_stop _ _ h]

end TextGen.Text
