import Mathlib
import TextGen.Proofs.Script.Grammar
import TextGen.Script.Evaluation

/-! Texts in which nothing is left to resolve.
If no construct opens anywhere in a text, then whatever is read from it is the text itself, and a
pass over it changes nothing but the line ends. -/
namespace TextGen.Script

namespace Node

/-- Line ends, and texts without any, stand for themselves. -/
def IsLiteral : Node → Prop
  | text s => '\n' ∉ s.toList
  | newline => True
  | _ => False

def literal : Node → List Char
  | text s => s.toList
  | newline => ['\n']
  | _ => []

end Node

/- What opens a construct. -/

theorem holdsConstruct_of_append {front back : List Char}
    (h : holdsConstruct (front ++ back) = false) : holdsConstruct back = false := by
  induction front with
  | nil => exact h
  | cons c front ih =>
    rw [List.cons_append, holdsConstruct, Bool.or_eq_false_iff] at h
    exact ih h.2

theorem Cursor.exists_of_name? {c next : Cursor} {name : String}
    (h : c.name? = some (name, next)) :
    ∃ first rest, c.rest = first :: rest ∧ isNameStart first = true ∧
      next.rest = c.rest.dropWhile isNameChar := by
  unfold name? at h
  split at h
  · cases h
  · rename_i first rest split
    split at h
    · rename_i start
      cases h
      exact ⟨first, rest, split, start, rfl⟩
    · cases h

theorem Cursor.rest_of_after? {c next : Cursor} {sign : Char} (h : c.after? sign = some next) :
    c.rest = sign :: next.rest := by
  unfold after? at h
  split at h
  · cases h
  · rename_i first rest split
    split at h
    · rename_i same
      cases h
      rw [split, same]
    · cases h

theorem Cursor.isNameChar_of_isNameStart {c : Char} (h : isNameStart c = true) :
    isNameChar c = true := by
  simp only [isNameStart, isNameChar, Char.isAlphanum, Bool.or_eq_true] at h ⊢
  tauto

theorem Cursor.isBlank_of_isSpace {c : Char} (h : isSpace c = true) : Text.isBlank c = true := by
  simp only [isSpace, Bool.or_eq_true, decide_eq_true_eq] at h
  rcases h with (rfl | rfl) | rfl <;> decide

theorem dropWhile_isBlank {sign : Char} (solid : Text.isBlank sign = false)
    {text rest : List Char} (h : text.dropWhile Cursor.isSpace = sign :: rest) :
    text.dropWhile Text.isBlank = sign :: rest := by
  induction text with
  | nil => cases h
  | cons c text ih =>
    rw [List.dropWhile_cons] at h ⊢
    by_cases space : Cursor.isSpace c = true
    · rw [if_pos space] at h
      rw [if_pos (Cursor.isBlank_of_isSpace space)]
      exact ih h
    · rw [if_neg space] at h
      cases h
      rw [if_neg (by rw [solid]; exact Bool.false_ne_true)]

variable {stops : List Char} {first : Char} {c next : Cursor}

theorem opensConstruct_of_name? {name : String} (h : c.name? = some (name, next)) :
    opensConstruct ('$' :: c.rest) = true := by
  obtain ⟨first, rest, split, start, _⟩ := Cursor.exists_of_name? h
  rw [split]
  exact start

theorem exists_name?_of_target? {name : String} (h : target? c = some (name, next)) :
    ∃ mid, c.name? = some (name, mid) ∧ mid.skipSpaces.rest = '=' :: next.rest := by
  obtain ⟨⟨found, mid⟩, named, assigned⟩ := Option.bind_eq_some_iff.mp h
  obtain ⟨after, equals, same⟩ := Option.map_eq_some_iff.mp assigned
  cases same
  obtain ⟨sign, come, single⟩ := Option.bind_eq_some_iff.mp equals
  split at single
  · cases single
  · cases single
    exact ⟨mid, named, Cursor.rest_of_after? come⟩

theorem opensConstruct_of_target? {name : String} (h : target? c = some (name, next)) :
    opensConstruct ('$' :: c.rest) = true ∧ opensConstruct ('&' :: c.rest) = true := by
  obtain ⟨mid, named, equals⟩ := exists_name?_of_target? h
  refine ⟨opensConstruct_of_name? named, ?_⟩
  obtain ⟨first, rest, split, start, after⟩ := Cursor.exists_of_name? named
  have within := Cursor.isNameChar_of_isNameStart start
  rw [split, List.dropWhile_cons, if_pos within] at after
  have blanks := dropWhile_isBlank (by decide) equals
  rw [after] at blanks
  rw [split]
  simp only [opensConstruct, start, blanks, Bool.true_and]
  rfl

theorem opensConstruct_of_condition? {condition : Condition}
    (h : condition? c = some (condition, next)) : opensConstruct ('\x7b' :: c.rest) = true := by
  obtain ⟨⟨name, mid⟩, named, _⟩ := Option.bind_eq_some_iff.mp h
  obtain ⟨sign, come, _⟩ := Option.bind_eq_some_iff.mp named
  have blanks := dropWhile_isBlank (by decide) (Cursor.rest_of_after? come)
  simp only [opensConstruct, blanks]
  rfl

theorem opensConstruct_of_guard (h : guard c ≠ .other) :
    opensConstruct ('\x7b' :: c.rest) = true := by
  cases found : condition? c with
  | none =>
    refine absurd ?_ h
    rw [guard]
    split
    · rfl
    · rename_i other
      cases found.symm.trans other
  | some read => exact opensConstruct_of_condition? found

theorem not_readsAlternatives_nil {b : List Char} {found : List Alternative} {closed : Cursor} :
    ¬ ReadsAlternatives ⟨b, []⟩ found closed := by
  intro h
  cases h with
  | more head bar _ =>
    cases head
    cases bar
  | last head _ close =>
    cases head
    cases close

/- Reading a text without constructs. -/

theorem literal_of_readsNode {n : Node} (h : ReadsNode stops first c n next)
    (finished : holdsConstruct (first :: c.rest) = false) :
    n.IsLiteral ∧ first :: c.rest = n.literal ++ next.rest := by
  have here : opensConstruct (first :: c.rest) ≠ true := by
    rw [holdsConstruct, Bool.or_eq_false_iff] at finished
    exact ne_true_of_eq_false finished.1
  have parenthesis : first = '(' → c.after? ')' = none → c.rest = [] := by
    rintro rfl opened
    cases text : c.rest with
    | nil => rfl
    | cons x rest =>
      refine absurd ?_ here
      rw [text]
      have other : x ≠ ')' := by
        rintro rfl
        rw [Cursor.after?, text] at opened
        cases opened
      exact decide_eq_true other
  cases h with
  | newline => exact ⟨trivial, rfl⟩
  | assign target _ => exact absurd (opensConstruct_of_target? target).1 here
  | symbol _ named => exact absurd (opensConstruct_of_name? named) here
  | dollar => exact ⟨by simp [Node.IsLiteral], rfl⟩
  | dynamic target => exact absurd (opensConstruct_of_target? target).2 here
  | ampersand => exact ⟨by simp [Node.IsLiteral], rfl⟩
  | pair closed =>
    rw [Cursor.rest_of_after? closed]
    exact ⟨by simp [Node.IsLiteral], rfl⟩
  | inlineAssign opened target _ _ =>
    obtain ⟨sign, come, _⟩ := Option.bind_eq_some_iff.mp target
    have nothing := Cursor.rest_of_after? come
    rw [Cursor.skipSpaces, Cursor.span, parenthesis rfl opened] at nothing
    cases nothing
  | choice opened _ body =>
    obtain ⟨b, rest⟩ := c
    cases parenthesis rfl opened
    exact absurd body not_readsAlternatives_nil
  | brace => exact ⟨by simp [Node.IsLiteral], rfl⟩
  | guardAlone found _ =>
    exact absurd (opensConstruct_of_guard (by simp [found])) here
  | guarded found _ _ _ _ =>
    exact absurd (opensConstruct_of_guard (by simp [found])) here
  | close => exact ⟨by simp [Node.IsLiteral], rfl⟩
  | bar => exact ⟨by simp [Node.IsLiteral], rfl⟩
  | plain unsigned =>
    constructor
    · simp only [plain, Node.IsLiteral, String.toList_ofList, List.mem_cons, not_or]
      refine ⟨?_, fun mem => ?_⟩
      · rintro rfl
        exact unsigned (by decide)
      · have passed := List.mem_takeWhile_imp mem
        simp [signs] at passed
    · simp [plain, Node.literal, Cursor.span]

theorem literal_cons {n : Node} {t : Tree} (head : n.IsLiteral) (tail : ∀ m ∈ t, m.IsLiteral) :
    (∀ m ∈ Tree.cons n t, m.IsLiteral) ∧
      (Tree.cons n t).flatMap Node.literal = n.literal ++ t.flatMap Node.literal := by
  unfold Tree.cons
  split
  · rename_i s u rest
    refine ⟨fun m mem => ?_, by simp [Node.literal]⟩
    rcases List.mem_cons.mp mem with rfl | mem
    · have second := tail (.text u) List.mem_cons_self
      simp only [Node.IsLiteral] at head second ⊢
      simp [head, second]
    · exact tail m (List.mem_cons_of_mem _ mem)
  · exact ⟨List.forall_mem_cons.mpr ⟨head, tail⟩, rfl⟩

theorem literal_of_reads :
    ∀ {stops : List Char} {c next : Cursor} {t : Tree}, Reads stops c t next →
      holdsConstruct c.rest = false →
      (∀ n ∈ t, n.IsLiteral) ∧ c.rest = t.flatMap Node.literal ++ next.rest
  | _, _, _, _, .done, _ => ⟨by simp, rfl⟩
  | _, _, _, _, .stop _, _ => ⟨by simp, rfl⟩
  | _, _, _, _, .cons (t := t) _ head tail, finished => by
    obtain ⟨literal, whole⟩ := literal_of_readsNode head finished
    have rest := finished
    simp only [whole] at rest
    obtain ⟨literals, more⟩ := literal_of_reads tail (holdsConstruct_of_append rest)
    have joined := literal_cons literal literals
    refine ⟨joined.1, ?_⟩
    rw [joined.2, List.append_assoc, ← more]
    exact whole

/- Visiting its tree. -/

def spaced (c : Char) : Char := if c = '\n' then ' ' else c

theorem map_spaced_of_not_mem {text : List Char} (h : '\n' ∉ text) : text.map spaced = text := by
  have same : ∀ c ∈ text, spaced c = id c := by
    intro c mem
    refine if_neg ?_
    rintro rfl
    exact h mem
  rw [List.map_congr_left same, List.map_id]

theorem visitTree_literal (settings : Settings) (p : Pass) {t : Tree}
    (all : ∀ n ∈ t, n.IsLiteral) :
    visitTree settings t p = (.ok (String.ofList ((t.flatMap Node.literal).map spaced)), p) := by
  induction t with
  | nil => rfl
  | cons n t ih =>
    have tail := ih fun m mem => all m (List.mem_cons_of_mem _ mem)
    have head := all n List.mem_cons_self
    have first : visitNode settings n p = (.ok (String.ofList (n.literal.map spaced)), p) := by
      cases n with
      | text s =>
        rw [Node.literal, map_spaced_of_not_mem head, String.ofList_toList]
        rfl
      | newline => rfl
      | _ => exact head.elim
    rw [visitTree, first]
    simp only [Drawn.andThen_ok, tail, List.flatMap_cons, List.map_append, String.ofList_append]

/-- What is read from a text in which no construct opens is the text itself, and a pass only trims
it and shows its line ends as blanks. So what a pass leaves when nothing is pending has no
construct in it. -/
theorem finished_is_literal :
    (∀ (text : String) (t : Tree), isUnfinished text = false → Tree.ofText? text = .ok t →
      (∀ n ∈ t, n.IsLiteral) ∧ t.flatMap Node.literal = text.toList ∧
        ∀ settings number s,
          runPass settings number t s = (.ok (Text.trimmed (text.map spaced)), s)) ∧
    ∀ (script : Script) (number : Nat) (text output : String) (s s' : State) (t : Tree),
      script.evaluatePass number text s = (.ok (.ok (output, false)), s') →
      Tree.ofText? output = .ok t →
      (∀ n ∈ t, n.IsLiteral) ∧ t.flatMap Node.literal = output.toList := by
  have literal : ∀ (text : String) (t : Tree), isUnfinished text = false →
      Tree.ofText? text = .ok t →
      (∀ n ∈ t, n.IsLiteral) ∧ t.flatMap Node.literal = text.toList := by
    intro text t finished read
    obtain ⟨next, derived⟩ := (ofText?_eq_ok_iff text t).mp read
    obtain ⟨literals, whole⟩ := literal_of_reads derived finished
    refine ⟨literals, ?_⟩
    have ended := rest_of_reads derived
    rw [ended, List.append_nil] at whole
    exact whole.symm
  constructor
  · intro text t finished read
    obtain ⟨literals, whole⟩ := literal text t finished read
    refine ⟨literals, whole, fun settings number s => ?_⟩
    have shown : text.map spaced = String.ofList (text.toList.map spaced) := by
      rw [← String.toList_map, String.ofList_toList]
    rw [runPass, visitTree_literal settings _ literals, whole, shown]
    rfl
  · intro script number text output s s' t passed read
    refine literal output t ?_ read
    rw [Script.evaluatePass] at passed
    split at passed
    · cases passed
    · obtain ⟨shown, _, _, passed⟩ := Drawn.andThen_eq_ok.mp passed
      simp only [Prod.mk.injEq, Except.ok.injEq] at passed
      rw [← passed.1.1]
      exact passed.1.2

theorem finished_is_literal_of_signs :
    let t : Tree := [.text "$5 & \x7bx\x7d a) ()", .newline, .text "| end "]
    let s : State := { run := ⟨⟨[], 0⟩, []⟩ }
    (isUnfinished "$5 & \x7bx\x7d a) ()\n| end " = false ∧
      Tree.ofText? "$5 & \x7bx\x7d a) ()\n| end " = .ok t ∧
      runPass {} 0 t s = (.ok "$5 & \x7bx\x7d a) () | end", s)) ∧
    (({} : Script).evaluatePass 0 "(a [2]).uc & b" s).1 = .ok (.ok ("A & b", false)) ∧
      Tree.ofText? "A & b" = .ok [.text "A & b"] ∧
      [Node.text "A & b"].flatMap Node.literal = "A & b".toList := by
  intro t s
  have read : Tree.ofText? "$5 & \x7bx\x7d a) ()\n| end " = .ok t := by with_unfolding_all rfl
  have output : Tree.ofText? "A & b" = .ok [.text "A & b"] := by with_unfolding_all rfl
  have passed : (({} : Script).evaluatePass 0 "(a [2]).uc & b" s).1 =
      .ok (.ok ("A & b", false)) := by
    decide +kernel
  have finished : isUnfinished "$5 & \x7bx\x7d a) ()\n| end " = false := by decide
  have literal := finished_is_literal.1 _ t finished read
  have shown : Text.trimmed ("$5 & \x7bx\x7d a) ()\n| end ".map spaced) = "$5 & \x7bx\x7d a) () | end" := by
    decide +kernel
  refine ⟨⟨finished, read, ?_⟩, passed, output, ?_⟩
  · rw [literal.2.2, shown]
  · exact (finished_is_literal.2 {} 0 _ _ s _ _ (Prod.ext passed rfl) output).2

end TextGen.Script
