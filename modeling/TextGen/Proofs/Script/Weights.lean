import Mathlib
import TextGen.Proofs.Number.Whole
import TextGen.Proofs.Script.Reading
import TextGen.Proofs.Text.Trimming

/-! Weights that were written.
A number in brackets at the end of a tree becomes the weight of its alternative, and what is left is
the tree that stood before it. A tree that ends with a letter or a digit has no weight of its own. -/
namespace TextGen.Script

structure Numeral where
  digits : List Char
  all : digits.all Char.isDigit = true
  positive : 0 < Number.ofDigits digits

namespace Numeral

def weight (n : Numeral) : Float := Number.nearest (Number.ofDigits n.digits) 0

def text : Option Numeral → List Char
  | none => []
  | some n => ' ' :: '[' :: (n.digits ++ [']'])

theorem digits_ne_nil (n : Numeral) : n.digits ≠ [] := by
  intro none
  have positive := n.positive
  rw [none] at positive
  cases positive

theorem weightValue? (n : Numeral) : Script.weightValue? n.digits = some n.weight := by
  have all := List.all_eq_true.mp n.all
  have taken : n.digits.takeWhile Char.isDigit = n.digits := List.takeWhile_eq_self_iff.mpr all
  have left : n.digits.dropWhile Char.isDigit = [] := List.dropWhile_eq_nil_iff.mpr all
  rw [Script.weightValue?, taken, left, if_pos ⟨n.digits_ne_nil, rfl⟩,
    Number.ofChars?_of_isDigit n.digits_ne_nil all]
  rfl

theorem weight_pos (n : Numeral) : 0 < n.weight := Number.nearest_pos n.positive.ne'

end Numeral

theorem lastBracketed?_append_blank (text : List Char) {blanks : List Char}
    (blank : blanks.all Text.isBlank = true) :
    lastBracketed? (text ++ blanks) = lastBracketed? text := by
  rw [lastBracketed?, Text.trimEnd_append_blank text blank, lastBracketed?]

theorem lastBracketed?_append {before inside : List Char} (free : '[' ∉ inside) :
    lastBracketed? (before ++ '[' :: (inside ++ [']'])) = some (before, inside) := by
  have last : ∀ c ∈ (before ++ '[' :: (inside ++ [']'])).getLast?, Text.isBlank c = false := by
    have shut : (before ++ '[' :: (inside ++ [']'])).getLast? = some ']' := by
      rw [← List.cons_append, ← List.append_assoc, List.getLast?_concat]
    rw [shut]
    rintro c ⟨⟩
    decide
  have turned : (before ++ '[' :: (inside ++ [']'])).reverse =
      ']' :: (inside.reverse ++ '[' :: before.reverse) := by simp
  have apart : ∀ c ∈ inside.reverse, decide (c ≠ '[') = true := by
    intro c mem
    rw [decide_eq_true_iff]
    rintro rfl
    exact free (List.mem_reverse.mp mem)
  rw [lastBracketed?, Text.trimEnd_eq_self last, turned]
  simp only [List.dropWhile_append_of_pos apart, List.takeWhile_append_of_pos apart]
  simp

theorem lastBracketed?_eq_none {text : List Char}
    (last : ∀ c ∈ text.getLast?, c.isAlphanum = true) : lastBracketed? text = none := by
  rw [lastBracketed?, Text.trimEnd_eq_self fun c mem => Text.isBlank_of_isAlphanum (last c mem)]
  split
  · rename_i rest turned
    have letter : ']'.isAlphanum = true := by
      apply last
      rw [← List.head?_reverse, turned]
      rfl
    cases letter
  · rfl

/-- A text that ends with a letter or a digit, then a weight and blanks, is split before the
weight. -/
theorem weighted?_append {u : List Char} (w : Option Numeral) {blanks : List Char}
    (last : ∀ c ∈ u.getLast?, c.isAlphanum = true) (blank : blanks.all Text.isBlank = true) :
    weighted? (String.ofList (u ++ Numeral.text w ++ blanks)) =
      w.map fun n => (String.ofList u, n.weight) := by
  rw [weighted?, String.toList_ofList, lastBracketed?_append_blank _ blank]
  cases w with
  | none =>
    rw [Numeral.text, List.append_nil, lastBracketed?_eq_none last]
    rfl
  | some n =>
    have split : u ++ Numeral.text (some n) = (u ++ [' ']) ++ '[' :: (n.digits ++ [']']) := by
      simp [Numeral.text]
    have free : '[' ∉ n.digits := by
      intro mem
      cases List.all_eq_true.mp n.all _ mem
    have kept : Text.trimEnd (u ++ [' ']) = u := by
      rw [Text.trimEnd_append_blank u (by decide)]
      exact Text.trimEnd_eq_self fun c mem => Text.isBlank_of_isAlphanum (last c mem)
    rw [split, lastBracketed?_append free]
    simp only [Option.bind_some, n.weightValue?, if_pos n.weight_pos, kept, Option.map_some]

/- Text at the end of a tree. -/

/-- Whether a node is no text or ends with a letter or a digit. -/
def Node.endsSolid : Node → Bool
  | .text s => s.toList.getLast?.any Char.isAlphanum
  | _ => true

theorem Node.getLast?_of_endsSolid {s : String} (h : (Node.text s).endsSolid = true) :
    s.toList ≠ [] ∧ ∀ c ∈ s.toList.getLast?, c.isAlphanum = true := by
  have letter : s.toList.getLast?.any Char.isAlphanum = true := h
  constructor
  · intro none
    rw [none] at letter
    cases letter
  · intro c mem
    rw [Option.mem_def.mp mem] at letter
    exact letter

namespace Tree

def ofPlain (s : String) : Tree := if s = "" then [] else [.text s]

theorem cons_text_ofPlain (u s : String) : cons (.text u) (ofPlain s) = [.text (u ++ s)] := by
  rw [ofPlain]
  split
  · rename_i none
    rw [none, String.append_empty]
    rfl
  · rfl

/-- Puts a text behind a tree. Neighbouring texts become one. -/
def addEnd (s : String) : Tree → Tree
  | [] => ofPlain s
  | [n] => cons n (ofPlain s)
  | n :: m :: t => n :: addEnd s (m :: t)

theorem addEnd_concat (s : String) (t : Tree) (n : Node) :
    addEnd s (t ++ [n]) = t ++ cons n (ofPlain s) := by
  induction t with
  | nil => rfl
  | cons m t ih =>
    cases t with
    | nil => rfl
    | cons m' t =>
      simp only [List.cons_append, addEnd] at ih ⊢
      rw [ih]

theorem addEnd_empty (t : Tree) : addEnd "" t = t := by
  rcases t.eq_nil_or_concat with rfl | ⟨t, n, rfl⟩
  · rfl
  · rw [List.concat_eq_append, addEnd_concat]
    cases n <;> rfl

theorem cons_addEnd (n : Node) (s : String) (t : Tree) :
    cons n (addEnd s t) = addEnd s (cons n t) := by
  cases t with
  | nil => cases n <;> rfl
  | cons m t =>
    cases n with
    | text u =>
      cases m with
      | text v =>
        cases t with
        | nil => exact (cons_text_append u v (ofPlain s)).symm
        | cons m' t => rfl
      | _ => cases t <;> rfl
    | _ => cases t <;> rfl

theorem mapLast_concat (f : Node → Node) (t : Tree) (n : Node) :
    mapLast f (t ++ [n]) = t ++ [f n] := by
  induction t with
  | nil => rfl
  | cons m t ih =>
    cases t with
    | nil => rfl
    | cons m' t =>
      simp only [List.cons_append, mapLast] at ih ⊢
      rw [ih]

theorem trim_concat_blank (t : Tree) (u : List Char) {blanks : List Char}
    (blank : blanks.all Text.isBlank = true) :
    trim (t ++ [.text (String.ofList (u ++ blanks))]) = trim (t ++ [.text (String.ofList u)]) := by
  cases t with
  | nil =>
    have same := Text.trim_append_blank u blank
    simp only [Text.trim] at same
    simp only [trim, List.nil_append, mapLast, trimNodeStart, trimNodeEnd, String.toList_ofList, same]
  | cons n t =>
    have same := Text.trimEnd_append_blank u blank
    simp only [trim, List.cons_append]
    rw [← List.cons_append, ← List.cons_append, mapLast_concat, mapLast_concat, trimNodeEnd,
      trimNodeEnd, String.toList_ofList, String.toList_ofList, same]

theorem trim_concat_empty (t : Tree) {n : Node} (other : ∀ u, n ≠ .text u) :
    trim (t ++ [n] ++ [.text ""]) = trim (t ++ [n]) := by
  have start : trimNodeStart n = n := by
    cases n with
    | text u => exact absurd rfl (other u)
    | _ => rfl
  have end_ : trimNodeEnd n = n := by
    cases n with
    | text u => exact absurd rfl (other u)
    | _ => rfl
  have empty : trimNodeEnd (.text "") = .text "" := rfl
  cases t with
  | nil => simp [trim, mapLast, start, end_, empty, isBlankText]
  | cons m t =>
    simp only [trim, List.cons_append]
    rw [← List.cons_append, ← List.cons_append, mapLast_concat, mapLast_concat, end_, empty,
      List.filter_append, List.filter_cons_of_neg (by simp [isBlankText]), List.filter_nil,
      List.append_nil]

end Tree

theorem Alternative.ofTree_concat_text (t : Tree) {u : List Char} (some_ : u ≠ [])
    (last : ∀ c ∈ u.getLast?, c.isAlphanum = true) (w : Option Numeral) {blanks : List Char}
    (blank : blanks.all Text.isBlank = true) :
    Alternative.ofTree (t ++ [.text (String.ofList (u ++ Numeral.text w ++ blanks))]) =
      .mk (Tree.trim (t ++ [.text (String.ofList u)])) (w.map Numeral.weight) := by
  rw [Alternative.ofTree, List.getLast?_concat]
  simp only [weighted?_append w last blank]
  cases w with
  | none =>
    simp only [Option.map_none, Numeral.text, List.append_nil, Tree.trim_concat_blank t u blank]
  | some n =>
    obtain ⟨c, mem⟩ : ∃ c, c ∈ u.getLast? := Option.ne_none_iff_exists'.mp (by simpa using some_)
    have kept : c ∈ Text.trim u :=
      Text.mem_trim (List.mem_of_getLast? mem) (Text.isBlank_of_isAlphanum (last c mem))
    have shown : Text.trimmed (String.ofList u) ≠ "" := by
      intro none
      have none := congrArg String.toList none
      rw [Text.trimmed, String.toList_ofList, String.toList_ofList] at none
      rw [none] at kept
      cases kept
    simp only [Option.map_some, shown, and_false, if_false, Tree.mapLast_concat]

theorem Alternative.ofTree_concat_other (t : Tree) {n : Node} (other : ∀ u, n ≠ .text u)
    (w : Option Numeral) {blanks : List Char} (blank : blanks.all Text.isBlank = true) :
    Alternative.ofTree (t ++ [n] ++ Tree.ofPlain (String.ofList (Numeral.text w ++ blanks))) =
      .mk (Tree.trim (t ++ [n])) (w.map Numeral.weight) := by
  have empty : Tree.trim (t ++ [n] ++ [.text (String.ofList [])]) = Tree.trim (t ++ [n]) :=
    Tree.trim_concat_empty t other
  rw [Tree.ofPlain]
  split
  · rename_i none
    have none : Numeral.text w ++ blanks = [] := by simpa using congrArg String.toList none
    cases w with
    | none =>
      rw [List.append_nil, Alternative.ofTree, List.getLast?_concat]
      cases n with
      | text u => exact absurd rfl (other u)
      | _ => rfl
    | some n => cases none
  · have found := weighted?_append (u := []) w (by simp) blank
    rw [List.nil_append] at found
    rw [Alternative.ofTree, List.getLast?_concat]
    simp only [found]
    cases w with
    | none =>
      have trimmed := Tree.trim_concat_blank (t ++ [n]) [] blank
      rw [List.nil_append] at trimmed
      simp only [Option.map_none, Numeral.text, List.nil_append, trimmed, empty]
    | some n =>
      simp only [Option.map_some, Tree.mapLast_concat, empty]
      simp

/-- What follows a tree in its alternative, a weight and blanks, changes nothing but the weight. -/
theorem Alternative.ofTree_addEnd {t : Tree} (some_ : t ≠ [])
    (solid : ∀ n ∈ t.getLast?, n.endsSolid = true) (w : Option Numeral) {blanks : List Char}
    (blank : blanks.all Text.isBlank = true) :
    Alternative.ofTree (t.addEnd (String.ofList (Numeral.text w ++ blanks))) =
      .mk t.trim (w.map Numeral.weight) := by
  rcases t.eq_nil_or_concat with rfl | ⟨t, n, rfl⟩
  · exact absurd rfl some_
  rw [List.concat_eq_append, List.getLast?_concat] at solid
  rw [List.concat_eq_append, Tree.addEnd_concat]
  cases n with
  | text u =>
    obtain ⟨some_, last⟩ := Node.getLast?_of_endsSolid (solid _ rfl)
    rw [Tree.cons_text_ofPlain, ← String.ofList_toList (s := u), ← String.ofList_append,
      ← List.append_assoc]
    exact ofTree_concat_text t some_ last w blank
  | _ =>
    change Alternative.ofTree (t ++ (_ :: Tree.ofPlain _)) = _
    rw [List.append_cons]
    exact ofTree_concat_other t (fun u same => by cases same) w blank

end TextGen.Script
