import Mathlib
import TextGen.Proofs.Script.Reading
import TextGen.Proofs.Text.Trimming

/-! Signs outside constructs.
A text is clear of the signs that close or part alternatives if they stand in it only within
constructs of its own. What is read of it then does not begin with such a sign, and trimming changes
nothing about it. -/
namespace TextGen.Script

/-- Whether none of the characters stands outside an empty pair of parentheses. -/
def isClear (stops : List Char) : List Char → Bool
  | [] => true
  | '(' :: ')' :: rest => isClear stops rest
  | c :: rest => !stops.contains c && isClear stops rest

mutual

/-- Whether none of the characters would be met by a reader that looks for them, before it has
opened anything. -/
def Node.clearOf (stops : List Char) : Node → Bool
  | .text s => isClear stops s.toList
  | .assign _ value _ false _ => Tree.clearOf stops value
  | .dynamic _ source => source.toList.all (!stops.contains ·)
  | .guarded _ body => Tree.clearOf stops body
  | _ => true

def Tree.clearOf (stops : List Char) : Tree → Bool
  | [] => true
  | n :: t => n.clearOf stops && Tree.clearOf stops t

end

/- Texts. -/

theorem isClear_append (stops a b : List Char) (apart : a.getLast? ≠ some '(' ∨ b.head? ≠ some ')') :
    isClear stops (a ++ b) = (isClear stops a && isClear stops b) := by
  fun_induction isClear stops a with
  | case1 => rfl
  | case2 rest ih =>
    rw [List.cons_append, List.cons_append, isClear]
    apply ih
    refine apart.imp_left fun last ended => last ?_
    rw [List.getLast?_cons, List.getLast?_cons, ended]
    rfl
  | case3 c rest single ih =>
    have later : rest.getLast? ≠ some '(' ∨ b.head? ≠ some ')' := by
      refine apart.imp_left fun last ended => last ?_
      rw [List.getLast?_cons, ended]
      rfl
    rw [List.cons_append, isClear, ih later, Bool.and_assoc]
    rintro text rfl whole
    cases rest with
    | nil =>
      rw [List.nil_append] at whole
      rw [whole] at apart
      exact apart.elim (· rfl) (· rfl)
    | cons x rest =>
      cases whole
      exact single rest rfl rfl

theorem isClear_of_forall {stops text : List Char} (h : ∀ c ∈ text, c ∉ stops) :
    isClear stops text = true := by
  fun_induction isClear stops text with
  | case1 => rfl
  | case2 rest ih => exact ih fun c mem => h c (by simp [mem])
  | case3 c rest _ ih =>
    rw [ih fun c mem => h c (List.mem_cons_of_mem _ mem)]
    simp [h c List.mem_cons_self]

variable {stops extra : List Char}

theorem not_isBlank_of_closing (closing : stops ⊆ [')', '|']) {c : Char} (mem : c ∈ stops) :
    Text.isBlank c = false := by
  rcases eq_of_mem_closing closing mem with rfl | rfl <;> decide

theorem isClear_of_blank (closing : stops ⊆ [')', '|']) {text : List Char}
    (blank : ∀ c ∈ text, Text.isBlank c = true) : isClear stops text = true := by
  refine isClear_of_forall fun c mem stop => ?_
  have solid := not_isBlank_of_closing closing stop
  rw [blank c mem] at solid
  cases solid

theorem isClear_trimStart (closing : stops ⊆ [')', '|']) (text : List Char) :
    isClear stops (Text.trimStart text) = isClear stops text := by
  have blank : ∀ c ∈ text.takeWhile Text.isBlank, Text.isBlank c = true :=
    fun c mem => List.mem_takeWhile_imp mem
  have apart : (text.takeWhile Text.isBlank).getLast? ≠ some '(' := by
    intro last
    exact absurd (blank _ (List.mem_of_getLast? last)) (by decide)
  have whole := isClear_append stops _ (text.dropWhile Text.isBlank) (.inl apart)
  rw [List.takeWhile_append_dropWhile, isClear_of_blank closing blank] at whole
  exact whole.symm

theorem isClear_trimEnd (closing : stops ⊆ [')', '|']) (text : List Char) :
    isClear stops (Text.trimEnd text) = isClear stops text := by
  have blank : ∀ c ∈ (text.reverse.takeWhile Text.isBlank).reverse, Text.isBlank c = true :=
    fun c mem => List.mem_takeWhile_imp (List.mem_reverse.mp mem)
  have apart : (text.reverse.takeWhile Text.isBlank).reverse.head? ≠ some ')' := by
    intro first
    exact absurd (blank _ (List.mem_of_mem_head? first)) (by decide)
  have whole := isClear_append stops (Text.trimEnd text) _ (.inr apart)
  rw [Text.trimEnd, ← List.reverse_append, List.takeWhile_append_dropWhile, List.reverse_reverse,
    isClear_of_blank closing blank, Bool.and_true] at whole
  exact whole.symm

/- Trees. -/

theorem Tree.clearOf_cons {n : Node} (apart : ∀ s, n = .text s → s.toList.getLast? ≠ some '(')
    (t : Tree) : Tree.clearOf stops (Tree.cons n t) = (n.clearOf stops && Tree.clearOf stops t) := by
  unfold Tree.cons
  split
  · rename_i s u rest
    simp only [Tree.clearOf, Node.clearOf, String.toList_append]
    rw [isClear_append stops _ _ (.inl (apart s rfl)), Bool.and_assoc]
  · rfl

theorem Tree.clearOf_mapLast {f : Node → Node}
    (same : ∀ n, (f n).clearOf stops = n.clearOf stops) (t : Tree) :
    Tree.clearOf stops (mapLast f t) = Tree.clearOf stops t := by
  induction t with
  | nil => rfl
  | cons n t ih =>
    cases t with
    | nil => simp only [mapLast, clearOf, same]
    | cons m t =>
      simp only [mapLast, clearOf] at ih ⊢
      rw [ih]

theorem Node.clearOf_trimNodeStart (closing : stops ⊆ [')', '|']) (n : Node) :
    (Tree.trimNodeStart n).clearOf stops = n.clearOf stops := by
  cases n with
  | text s => simp [Tree.trimNodeStart, Node.clearOf, isClear_trimStart closing]
  | _ => rfl

theorem Node.clearOf_trimNodeEnd (closing : stops ⊆ [')', '|']) (n : Node) :
    (Tree.trimNodeEnd n).clearOf stops = n.clearOf stops := by
  cases n with
  | text s => simp [Tree.trimNodeEnd, Node.clearOf, isClear_trimEnd closing]
  | _ => rfl

theorem Tree.clearOf_trim (closing : stops ⊆ [')', '|']) (t : Tree) :
    Tree.clearOf stops t.trim = Tree.clearOf stops t := by
  have kept : ∀ u : Tree, Tree.clearOf stops (u.filter (!isBlankText ·)) = Tree.clearOf stops u := by
    intro u
    induction u with
    | nil => rfl
    | cons n u ih =>
      by_cases blank : isBlankText n = true
      · have empty : n.clearOf stops = true := by
          cases n with
          | text s =>
            have none : s = "" := of_decide_eq_true blank
            rw [none]
            rfl
          | _ => cases blank
        rw [List.filter_cons_of_neg (by simp [blank]), ih, clearOf, empty, Bool.true_and]
      · rw [List.filter_cons_of_pos (by simp [blank]), clearOf, ih, clearOf]
  unfold trim
  rw [kept, clearOf_mapLast (Node.clearOf_trimNodeEnd closing)]
  cases t with
  | nil => rfl
  | cons n t => simp only [clearOf, Node.clearOf_trimNodeStart closing]

theorem isClear_nil (text : List Char) : isClear [] text = true :=
  isClear_of_forall fun _ _ => List.not_mem_nil

mutual

theorem Tree.clearOf_nil : ∀ t : Tree, Tree.clearOf [] t = true
  | [] => rfl
  | n :: t => by rw [Tree.clearOf, Node.clearOf_nil n, Tree.clearOf_nil t]; rfl

theorem Node.clearOf_nil : ∀ n : Node, n.clearOf [] = true
  | .text s => isClear_nil s.toList
  | .newline => rfl
  | .symbol _ _ => rfl
  | .choice _ _ => rfl
  | .assign _ value _ true _ => rfl
  | .assign _ value _ false _ => Tree.clearOf_nil value
  | .dynamic _ source => by simp [Node.clearOf]
  | .guarded _ body => Tree.clearOf_nil body

end

/- Nodes. -/

theorem last_of_readsNode {first : Char} {c next : Cursor} {n : Node}
    (h : ReadsNode stops first c n next) : ∀ s, n = .text s → s.toList.getLast? ≠ some '(' := by
  intro s text
  cases h with
  | dollar => cases text; decide
  | ampersand => cases text; decide
  | pair => cases text; decide
  | brace => cases text; decide
  | close => cases text; decide
  | bar => cases text; decide
  | plain unsigned =>
    cases text
    intro last
    rw [String.toList_ofList] at last
    rcases List.mem_cons.mp (List.mem_of_getLast? last) with rfl | mem
    · exact unsigned (by decide)
    · have passed := List.mem_takeWhile_imp mem
      simp [signs] at passed
  | dynamic target =>
    rw [dynamic] at text
    split at text
    · rename_i none
      cases target.symm.trans none
    · cases text
  | _ => cases text

theorem not_reads_open {b : List Char} {t : Tree} {next : Cursor} (open_ : '(' ∉ stops) :
    ¬ Reads stops ⟨b, ['(']⟩ t next := by
  intro h
  cases h with
  | stop stop => exact open_ stop
  | cons _ head _ =>
    cases head with
    | pair shut => cases shut
    | inlineAssign _ target _ _ => cases target
    | choice _ _ body => exact not_readsAlternatives_nil body
    | plain unsigned => exact unsigned (by decide)

theorem rest_ne_open_of_reads {c next : Cursor} {t : Tree} (open_ : '(' ∉ stops)
    (h : Reads stops c t next) : c.rest ≠ ['('] ∧ next.rest ≠ ['('] := by
  constructor
  · intro ended
    obtain ⟨b, rest⟩ := c
    simp only at ended
    rw [ended] at h
    exact not_reads_open open_ h
  · intro ended
    have ends := ends_of_reads h
    rw [ended] at ends
    exact open_ (ends '(' rfl)

theorem not_mem_of_readsNode (closing : extra ⊆ [')', '|']) {first : Char} {c next : Cursor}
    {n : Node} (h : ReadsNode stops first c n next) (clear : n.clearOf extra = true) :
    first ∉ extra := by
  intro mem
  rcases eq_of_mem_closing closing mem with rfl | rfl
  · cases h with
    | close => simp [Node.clearOf, isClear, mem] at clear
    | plain unsigned => exact unsigned (by decide)
  · cases h with
    | bar => simp [Node.clearOf, isClear, mem] at clear
    | plain unsigned => exact unsigned (by decide)

end TextGen.Script
