import Mathlib
import TextGen.Proofs.Script.Columns
import TextGen.Proofs.Script.Weights

/-! Phrases.
A phrase is a list of words, symbols, alternatives and assignments, nested as deep as one likes. It
says both how it is written and which tree it stands for. -/
namespace TextGen.Script

structure PlainWord where
  text : String
  some_ : text ≠ ""
  plain : text.toList.all Char.isAlphanum = true

structure Identifier where
  text : String
  named : isName text = true

structure Steps where
  chain : Chain
  named : chain.isNamed = true

mutual

inductive Item where
  | word (w : PlainWord)
  | symbol (name : Identifier) (steps : Steps)
  | choice (branches : Branches) (steps : Steps)
  | assign (name : Identifier) (value : Phrase) (steps : Steps)

/-- Items between single spaces. -/
inductive Phrase where
  | one (item : Item)
  | more (item : Item) (rest : Phrase)

/-- Alternatives between bars, each with a weight or without. -/
inductive Branches where
  | one (phrase : Phrase) (weight : Option Numeral)
  | more (phrase : Phrase) (weight : Option Numeral) (rest : Branches)

end

mutual

def Item.text : Item → List Char
  | .word w => w.text.toList
  | .symbol name steps => '$' :: (name.text.toList ++ steps.chain.text.toList)
  | .choice branches steps => '(' :: (branches.text ++ ')' :: steps.chain.text.toList)
  | .assign name value steps =>
    '(' :: '$' :: (name.text.toList ++ '=' :: (value.text ++ ')' :: steps.chain.text.toList))

def Phrase.text : Phrase → List Char
  | .one item => item.text
  | .more item rest => item.text ++ ' ' :: rest.text

def Branches.text : Branches → List Char
  | .one phrase weight => phrase.text ++ Numeral.text weight
  | .more phrase weight rest =>
    phrase.text ++ (Numeral.text weight ++ ' ' :: '|' :: ' ' :: rest.text)

end

mutual

/-- The node that an item stands for. The column of an assignment is not part of it. -/
def Item.node : Item → Node
  | .word w => .text w.text
  | .symbol name steps => .symbol name.text steps.chain
  | .choice branches steps => .choice branches.alternatives steps.chain
  | .assign name value steps => .assign name.text value.tree 0 true steps.chain

def Phrase.tree : Phrase → Tree
  | .one item => [item.node]
  | .more item rest => Tree.cons item.node (Tree.cons (.text " ") rest.tree)

def Branches.alternatives : Branches → List Alternative
  | .one phrase weight => [.mk phrase.tree (weight.map Numeral.weight)]
  | .more phrase weight rest =>
    .mk phrase.tree (weight.map Numeral.weight) :: rest.alternatives

end

/- The trees of phrases have nothing to trim. -/

/-- Whether a node is no text or begins with a letter or a digit. -/
def Node.startsSolid : Node → Bool
  | .text s => s.toList.head?.any Char.isAlphanum
  | _ => true

theorem Node.exists_of_startsSolid {s : String} (h : (Node.text s).startsSolid = true) :
    ∃ c rest, s.toList = c :: rest ∧ c.isAlphanum = true := by
  have letter : s.toList.head?.any Char.isAlphanum = true := h
  cases text : s.toList with
  | nil =>
    rw [text] at letter
    cases letter
  | cons c rest =>
    rw [text] at letter
    exact ⟨c, rest, rfl, letter⟩

/-- A tree that ends with a letter, a digit or a construct and has no empty text. -/
structure Tree.EndsSolid (t : Tree) : Prop where
  some_ : t ≠ []
  last : ∀ n ∈ t.getLast?, n.endsSolid = true
  shown : ∀ n ∈ t, Tree.isBlankText n = false

theorem Tree.EndsSolid.cons {t : Tree} (h : t.EndsSolid) {n : Node}
    (shown : Tree.isBlankText n = false) : Tree.EndsSolid (Tree.cons n t) := by
  have apart : Tree.EndsSolid (n :: t) := by
    refine ⟨List.cons_ne_nil _ _, ?_, List.forall_mem_cons.mpr ⟨shown, h.shown⟩⟩
    rw [List.getLast?_cons_of_ne_nil h.some_]
    exact h.last
  obtain ⟨some_, last, rest⟩ := h
  cases n with
  | text u =>
    cases t with
    | nil => exact absurd rfl some_
    | cons m t =>
      cases m with
      | text v =>
        have visible : v ≠ "" := by simpa [Tree.isBlankText] using rest _ List.mem_cons_self
        have ending : v.toList ≠ [] := by simpa using visible
        refine ⟨List.cons_ne_nil _ _, ?_, ?_⟩
        · cases t with
          | nil =>
            have same : (u ++ v).toList.getLast? = v.toList.getLast? := by
              rw [String.toList_append, List.getLast?_append_of_ne_nil _ ending]
            rintro n ⟨⟩
            have before : v.toList.getLast?.any Char.isAlphanum = true := last (.text v) rfl
            change (u ++ v).toList.getLast?.any Char.isAlphanum = true
            rw [same]
            exact before
          | cons m t => simpa [Tree.cons] using last
        · refine List.forall_mem_cons.mpr ⟨?_, (List.forall_mem_cons.mp rest).2⟩
          simp [Tree.isBlankText, visible]
      | _ => exact apart
  | _ => exact apart

theorem Tree.mapLast_eq_self {f : Node → Node} {t : Tree} (same : ∀ n ∈ t.getLast?, f n = n) :
    mapLast f t = t := by
  rcases t.eq_nil_or_concat with rfl | ⟨t, n, rfl⟩
  · rfl
  · rw [List.concat_eq_append, List.getLast?_concat] at same
    rw [List.concat_eq_append, mapLast_concat, same n rfl]

theorem trimNodeStart_eq_self {n : Node} (h : n.startsSolid = true) : Tree.trimNodeStart n = n := by
  cases n with
  | text s =>
    obtain ⟨c, rest, text, letter⟩ := Node.exists_of_startsSolid h
    have solid := Text.isBlank_of_isAlphanum letter
    rw [Tree.trimNodeStart, text, Text.trimStart, List.dropWhile_cons_of_neg (by simp [solid]),
      ← text, String.ofList_toList]
  | _ => rfl

theorem trimNodeEnd_eq_self {n : Node} (h : n.endsSolid = true) : Tree.trimNodeEnd n = n := by
  cases n with
  | text s =>
    obtain ⟨_, last⟩ := Node.getLast?_of_endsSolid h
    rw [Tree.trimNodeEnd, Text.trimEnd_eq_self fun c mem => Text.isBlank_of_isAlphanum (last c mem),
      String.ofList_toList]
  | _ => rfl

theorem Tree.EndsSolid.trim_eq_self {t : Tree} (h : t.EndsSolid)
    (first : ∀ n ∈ t.head?, n.startsSolid = true) : t.trim = t := by
  have shown : t.filter (!Tree.isBlankText ·) = t := by
    refine List.filter_eq_self.mpr fun n mem => ?_
    rw [h.shown n mem]
    rfl
  have last : Tree.mapLast Tree.trimNodeEnd t = t :=
    Tree.mapLast_eq_self fun n mem => trimNodeEnd_eq_self (h.last n mem)
  cases t with
  | nil => rfl
  | cons n t =>
    rw [Tree.trim]
    simp only [trimNodeStart_eq_self (first n rfl), last, shown]

theorem PlainWord.toList_ne_nil (w : PlainWord) : w.text.toList ≠ [] := by
  intro none
  exact w.some_ (by simpa using none)

theorem PlainWord.isAlphanum (w : PlainWord) : ∀ c ∈ w.text.toList, c.isAlphanum = true :=
  List.all_eq_true.mp w.plain

theorem Item.startsSolid_node (i : Item) : i.node.startsSolid = true := by
  cases i with
  | word w =>
    change w.text.toList.head?.any Char.isAlphanum = true
    rw [List.head?_eq_some_head w.toList_ne_nil]
    exact w.isAlphanum _ (List.head_mem _)
  | _ => rfl

theorem Item.endsSolid_node (i : Item) : i.node.endsSolid = true := by
  cases i with
  | word w =>
    change w.text.toList.getLast?.any Char.isAlphanum = true
    rw [List.getLast?_eq_some_getLast w.toList_ne_nil]
    exact w.isAlphanum _ (List.getLast_mem _)
  | _ => rfl

theorem Item.shown_node (i : Item) : Tree.isBlankText i.node = false := by
  cases i with
  | word w => exact decide_eq_false w.some_
  | _ => rfl

theorem Phrase.endsSolid_tree : ∀ p : Phrase, p.tree.EndsSolid
  | .one i => by
    refine ⟨List.cons_ne_nil _ _, ?_, ?_⟩
    · rintro n ⟨⟩
      exact i.endsSolid_node
    · simpa [Phrase.tree] using i.shown_node
  | .more i q => by
    rw [Phrase.tree]
    exact (q.endsSolid_tree.cons (by decide)).cons i.shown_node

theorem startsSolid_cons {n : Node} (h : n.startsSolid = true) (t : Tree) :
    ∀ m ∈ (Tree.cons n t).head?, m.startsSolid = true := by
  cases n with
  | text u =>
    cases t with
    | nil =>
      rintro m ⟨⟩
      exact h
    | cons m t =>
      cases m with
      | text v =>
        obtain ⟨c, rest, text, letter⟩ := Node.exists_of_startsSolid h
        rintro m ⟨⟩
        change (u ++ v).toList.head?.any Char.isAlphanum = true
        rw [String.toList_append, text]
        exact letter
      | _ =>
        rintro m ⟨⟩
        exact h
  | _ =>
    rintro m ⟨⟩
    rfl

theorem Phrase.startsSolid_tree (p : Phrase) : ∀ n ∈ p.tree.head?, n.startsSolid = true := by
  cases p with
  | one i =>
    rintro n ⟨⟩
    exact i.startsSolid_node
  | more i q =>
    rw [Phrase.tree]
    exact startsSolid_cons i.startsSolid_node _

theorem Phrase.trim_tree (p : Phrase) : p.tree.trim = p.tree :=
  p.endsSolid_tree.trim_eq_self p.startsSolid_tree

theorem Phrase.ofTree_addEnd (p : Phrase) (w : Option Numeral) {blanks : List Char}
    (blank : blanks.all Text.isBlank = true) :
    Alternative.ofTree (p.tree.addEnd (String.ofList (Numeral.text w ++ blanks))) =
        .mk p.tree (w.map Numeral.weight) ∧
      Alternative.ofTree
          (Tree.cons (.text " ") (p.tree.addEnd (String.ofList (Numeral.text w ++ blanks)))) =
        .mk p.tree (w.map Numeral.weight) := by
  have solid := p.endsSolid_tree
  have spaced : Tree.EndsSolid (Tree.cons (.text " ") p.tree) := solid.cons (by decide)
  have trimmed : Tree.trim (Tree.cons (.text " ") p.tree) = p.tree.trim :=
    Tree.trim_cons_blank (c := ' ') (by decide) p.tree
  constructor
  · rw [Alternative.ofTree_addEnd solid.some_ solid.last w blank, p.trim_tree]
  · rw [Tree.cons_addEnd, Alternative.ofTree_addEnd spaced.some_ spaced.last w blank, trimmed,
      p.trim_tree]

end TextGen.Script
