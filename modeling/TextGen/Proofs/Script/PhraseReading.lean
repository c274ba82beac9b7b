import Mathlib
import TextGen.Proofs.Script.Phrases

/-! Phrases are understood.
However deep a phrase is nested, it is read as the tree that it stands for. What follows it is given,
and so is the tree of what follows. -/
namespace TextGen.Script

variable {stops text rest after : List Char} {t : Tree}

/-- The text is read as a tree up to what is left, wherever it stands. -/
def ReadsAs (stops text : List Char) (t : Tree) (after : List Char) : Prop :=
  ∀ b, ∃ u next, Reads stops ⟨b, text⟩ u next ∧ next.rest = after ∧
    Tree.mapColumns (fun _ => 0) u = t

namespace ReadsAs

theorem done (stops : List Char) : ReadsAs stops [] [] [] := fun b => ⟨[], ⟨b, []⟩, .done, rfl, rfl⟩

theorem stop {c : Char} (h : c ∈ stops) : ReadsAs stops (c :: rest) [] (c :: rest) :=
  fun b => ⟨[], ⟨b, c :: rest⟩, .stop h, rfl, rfl⟩

theorem node {first : Char} {n : Node} (stop : first ∉ stops)
    (head : ∀ b, ∃ m mid, ReadsNode stops first ⟨first :: b, text⟩ m mid ∧ mid.rest = rest ∧
      m.mapColumn (fun _ => 0) = n)
    (tail : ReadsAs stops rest t after) : ReadsAs stops (first :: text) (Tree.cons n t) after := by
  intro b
  obtain ⟨m, ⟨b', _⟩, read, rfl, rfl⟩ := head b
  obtain ⟨u, next, more, left, rfl⟩ := tail b'
  exact ⟨Tree.cons m u, next, .cons stop read more, left, Tree.mapColumns_cons m u⟩

theorem plain {c : Char} (h : isPlain stops c = true) (tail : ReadsAs stops rest t after) :
    ReadsAs stops (c :: rest) (Tree.cons (.text (String.singleton c)) t) after := by
  intro b
  obtain ⟨u, next, more, left, rfl⟩ := tail (c :: b)
  exact ⟨_, next, (reads_plain_iff h).mpr ⟨u, more, rfl⟩, left, Tree.mapColumns_cons _ u⟩

theorem plainText {s : List Char} (some_ : s ≠ []) (all : ∀ c ∈ s, isPlain stops c = true)
    (tail : ReadsAs stops rest t after) :
    ReadsAs stops (s ++ rest) (Tree.cons (.text (String.ofList s)) t) after := by
  induction s with
  | nil => exact absurd rfl some_
  | cons c s ih =>
    obtain ⟨first, others⟩ := List.forall_mem_cons.mp all
    cases s with
    | nil => exact plain first tail
    | cons d s =>
      have joined := plain first (ih (List.cons_ne_nil d s) others)
      rw [← Tree.cons_text_append, ← String.ofList_cons] at joined
      exact joined

theorem plainEnd {s : List Char} (all : ∀ c ∈ s, isPlain stops c = true)
    (tail : ReadsAs stops rest [] after) :
    ReadsAs stops (s ++ rest) (Tree.ofPlain (String.ofList s)) after := by
  cases s with
  | nil => exact tail
  | cons c s =>
    rw [Tree.ofPlain, if_neg (by simp)]
    exact plainText (List.cons_ne_nil c s) all tail

end ReadsAs

/- What may follow a phrase. -/

/-- Whether the text ends an item and does not make a target out of a symbol. -/
def endsPhrase (text : List Char) : Bool :=
  endsItem text && (text.dropWhile Cursor.isSpace).head? ≠ some '='

def opensItem (c : Char) : Bool := c.isAlphanum || c = '$' || c = '('

theorem opensItem_ne {c d : Char} (h : opensItem c = true) (other : opensItem d = false) : c ≠ d := by
  rintro rfl
  rw [h] at other
  cases other

theorem isSpace_of_opensItem {c : Char} (h : opensItem c = true) : Cursor.isSpace c = false := by
  simp only [Cursor.isSpace, Bool.or_eq_false_iff, decide_eq_false_iff_not]
  exact ⟨⟨opensItem_ne h rfl, opensItem_ne h rfl⟩, opensItem_ne h rfl⟩

theorem endsPhrase_space {c : Char} (h : opensItem c = true) (rest : List Char) :
    endsPhrase (' ' :: c :: rest) = true := by
  have passed : (' ' :: c :: rest).dropWhile Cursor.isSpace = c :: rest := by
    rw [List.dropWhile_cons_of_pos (by decide),
      List.dropWhile_cons_of_neg (by simp [isSpace_of_opensItem h])]
  have other : c ≠ '=' := opensItem_ne h rfl
  rw [endsPhrase, passed]
  simp [other, endsItem]
  decide

theorem endsPhrase_weight (w : Option Numeral) (h : endsPhrase rest = true) :
    endsPhrase (Numeral.text w ++ rest) = true := by
  cases w with
  | none => exact h
  | some n => rfl

theorem Item.exists_head (i : Item) : ∃ c more, i.text = c :: more ∧ opensItem c = true := by
  cases i with
  | word w =>
    cases written : w.text.toList with
    | nil => exact absurd written w.toList_ne_nil
    | cons c more =>
      have letter := w.isAlphanum c (by rw [written]; exact List.mem_cons_self)
      refine ⟨c, more, by rw [Item.text, written], ?_⟩
      rw [opensItem, letter]
      rfl
  | symbol name steps => exact ⟨'$', _, by rw [Item.text], rfl⟩
  | choice branches steps => exact ⟨'(', _, by rw [Item.text], rfl⟩
  | assign name value steps => exact ⟨'(', _, by rw [Item.text], rfl⟩

theorem Phrase.exists_head (p : Phrase) : ∃ c more, p.text = c :: more ∧ opensItem c = true := by
  cases p with
  | one i =>
    rw [Phrase.text]
    exact i.exists_head
  | more i q =>
    obtain ⟨c, more, written, opens⟩ := i.exists_head
    exact ⟨c, more ++ ' ' :: q.text, by rw [Phrase.text, written, List.cons_append], opens⟩

theorem Phrase.endsPhrase_space (p : Phrase) (rest : List Char) :
    endsPhrase (' ' :: (p.text ++ rest)) = true := by
  obtain ⟨c, more, written, opens⟩ := p.exists_head
  rw [written]
  exact Script.endsPhrase_space opens _

theorem Phrase.exists_item (p : Phrase) (ends : endsPhrase rest = true) :
    ∃ (i : Item) (rest' : List Char), p.text ++ rest = i.text ++ rest' ∧ endsPhrase rest' = true := by
  cases p with
  | one i => exact ⟨i, rest, by rw [Phrase.text], ends⟩
  | more i q =>
    refine ⟨i, ' ' :: (q.text ++ rest), ?_, q.endsPhrase_space rest⟩
    rw [Phrase.text, List.append_assoc, List.cons_append]

theorem Branches.exists_phrase (o : Branches) (ends : endsPhrase rest = true) :
    ∃ (p : Phrase) (rest' : List Char), o.text ++ rest = p.text ++ rest' ∧ endsPhrase rest' = true := by
  cases o with
  | one p w =>
    refine ⟨p, Numeral.text w ++ rest, ?_, endsPhrase_weight w ends⟩
    rw [Branches.text, List.append_assoc]
  | more p w o =>
    refine ⟨p, Numeral.text w ++ ' ' :: '|' :: ' ' :: (o.text ++ rest), ?_, endsPhrase_weight w rfl⟩
    simp [Branches.text]

theorem endsItem_of_endsPhrase (ends : endsPhrase rest = true) : endsItem rest = true := by
  rw [endsPhrase, Bool.and_eq_true] at ends
  exact ends.1

theorem exists_name?_of_endsPhrase {name : Identifier} {steps : Steps} {c : Cursor}
    (written : c.rest = name.text.toList ++ (steps.chain.text.toList ++ rest))
    (ends : endsPhrase rest = true) :
    target? c = none ∧ ∃ next, c.name? = some (name.text, next) ∧
      next.rest = steps.chain.text.toList ++ rest := by
  obtain ⟨next, named, left⟩ := Cursor.exists_name? name.named written
    fun x head => (Chain.head?_text_append (endsItem_of_endsPhrase ends) x head).1
  have single : (next.skipSpaces).rest.head? ≠ some '=' := by
    change (next.rest.dropWhile Cursor.isSpace).head? ≠ some '='
    rw [left]
    cases chained : steps.chain with
    | nil =>
      rw [endsPhrase, Bool.and_eq_true, decide_eq_true_iff] at ends
      exact ends.2
    | cons s T =>
      rw [Chain.text_cons, Segment.text, String.toList_append, String.toList_append]
      intro head
      cases head
  refine ⟨?_, next, named, left⟩
  simp only [target?, named, Option.bind_some, Cursor.assigned?, Cursor.after?_eq_none single,
    Option.bind_none, Option.map_none]

theorem inlineTarget?_eq_none {o : Branches} {c : Cursor} (written : c.rest = o.text ++ rest)
    (ends : endsPhrase rest = true) : inlineTarget? c = none := by
  obtain ⟨p, rest', split, ends⟩ := o.exists_phrase ends
  obtain ⟨i, rest', split', ends⟩ := p.exists_item ends
  rw [split, split'] at written
  obtain ⟨x, more, opening, opens⟩ := i.exists_head
  have unspaced : c.skipSpaces = c := by
    apply Cursor.skipSpaces_of_head?
    rw [written, opening]
    rintro y ⟨⟩
    exact isSpace_of_opensItem opens
  rw [inlineTarget?, unspaced]
  cases i with
  | symbol name steps =>
    rw [Item.text, List.cons_append, List.append_assoc] at written
    obtain ⟨sign, dollar, left⟩ := Cursor.exists_after? written
    rw [dollar, Option.bind_some]
    exact (exists_name?_of_endsPhrase left ends).1
  | word w =>
    have letter : x.isAlphanum = true := by
      apply w.isAlphanum
      rw [Item.text] at opening
      rw [opening]
      exact List.mem_cons_self
    rw [Cursor.after?_eq_none, Option.bind_none]
    rw [written, opening]
    rintro ⟨⟩
    cases letter
  | _ =>
    rw [Cursor.after?_eq_none, Option.bind_none]
    rw [written, Item.text]
    rintro ⟨⟩

/- Reading. -/

theorem isPlain_of_isAlphanum {c : Char} (h : c.isAlphanum = true) (closing : stops ⊆ [')', '|']) :
    isPlain stops c = true := by
  refine isPlain_iff.mpr ⟨?_, fun mem => ?_⟩
  · intro mem
    simp only [signs, List.mem_cons, List.not_mem_nil, or_false] at mem
    rcases mem with rfl | rfl | rfl | rfl | rfl | rfl | rfl <;> cases h
  · rcases eq_of_mem_closing closing mem with rfl | rfl <;> cases h

theorem isPlain_weight (w : Option Numeral) (blanks : List Char) (blank : ∀ c ∈ blanks, c = ' ') :
    ∀ c ∈ Numeral.text w ++ blanks, isPlain ['|', ')'] c = true := by
  intro c mem
  rcases List.mem_append.mp mem with mem | mem
  · cases w with
    | none => cases mem
    | some n =>
      rw [Numeral.text, ← List.cons_append, ← List.cons_append, List.mem_append] at mem
      rcases mem with mem | mem
      · rcases List.mem_cons.mp mem with rfl | mem
        · rfl
        · rcases List.mem_cons.mp mem with rfl | mem
          · rfl
          · have digit : c.isDigit = true := List.all_eq_true.mp n.all c mem
            exact isPlain_of_isAlphanum (by rw [Char.isAlphanum, digit, Bool.or_true]) (by simp)
      · rw [List.mem_singleton.mp mem]
        rfl
  · rw [blank c mem]
    rfl

theorem Phrase.exists_alternative (p : Phrase) (w : Option Numeral) (blanks : List Char)
    (blank : blanks.all Text.isBlank = true) {lead : List Char} (leading : lead = [] ∨ lead = [' '])
    (read : ReadsAs ['|', ')'] text (p.tree.addEnd (String.ofList (Numeral.text w ++ blanks))) after)
    (b : List Char) :
    ∃ u next, Reads ['|', ')'] ⟨b, lead ++ text⟩ u next ∧ next.rest = after ∧
      (Alternative.ofTree u).mapColumn (fun _ => 0) = .mk p.tree (w.map Numeral.weight) := by
  obtain ⟨same, spaced⟩ := p.ofTree_addEnd w blank
  rcases leading with rfl | rfl
  · obtain ⟨u, next, derived, left, columns⟩ := read b
    refine ⟨u, next, derived, left, ?_⟩
    rw [Alternative.mapColumn_ofTree, columns, same]
  · obtain ⟨u, next, derived, left, columns⟩ := ReadsAs.plain (c := ' ') (by decide) read b
    refine ⟨u, next, derived, left, ?_⟩
    rw [Alternative.mapColumn_ofTree, columns]
    exact spaced

/- Items with a chain. What stands in them is given as read. -/

theorem ReadsAs.symbol (closing : stops ⊆ [')', '|']) (ends : endsPhrase rest = true)
    (name : Identifier) (steps : Steps) (tail : ReadsAs stops rest t after) :
    ReadsAs stops ((Item.symbol name steps).text ++ rest)
      (Tree.cons (Item.symbol name steps).node t) after := by
  have stop : '$' ∉ stops := fun mem => absurd (closing mem) (by decide)
  rw [Item.text, List.cons_append, List.append_assoc]
  refine ReadsAs.node stop (fun b => ?_) tail
  obtain ⟨target, next, named, left⟩ := exists_name?_of_endsPhrase (c := ⟨'$' :: b, _⟩) rfl ends
  obtain ⟨chained, done⟩ := chain_of_text steps.named left (endsItem_of_endsPhrase ends)
  refine ⟨_, _, .symbol target named, done, ?_⟩
  rw [chained]
  rfl

theorem ReadsAs.choice (closing : stops ⊆ [')', '|']) (ends : endsPhrase rest = true)
    (branches : Branches) (steps : Steps) (tail : ReadsAs stops rest t after)
    (body : ∀ b, ∃ alternatives closed, ReadsAlternatives
      ⟨b, branches.text ++ ')' :: (steps.chain.text.toList ++ rest)⟩ alternatives closed ∧
        closed.rest = steps.chain.text.toList ++ rest ∧
        Alternative.mapColumns (fun _ => 0) alternatives = branches.alternatives) :
    ReadsAs stops ((Item.choice branches steps).text ++ rest)
      (Tree.cons (Item.choice branches steps).node t) after := by
  have stop : '(' ∉ stops := fun mem => absurd (closing mem) (by decide)
  have shut : endsPhrase (')' :: (steps.chain.text.toList ++ rest)) = true := rfl
  rw [Item.text, List.cons_append, List.append_assoc, List.cons_append]
  refine ReadsAs.node stop (fun b => ?_) tail
  obtain ⟨alternatives, closed, derived, left, columns⟩ := body ('(' :: b)
  have opened : (Cursor.mk ('(' :: b)
      (branches.text ++ ')' :: (steps.chain.text.toList ++ rest))).after? ')' = none := by
    obtain ⟨p, rest', split, _⟩ := branches.exists_phrase shut
    obtain ⟨c, more, written, opens⟩ := p.exists_head
    apply Cursor.after?_eq_none
    rw [split, written]
    rintro ⟨⟩
    cases opens
  have target := inlineTarget?_eq_none (o := branches)
    (c := ⟨'(' :: b, branches.text ++ ')' :: (steps.chain.text.toList ++ rest)⟩) rfl shut
  obtain ⟨chained, done⟩ := chain_of_text steps.named left (endsItem_of_endsPhrase ends)
  refine ⟨_, _, .choice opened target derived, done, ?_⟩
  rw [chained, Item.node, ← columns]
  rfl

theorem ReadsAs.assign (closing : stops ⊆ [')', '|']) (ends : endsPhrase rest = true)
    (name : Identifier) (value : Phrase) (steps : Steps) (tail : ReadsAs stops rest t after)
    (body : ReadsAs [')'] (value.text ++ ')' :: (steps.chain.text.toList ++ rest)) value.tree
      (')' :: (steps.chain.text.toList ++ rest))) :
    ReadsAs stops ((Item.assign name value steps).text ++ rest)
      (Tree.cons (Item.assign name value steps).node t) after := by
  have stop : '(' ∉ stops := fun mem => absurd (closing mem) (by decide)
  obtain ⟨x, more, written, opens⟩ := value.exists_head
  have single : (value.text ++ ')' :: (steps.chain.text.toList ++ rest)).head? ≠ some '=' := by
    rw [written]
    rintro ⟨⟩
    cases opens
  have split : (Item.assign name value steps).text ++ rest = '(' :: '$' :: (name.text.toList ++
      '=' :: (value.text ++ ')' :: (steps.chain.text.toList ++ rest))) := by
    simp [Item.text]
  rw [split]
  refine ReadsAs.node stop (fun b => ?_) tail
  obtain ⟨unspaced, equals, target, start, _⟩ :=
    exists_inlineTarget? (c := ⟨'(' :: b, _⟩) name.named rfl single
  have solid : equals.skipSpaces = equals := by
    apply Cursor.skipSpaces_of_head?
    rw [start, written]
    rintro y ⟨⟩
    exact isSpace_of_opensItem opens
  obtain ⟨u, next, derived, left, columns⟩ := body equals.before
  rw [← start] at derived
  obtain ⟨closed, close, shut⟩ := Cursor.exists_after? left
  obtain ⟨chained, done⟩ := chain_of_text steps.named shut (endsItem_of_endsPhrase ends)
  refine ⟨_, _, .inlineAssign rfl target (solid.symm ▸ derived) close, done, ?_⟩
  rw [chained, Item.node, Node.mapColumn, Tree.mapColumns_trim, columns, value.trim_tree]

/- All items. The induction is on the phrase, and a nested phrase is read up to its own stop. -/

mutual

theorem Item.reads {stops rest after : List Char} {t : Tree} (closing : stops ⊆ [')', '|'])
    (ends : endsPhrase rest = true) (tail : ReadsAs stops rest t after) :
    ∀ i : Item, ReadsAs stops (i.text ++ rest) (Tree.cons i.node t) after
  | .word w => by
    have read := ReadsAs.plainText w.toList_ne_nil
      (fun c mem => isPlain_of_isAlphanum (w.isAlphanum c mem) closing) tail
    rw [String.ofList_toList] at read
    exact read
  | .symbol name steps => .symbol closing ends name steps tail
  | .choice branches steps => by
    have body := branches.reads (.inl rfl) (steps.chain.text.toList ++ rest)
    exact .choice closing ends branches steps tail body
  | .assign name value steps => by
    have shut : ReadsAs [')'] (')' :: (steps.chain.text.toList ++ rest)) (Tree.ofPlain "")
        (')' :: (steps.chain.text.toList ++ rest)) := .stop List.mem_cons_self
    have body := value.reads (by simp) rfl shut
    rw [Tree.addEnd_empty] at body
    exact .assign closing ends name value steps tail body

theorem Phrase.reads {stops rest after : List Char} {s : String} (closing : stops ⊆ [')', '|'])
    (ends : endsPhrase rest = true) (tail : ReadsAs stops rest (Tree.ofPlain s) after) :
    ∀ p : Phrase, ReadsAs stops (p.text ++ rest) (p.tree.addEnd s) after
  | .one i => i.reads closing ends tail
  | .more i q => by
    have space : isPlain stops ' ' = true :=
      isPlain_of_isSpace rfl fun mem => absurd (closing mem) (by decide)
    have later := ReadsAs.plain space (q.reads closing ends tail)
    rw [Phrase.text, Phrase.tree, List.append_assoc, List.cons_append, ← Tree.cons_addEnd,
      ← Tree.cons_addEnd]
    exact i.reads closing (q.endsPhrase_space rest) later

theorem Branches.reads {lead : List Char} (leading : lead = [] ∨ lead = [' ']) (rest b : List Char) :
    ∀ o : Branches, ∃ alternatives closed,
      ReadsAlternatives ⟨b, lead ++ (o.text ++ ')' :: rest)⟩ alternatives closed ∧
        closed.rest = rest ∧ Alternative.mapColumns (fun _ => 0) alternatives = o.alternatives
  | .one p w => by
    have tail : ReadsAs ['|', ')'] (Numeral.text w ++ ')' :: rest)
        (Tree.ofPlain (String.ofList (Numeral.text w ++ []))) (')' :: rest) := by
      have plain := isPlain_weight w [] (by simp)
      rw [List.append_nil] at plain ⊢
      exact .plainEnd plain (.stop (by simp))
    have read := p.reads (by simp) (endsPhrase_weight w rfl) tail
    obtain ⟨u, next, derived, left, columns⟩ :=
      p.exists_alternative w [] rfl leading read b
    have bar : next.after? '|' = none := by
      apply Cursor.after?_eq_none
      rw [left]
      rintro ⟨⟩
    obtain ⟨closed, close, done⟩ := Cursor.exists_after? left
    rw [Branches.text, List.append_assoc]
    refine ⟨_, closed, .last derived bar close, done, ?_⟩
    rw [Branches.alternatives, ← columns]
    rfl
  | .more p w o => by
    have tail : ReadsAs ['|', ')'] (Numeral.text w ++ ' ' :: '|' :: ' ' :: (o.text ++ ')' :: rest))
        (Tree.ofPlain (String.ofList (Numeral.text w ++ [' ']))) ('|' :: ' ' :: (o.text ++ ')' :: rest)) := by
      have plain := isPlain_weight w [' '] (by simp)
      rw [List.append_cons]
      exact .plainEnd plain (.stop (by simp))
    have read := p.reads (by simp) (endsPhrase_weight w rfl) tail
    obtain ⟨u, next, derived, left, columns⟩ :=
      p.exists_alternative w [' '] rfl leading read b
    obtain ⟨start, bar, done⟩ := Cursor.exists_after? left
    obtain ⟨alternatives, closed, more, shut, others⟩ := o.reads (.inr rfl) rest start.before
    have split : (Branches.more p w o).text ++ ')' :: rest =
        p.text ++ (Numeral.text w ++ ' ' :: '|' :: ' ' :: (o.text ++ ')' :: rest)) := by
      simp [Branches.text]
    rw [split]
    have same : start = ⟨start.before, [' '] ++ (o.text ++ ')' :: rest)⟩ := by
      rw [List.singleton_append, ← done]
    rw [← same] at more
    refine ⟨_, closed, .more derived bar more, shut, ?_⟩
    rw [Branches.alternatives, ← columns, ← others]
    rfl

end

/-- Every phrase is read as the tree that it stands for, but for the columns of assignments. -/
theorem phrase_is_understood (p : Phrase) :
    ∃ t, Tree.ofText? (String.ofList p.text) = .ok t ∧ Tree.mapColumns (fun _ => 0) t = p.tree := by
  have read := p.reads (s := "") (List.nil_subset _) rfl (.done [])
  rw [List.append_nil, Tree.addEnd_empty] at read
  obtain ⟨t, next, derived, _, columns⟩ := read []
  refine ⟨t, (ofText?_eq_ok_iff _ t).mpr ⟨next, ?_⟩, columns⟩
  rw [Cursor.start, String.toList_ofList]
  exact derived

example :
    let x : Identifier := ⟨"x", by decide⟩
    let alone : Steps := ⟨[], by decide⟩
    let p : Phrase := .more (.word ⟨"a", by decide, by decide⟩)
      (.one (.choice (.more (.one (.symbol x alone)) none
        (.one (.one (.word ⟨"b1", by decide, by decide⟩)) (some ⟨['2'], by decide, by decide⟩)))
        ⟨[⟨"uc", true⟩], by decide⟩))
    String.ofList p.text = "a ($x | b1 [2]).uc()" ∧
      p.tree = [.text "a ", .choice [.mk [.symbol "x" []] none,
        .mk [.text "b1"] (some (Number.nearest 2 0))] [⟨"uc", true⟩]] := by
  exact ⟨rfl, rfl⟩

end TextGen.Script
