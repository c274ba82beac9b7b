import Mathlib
import TextGen.Proofs.Script.Bindings
import TextGen.Proofs.Script.PhraseReading
import TextGen.Proofs.Script.Residue

/-! Passes over phrases.
All assignments of a phrase stand between parentheses, where no pass asks for their columns. So a
pass over the text of a phrase is one over its tree, from item to item. -/
namespace TextGen.Script

mutual

def Node.isInline : Node → Bool
  | .choice alternatives _ => Alternative.areInline alternatives
  | .assign _ value _ inParens _ => inParens && Tree.isInline value
  | .guarded _ body => Tree.isInline body
  | _ => true

def Tree.isInline : Tree → Bool
  | [] => true
  | n :: t => n.isInline && Tree.isInline t

def Alternative.areInline : List Alternative → Bool
  | [] => true
  | .mk tree _ :: rest => Tree.isInline tree && Alternative.areInline rest

end

variable {f : Nat → Nat}

mutual

theorem Node.isInline_mapColumn : ∀ n : Node, (n.mapColumn f).isInline = n.isInline
  | .choice alternatives _ => Alternative.areInline_mapColumns alternatives
  | .assign _ value _ inParens _ => congrArg (inParens && ·) (Tree.isInline_mapColumns value)
  | .guarded _ body => Tree.isInline_mapColumns body
  | .text _ => rfl
  | .newline => rfl
  | .symbol _ _ => rfl
  | .dynamic _ _ => rfl

theorem Tree.isInline_mapColumns : ∀ t : Tree, Tree.isInline (Tree.mapColumns f t) = t.isInline
  | [] => rfl
  | n :: t => by
    simp only [Tree.mapColumns, Tree.isInline, Node.isInline_mapColumn n,
      Tree.isInline_mapColumns t]

theorem Alternative.areInline_mapColumns : ∀ alternatives : List Alternative,
    Alternative.areInline (Alternative.mapColumns f alternatives) =
      Alternative.areInline alternatives
  | [] => rfl
  | .mk tree _ :: rest => by
    simp only [Alternative.mapColumns, Alternative.mapColumn, Alternative.areInline,
      Tree.isInline_mapColumns tree, Alternative.areInline_mapColumns rest]

end

mutual

theorem visitTree_of_inline (settings : Settings) :
    ∀ (t : Tree) (p : Pass), t.isInline = true →
      visitTree settings (Tree.mapColumns f t) p = visitTree settings t p
  | [], _, _ => rfl
  | n :: t, p, inline => by
    simp only [Tree.isInline, Bool.and_eq_true] at inline
    simp only [Tree.mapColumns, visitTree, visitNode_of_inline settings n _ inline.1,
      visitTree_of_inline settings t _ inline.2]

theorem visitNode_of_inline (settings : Settings) :
    ∀ (n : Node) (p : Pass), n.isInline = true →
      visitNode settings (n.mapColumn f) p = visitNode settings n p
  | .text _, _, _ => rfl
  | .newline, _, _ => rfl
  | .symbol _ _, _, _ => rfl
  | .dynamic _ _, _, _ => rfl
  | .choice alternatives c, p, inline => by
    simp only [Node.mapColumn, visitNode, Alternative.weight_mapColumns alternatives,
      visitNth_of_inline settings alternatives _ _ inline]
  | .assign name value column inParens c, p, inline => by
    obtain ⟨rfl, inside⟩ := (Bool.and_eq_true _ _).mp inline
    simp only [Node.mapColumn, visitNode, visitTree_of_inline settings value p inside,
      Bool.not_true, Bool.false_and]
  | .guarded conditions body, p, inline => by
    simp only [Node.mapColumn, visitNode]
    split
    · exact visitTree_of_inline settings body _ inline
    · rfl

theorem visitNth_of_inline (settings : Settings) :
    ∀ (alternatives : List Alternative) (i : Nat) (p : Pass),
      Alternative.areInline alternatives = true →
      visitNth settings (Alternative.mapColumns f alternatives) i p =
        visitNth settings alternatives i p
  | [], _, _, _ => rfl
  | .mk tree _ :: _, 0, p, inline => by
    have inside := ((Bool.and_eq_true _ _).mp inline).1
    simp only [Alternative.mapColumns, Alternative.mapColumn, visitNth, visitAlternative,
      visitTree_of_inline settings tree p inside]
  | .mk _ _ :: rest, i + 1, p, inline => by
    have others := ((Bool.and_eq_true _ _).mp inline).2
    simp only [Alternative.mapColumns, visitNth, visitNth_of_inline settings rest i p others]

end

theorem visitTree_cons (settings : Settings) (n : Node) (t : Tree) (p : Pass) :
    visitTree settings (Tree.cons n t) p =
      (visitNode settings n p).andThen fun first p =>
        (visitTree settings t p).andThen fun more p => (.ok (first ++ more), p) := by
  unfold Tree.cons
  split
  · rename_i s u rest
    simp only [visitTree, visitNode, Drawn.andThen_ok]
    generalize visitTree settings rest p = result
    obtain ⟨_ | more, q⟩ := result
    · rfl
    · simp only [Drawn.andThen_ok, String.append_assoc]
  · rw [visitTree]

/- Phrases. -/

theorem Tree.isInline_cons (n : Node) (t : Tree) :
    Tree.isInline (Tree.cons n t) = (n.isInline && t.isInline) := by
  unfold Tree.cons
  split
  · simp [isInline, Node.isInline]
  · rfl

mutual

theorem Item.isInline_node : ∀ i : Item, i.node.isInline = true
  | .word _ => rfl
  | .symbol _ _ => rfl
  | .choice branches _ => branches.areInline_alternatives
  | .assign _ value _ => value.isInline_tree

theorem Phrase.isInline_tree : ∀ p : Phrase, p.tree.isInline = true
  | .one i => by simp [Phrase.tree, Tree.isInline, i.isInline_node]
  | .more i q => by
    simp [Phrase.tree, Tree.isInline_cons, i.isInline_node, q.isInline_tree, Node.isInline]

theorem Branches.areInline_alternatives : ∀ o : Branches,
    Alternative.areInline o.alternatives = true
  | .one p _ => by simp [Branches.alternatives, Alternative.areInline, p.isInline_tree]
  | .more p _ o => by
    simp [Branches.alternatives, Alternative.areInline, p.isInline_tree, o.areInline_alternatives]

end

theorem Phrase.exists_ofText? (p : Phrase) :
    ∃ t, Tree.ofText? (String.ofList p.text) = .ok t ∧
      ∀ settings number s, runPass settings number t s = runPass settings number p.tree s := by
  have read := p.reads (s := "") (List.nil_subset _) rfl (.done [])
  rw [List.append_nil, Tree.addEnd_empty] at read
  obtain ⟨t, next, derived, -, columns⟩ := read []
  refine ⟨t, (ofText?_eq_ok_iff _ t).mpr ⟨next, ?_⟩, fun settings number s => ?_⟩
  · simpa only [Cursor.start, String.toList_ofList] using derived
  · have inline : t.isInline = true := by
      simpa only [← columns, Tree.isInline_mapColumns] using p.isInline_tree
    simp only [runPass, ← columns, visitTree_of_inline settings t _ inline]

theorem visitTree_one (settings : Settings) (i : Item) (p : Pass) :
    visitTree settings (Phrase.one i).tree p = visitNode settings i.node p := by
  rw [Phrase.tree, visitTree]
  generalize visitNode settings i.node p = result
  obtain ⟨_ | first, q⟩ := result
  · rfl
  · simp [visitTree]

theorem visitTree_more (settings : Settings) (i : Item) (q : Phrase) (p : Pass) :
    visitTree settings (Phrase.more i q).tree p =
      (visitNode settings i.node p).andThen fun first p =>
        (visitTree settings q.tree p).andThen fun more p => (.ok (first ++ (" " ++ more)), p) := by
  rw [Phrase.tree, visitTree_cons]
  generalize visitNode settings i.node p = result
  obtain ⟨_ | first, r⟩ := result
  · rfl
  · rw [Drawn.andThen_ok, Drawn.andThen_ok, visitTree_cons, visitNode, Drawn.andThen_ok]
    generalize visitTree settings q.tree r = result
    obtain ⟨_ | more, r'⟩ := result
    · rfl
    · rfl

/- Their texts. -/

def Steps.none : Steps := ⟨[], rfl⟩

@[simp] theorem Steps.chain_none : Steps.none.chain = [] := rfl

theorem Phrase.ofList_more (i : Item) (q : Phrase) :
    String.ofList (Phrase.more i q).text =
      String.ofList i.text ++ (" " ++ String.ofList q.text) := by
  apply String.toList_inj.mp
  simp [Phrase.text]

theorem Phrase.ofList_symbol (name : Identifier) (steps : Steps) :
    String.ofList (Phrase.one (.symbol name steps)).text =
      Pass.unresolved name.text steps.chain := by
  apply String.toList_inj.mp
  simp [Phrase.text, Item.text, Pass.unresolved]

theorem Phrase.ofList_assign (name : Identifier) (value : Phrase) (steps : Steps) :
    String.ofList (Phrase.one (.assign name value steps)).text =
      Pass.deferred name.text (String.ofList value.text) steps.chain := by
  apply String.toList_inj.mp
  simp [Phrase.text, Item.text, Pass.deferred]

theorem Steps.isBlank_getLast? {front : List Char}
    (solid : ∀ c ∈ front.getLast?, Text.isBlank c = false) (steps : Steps) :
    ∀ c ∈ (front ++ steps.chain.text.toList).getLast?, Text.isBlank c = false := by
  intro c last
  rw [List.getLast?_append] at last
  cases chained : steps.chain.text.toList.getLast? with
  | none =>
    rw [chained] at last
    exact solid c last
  | some d =>
    rw [chained] at last
    cases last
    exact Chain.isBlank_of_mem steps.named (List.mem_of_getLast? chained)

theorem Steps.isBlank_closed (front : List Char) (steps : Steps) :
    ∀ c ∈ (front ++ ')' :: steps.chain.text.toList).getLast?, Text.isBlank c = false := by
  have solid : ∀ c ∈ (front ++ [')']).getLast?, Text.isBlank c = false := by
    rw [List.getLast?_concat]
    rintro c ⟨⟩
    decide
  rw [List.append_cons]
  exact steps.isBlank_getLast? solid

theorem Item.isBlank_getLast? (i : Item) : ∀ c ∈ i.text.getLast?, Text.isBlank c = false := by
  cases i with
  | word w =>
    intro c last
    rw [Item.text] at last
    exact Text.isBlank_of_isAlphanum (w.isAlphanum c (List.mem_of_getLast? last))
  | symbol name steps =>
    have solid : ∀ c ∈ ('$' :: name.text.toList).getLast?, Text.isBlank c = false := by
      intro c last
      rcases List.mem_cons.mp (List.mem_of_getLast? last) with rfl | mem
      · decide
      · exact isBlank_of_isNameChar (isNameChar_of_isName name.named c mem)
    rw [Item.text]
    exact steps.isBlank_getLast? solid
  | choice branches steps =>
    rw [Item.text]
    exact steps.isBlank_closed ('(' :: branches.text)
  | assign name value steps =>
    have closed := steps.isBlank_closed ('(' :: '$' :: (name.text.toList ++ '=' :: value.text))
    simpa [Item.text] using closed

theorem Phrase.isBlank_getLast? : ∀ p : Phrase, ∀ c ∈ p.text.getLast?, Text.isBlank c = false
  | .one i => by
    rw [Phrase.text]
    exact i.isBlank_getLast?
  | .more i q => by
    obtain ⟨d, more, written, -⟩ := q.exists_head
    have some_ : q.text ≠ [] := by simp [written]
    rw [Phrase.text, List.append_cons, List.getLast?_append_of_ne_nil _ some_]
    exact q.isBlank_getLast?

theorem Phrase.trimmed_text (p : Phrase) :
    Text.trimmed (String.ofList p.text) = String.ofList p.text := by
  have first : ∀ c ∈ p.text.head?, Text.isBlank c = false := by
    obtain ⟨d, more, written, opens⟩ := p.exists_head
    rw [written]
    rintro c ⟨⟩
    simp only [opensItem, Bool.or_eq_true, decide_eq_true_eq] at opens
    rcases opens with (letter | rfl) | rfl
    · exact Text.isBlank_of_isAlphanum letter
    · decide
    · decide
  simp only [Text.trimmed, String.toList_ofList, Text.trim_eq_self first p.isBlank_getLast?]

theorem PlainWord.trimmed_text (w : PlainWord) : Text.trimmed w.text = w.text := by
  simpa [Phrase.text, Item.text] using (Phrase.one (.word w)).trimmed_text

theorem isUnfinished_eq_false {text : List Char}
    (plain : ∀ c ∈ text, c.isAlphanum = true ∨ c = ' ') :
    isUnfinished (String.ofList text) = false := by
  rw [isUnfinished, String.toList_ofList]
  induction text with
  | nil => rfl
  | cons c text ih =>
    have closed : opensConstruct (c :: text) = false := by
      have here := plain c List.mem_cons_self
      unfold opensConstruct
      split <;> simp_all
    rw [holdsConstruct, closed, Bool.false_or]
    exact ih fun d mem => plain d (List.mem_cons_of_mem c mem)

theorem PlainWord.isUnfinished_text (w : PlainWord) : isUnfinished w.text = false := by
  have plain := isUnfinished_eq_false fun c mem => .inl (w.isAlphanum c mem)
  rwa [String.ofList_toList] at plain

/- Passes over their texts. -/

section

variable {script : Script} {number : Nat} (left : Nat) {s : State} {phrase : Phrase}

theorem Phrase.passes_of_unfinished {next : Phrase} {r : Pass}
    (visited : visitTree script.settings phrase.tree ⟨number, 0, [], s⟩ =
      (.ok (String.ofList next.text), r))
    (unfinished : isUnfinished (String.ofList next.text) = true)
    (changed : next.text ≠ phrase.text) :
    ∃ s', script.passes (left + 1) number (String.ofList phrase.text) s =
        script.passes left (number + 1) (String.ofList next.text) s' ∧ s'.context = r.context := by
  obtain ⟨t, read, same⟩ := phrase.exists_ofText?
  have pass : runPass script.settings number t s = (.ok (String.ofList next.text), r.state) := by
    rw [same]
    simp only [runPass, visited, Except.map, Phrase.trimmed_text]
  have other : String.ofList next.text ≠ String.ofList phrase.text :=
    fun equal => changed (String.ofList_injective equal)
  exact ⟨_, Script.passes_of_unfinished read pass unfinished other, context_tell ..⟩

theorem Phrase.passes_of_finished {output : String} {r : Pass}
    (visited : visitTree script.settings phrase.tree ⟨number, 0, [], s⟩ = (.ok output, r))
    (finished : isUnfinished output = false) :
    ∃ s', script.passes (left + 1) number (String.ofList phrase.text) s =
        (.ok (.ok (Text.trimmed output)), s') ∧ s'.context = r.context := by
  obtain ⟨t, read, same⟩ := phrase.exists_ofText?
  have pass : runPass script.settings number t s = (.ok (Text.trimmed output), r.state) := by
    rw [same]
    simp only [runPass, visited, Except.map]
  exact ⟨_, Script.passes_of_finished read pass (isUnfinished_trimmed finished), context_tell ..⟩

end

end TextGen.Script
