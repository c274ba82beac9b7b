import Mathlib
import TextGen.Proofs.Script.Inline
import TextGen.Proofs.Script.Picks

/-! Symbols that stand for a choice.
The first of several references is written out as an assignment of the choice, and the others wait
for it. In the next pass the assignment chooses, and what it binds is what the others show. -/
namespace TextGen.Script

/-- An item and after it so many copies of another one. -/
def followed (first next : Item) : Nat → Phrase
  | 0 => .one first
  | n + 1 => .more first (followed next next n)

def Branches.ofWords (w : PlainWord) : List PlainWord → Branches
  | [] => .one (.one (.word w)) none
  | u :: ws => .more (.one (.word w)) none (.ofWords u ws)

def assigned (a : Identifier) (w : PlainWord) (ws : List PlainWord) : Item :=
  .assign a (.one (.choice (.ofWords w ws) .none)) .none

/- Texts. -/

theorem ofList_followed (first next : Item) (n : Nat) :
    String.ofList (followed first next n).text = String.intercalate " "
      (String.ofList first.text :: List.replicate n (String.ofList next.text)) := by
  induction n generalizing first with
  | zero => simp [followed, Phrase.text]
  | succ n ih =>
    simp only [List.replicate_succ, String.intercalate_cons_cons, ← ih, followed,
      Phrase.ofList_more, String.append_assoc]

theorem ofList_ofWords (w : PlainWord) (ws : List PlainWord) :
    String.ofList (Branches.ofWords w ws).text =
      String.intercalate " | " ((w :: ws).map PlainWord.text) := by
  induction ws generalizing w with
  | nil => simp [Branches.ofWords, Branches.text, Phrase.text, Item.text, Numeral.text]
  | cons u ws ih =>
    rw [List.map_cons, List.map_cons, String.intercalate_cons_cons, ← List.map_cons, ← ih]
    apply String.toList_inj.mp
    simp [Branches.ofWords, Branches.text, Phrase.text, Item.text, Numeral.text]

theorem isUnfinished_choice (o : Branches) :
    isUnfinished (String.ofList (Item.choice o .none).text) = true := by
  have shut : endsPhrase [')'] = true := rfl
  obtain ⟨p, rest, split, -⟩ := o.exists_phrase shut
  obtain ⟨c, more, written, opens⟩ := p.exists_head
  have other : c ≠ ')' := opensItem_ne opens rfl
  rw [isUnfinished, String.toList_ofList, Item.text, Steps.chain_none]
  change holdsConstruct ('(' :: (o.text ++ [')'])) = true
  simp [split, written, holdsConstruct, opensConstruct, other]

theorem ofList_choice (w : PlainWord) (ws : List PlainWord) :
    String.ofList (Item.choice (.ofWords w ws) .none).text =
      "(" ++ String.intercalate " | " ((w :: ws).map PlainWord.text) ++ ")" := by
  rw [← ofList_ofWords]
  apply String.toList_inj.mp
  simp [Item.text, Chain.text]

theorem head?_followed (first next : Item) (n : Nat) :
    (followed first next n).text.head? = first.text.head? := by
  obtain ⟨c, more, written, -⟩ := first.exists_head
  cases n <;> simp [followed, Phrase.text, written]

theorem isUnfinished_followed (a : Identifier) (w : PlainWord) (ws : List PlainWord) (n : Nat) :
    isUnfinished (String.ofList (followed (assigned a w ws) (.symbol a .none) n).text) = true := by
  cases n <;> simp [followed, assigned, Phrase.text, Item.text, isUnfinished, holdsConstruct,
    opensConstruct]

theorem plain_of_mem_followed (w : PlainWord) (n : Nat) :
    ∀ c ∈ (followed (.word w) (.word w) n).text, c.isAlphanum = true ∨ c = ' ' := by
  induction n with
  | zero =>
    intro c mem
    exact .inl (w.isAlphanum c mem)
  | succ n ih =>
    intro c mem
    simp only [followed, Phrase.text, List.mem_append, List.mem_cons] at mem
    rcases mem with mem | rfl | mem
    · exact .inl (w.isAlphanum c mem)
    · exact .inr rfl
    · exact ih c mem

/- One choice. -/

section

variable (settings : Settings)

theorem exists_visitNth_ofWords (w : PlainWord) (ws : List PlainWord) {i : Nat}
    (inside : i < (w :: ws).length) (p : Pass) :
    ∃ u ∈ w :: ws,
      visitNth settings (Branches.ofWords w ws).alternatives i p = (.ok (some u.text), p) := by
  have here : ∀ (u : PlainWord) (rest : List Alternative),
      visitNth settings (.mk (Phrase.one (.word u)).tree none :: rest) 0 p =
        (.ok (some u.text), p) := by
    intro u rest
    rw [visitNth, visitAlternative, visitTree_one, Item.node, visitNode, Drawn.andThen_ok]
  induction ws generalizing w i with
  | nil =>
    cases Nat.lt_one_iff.mp inside
    exact ⟨w, List.mem_cons_self, here w []⟩
  | cons u ws ih =>
    cases i with
    | zero => exact ⟨w, List.mem_cons_self, here w _⟩
    | succ i =>
      obtain ⟨v, mem, visited⟩ := ih u (Nat.lt_of_succ_lt_succ inside)
      exact ⟨v, List.mem_cons_of_mem w mem, visited⟩

theorem weights_ofWords (w : PlainWord) (ws : List PlainWord) :
    (Branches.ofWords w ws).alternatives.map Alternative.weight =
      List.replicate (w :: ws).length 1.0 := by
  induction ws generalizing w with
  | nil => rfl
  | cons u ws ih => exact congrArg (1.0 :: ·) (ih u)

theorem Pass.exists_choose (p : Pass) (id : Nat) {weights : List Float} (some_ : weights ≠ [])
    (fits : ¬ Source.Overflows weights) :
    ∃ i < weights.length, ∃ q : Pass, p.choose id weights .weightedRandom = (.ok (some i), q) ∧
      q.context = p.context ∧ q.pending = p.pending := by
  obtain ⟨i, inside, s', drawn⟩ :=
    ((ChoiceState.byWeight_cases some_ p.state.run.source).resolve_left fun h => fits h.1).2
  have one : weights.isEmpty = false := by simpa using some_
  refine ⟨i, inside, p.withRun { p.state.run with source := s' }, ?_, rfl, rfl⟩
  simp only [choose, Policy.isStateful, one, Run.draw, drawn]
  rfl

theorem exists_visitNode_ofWords (w : PlainWord) (ws : List PlainWord) (p : Pass) :
    ∃ u ∈ w :: ws, ∃ q : Pass,
      visitNode settings (Item.choice (.ofWords w ws) .none).node p = (.ok u.text, q) ∧
        q.context = p.context ∧ q.pending = p.pending := by
  have weights := weights_ofWords w ws
  have some_ : (Branches.ofWords w ws).alternatives.map Alternative.weight ≠ [] := by
    rw [weights]
    exact List.cons_ne_nil _ _
  have fits : ¬ Source.Overflows ((Branches.ofWords w ws).alternatives.map Alternative.weight) := by
    rw [weights]
    exact Source.not_overflows_of_ones fun x mem => List.eq_of_mem_replicate mem
  obtain ⟨i, inside, q, chosen, context, pending⟩ :=
    Pass.exists_choose { p with visited := p.visited + 1 } (p.visited + 1) some_ fits
  rw [weights, List.length_replicate] at inside
  obtain ⟨u, mem, visited⟩ := exists_visitNth_ofWords settings w ws inside q
  have weighted : Policy.ofChain [] = .weightedRandom := rfl
  have shown : visitNode settings (Item.choice (.ofWords w ws) .none).node p =
      .done (q.finishChoice settings (p.visited + 1) u.text []) := by
    simp only [Item.node, visitNode, Steps.chain_none, weighted, chosen, Drawn.andThen_ok, visited]
  refine ⟨u, mem, (q.finishChoice settings (p.visited + 1) u.text []).2, shown, ?_, ?_⟩
  · exact (Pass.context_tell ..).trans context
  · exact (Pass.pending_tell ..).trans pending

theorem exists_visitNode_assign (a : Identifier) (w : PlainWord) (ws : List PlainWord) (p : Pass) :
    ∃ u ∈ w :: ws, ∃ q : Pass,
      visitNode settings (assigned a w ws).node p = (.ok u.text, q.bind a.text (.text u.text)) ∧
        q.context = p.context ∧ q.pending = p.pending := by
  obtain ⟨u, mem, q, shown, kept⟩ := exists_visitNode_ofWords settings w ws p
  have bound : q.assign settings a.text u.text false [] = (u.text, q.bind a.text (.text u.text)) :=
    Pass.assign_of_finished q settings [] u.isUnfinished_text
  refine ⟨u, mem, q, ?_, kept⟩
  rw [assigned, Item.node, visitNode, visitTree_one, shown, Drawn.andThen_ok, u.trimmed_text]
  exact congrArg Drawn.done bound

/- All references. -/

variable {settings} {a : Identifier} {first later : Item} {p q : Pass}

theorem visitTree_followed_of_pending (n : Nat)
    (head : visitNode settings first.node p = (.ok (String.ofList later.text), q))
    (waits : a.text ∈ q.pending) :
    visitTree settings (followed first (.symbol a .none) n).tree p =
      (.ok (String.ofList (followed later (.symbol a .none) n).text), q) := by
  induction n generalizing first later p with
  | zero => simp only [followed, visitTree_one, head, Phrase.text]
  | succ n ih =>
    have next : visitNode settings (Item.symbol a .none).node q =
        (.ok (String.ofList (Item.symbol a .none).text), q) := by
      have written := Phrase.ofList_symbol a .none
      rw [Phrase.text] at written
      rw [written]
      exact congrArg Drawn.done (Pass.symbol_of_pending q settings [] waits)
    simp only [followed, visitTree_more, head, Drawn.andThen_ok, ih next, Phrase.ofList_more]

theorem visitTree_followed_of_word (n : Nat) (w : PlainWord) (free : a.text ∉ q.pending)
    (head : visitNode settings first.node p = (.ok w.text, q))
    (bound : q.context.get? a.text = some (.text w.text)) :
    ∃ r : Pass, visitTree settings (followed first (.symbol a .none) n).tree p =
        (.ok (String.ofList (followed (.word w) (.word w) n).text), r) ∧ r.context = q.context := by
  induction n generalizing first p q with
  | zero =>
    refine ⟨q, ?_, rfl⟩
    simp only [followed, visitTree_one, head, Phrase.text, Item.text, String.ofList_toList]
  | succ n ih =>
    have next : visitNode settings (Item.symbol a .none).node q =
        (.ok w.text, q.tell settings ("$" ++ a.text ++ " -> '" ++ w.text ++ "'")) :=
      congrArg Drawn.done (Pass.symbol_of_finished settings [] free bound w.isUnfinished_text)
    obtain ⟨r, tail, same⟩ := ih (by simpa using free) next (by simpa using bound)
    refine ⟨r, ?_, same.trans (Pass.context_tell ..)⟩
    simp only [followed, visitTree_more, head, Drawn.andThen_ok, tail, Phrase.ofList_more, Item.text,
      String.ofList_toList]

theorem visitTree_references (n : Nat) (w : PlainWord) (ws : List PlainWord)
    (free : a.text ∉ p.pending) (bound : p.context.get? a.text =
      some (.text (String.ofList (Item.choice (.ofWords w ws) .none).text))) :
    visitTree settings (followed (.symbol a .none) (.symbol a .none) n).tree p =
      (.ok (String.ofList (followed (assigned a w ws) (.symbol a .none) n).text),
        p.leaveAlone a.text) := by
  have written : Pass.deferred a.text (String.ofList (Item.choice (.ofWords w ws) .none).text) [] =
      String.ofList (assigned a w ws).text := by
    have assignment := Phrase.ofList_assign a (.one (.choice (.ofWords w ws) .none)) .none
    simp only [Phrase.text] at assignment
    exact assignment.symm
  have head : visitNode settings (Item.symbol a .none).node p =
      (.ok (String.ofList (assigned a w ws).text), p.leaveAlone a.text) := by
    rw [← written]
    exact congrArg Drawn.done
      (Pass.symbol_of_unfinished settings [] free bound (isUnfinished_choice _))
  exact visitTree_followed_of_pending n head List.mem_cons_self

theorem exists_visitTree_assigned (settings : Settings) (n : Nat) (w : PlainWord)
    (ws : List PlainWord) (free : a.text ∉ p.pending) :
    ∃ u ∈ w :: ws, ∃ r : Pass,
      visitTree settings (followed (assigned a w ws) (.symbol a .none) n).tree p =
          (.ok (String.ofList (followed (.word u) (.word u) n).text), r) ∧
        r.context = p.context.bind a.text (.text u.text) := by
  obtain ⟨u, mem, q, head, context, pending⟩ := exists_visitNode_assign settings a w ws p
  have free : a.text ∉ (q.bind a.text (.text u.text)).pending := by
    rwa [Pass.pending_bind, pending]
  obtain ⟨r, shown, same⟩ := visitTree_followed_of_word n u free head Context.get?_bind_self
  rw [Pass.context_bind, context] at same
  exact ⟨u, mem, r, shown, same⟩

end

/-- A symbol that is bound to a choice among words is chosen once: all references to it show the
same word, and the symbol is bound to this word from then on. -/
theorem choice_is_made_once (script : Script) (s : State) (a : Identifier)
    (options : List PlainWord) (some_ : options ≠ []) (k : Nat) (referred : 0 < k)
    (bound : s.context.get? a.text =
      some (.text ("(" ++ String.intercalate " | " (options.map PlainWord.text) ++ ")")))
    (enough : 2 ≤ script.options.maxPasses) :
    ∃ w ∈ options, ∃ s',
      script.evaluate (String.intercalate " " (List.replicate k ("$" ++ a.text))) s =
        (.ok (.ok (String.intercalate " " (List.replicate k w.text))), s') ∧
      s'.context.get? a.text = some (.text w.text) ∧
      ∀ name ≠ a.text, s'.context.get? name = s.context.get? name := by
  obtain ⟨w, ws, rfl⟩ := List.exists_cons_of_ne_nil some_
  obtain ⟨n, rfl⟩ := Nat.exists_eq_add_one_of_ne_zero (Nat.ne_of_gt referred)
  obtain ⟨left, passes⟩ := Nat.exists_eq_add_of_le' enough
  rw [← ofList_choice] at bound
  have source : String.ofList (followed (.symbol a .none) (.symbol a .none) n).text =
      String.intercalate " " (List.replicate (n + 1) ("$" ++ a.text)) := by
    have written := Phrase.ofList_symbol a .none
    simp only [Phrase.text] at written
    rw [ofList_followed, written, Pass.unresolved, Steps.chain_none, List.replicate_succ]
    simp [Chain.text]
  have changed : (followed (assigned a w ws) (.symbol a .none) n).text ≠
      (followed (.symbol a .none) (.symbol a .none) n).text := by
    intro same
    have heads := congrArg List.head? same
    simp [head?_followed, assigned, Item.text] at heads
  -- The first pass leaves the choice and the bindings as they are; the second one chooses.
  obtain ⟨s₁, next, before⟩ := Phrase.passes_of_unfinished (left + 1)
    (visitTree_references (p := ⟨0, 0, [], s⟩) n w ws List.not_mem_nil bound)
    (isUnfinished_followed a w ws n) changed
  obtain ⟨u, mem, r, shown, context⟩ := exists_visitTree_assigned script.settings
    (a := a) (p := ⟨1, 0, [], s₁⟩) n w ws List.not_mem_nil
  obtain ⟨s', done, after⟩ := Phrase.passes_of_finished left shown
    (isUnfinished_eq_false (plain_of_mem_followed u n))
  have result : String.ofList (followed (.word u) (.word u) n).text =
      String.intercalate " " (List.replicate (n + 1) u.text) := by
    rw [ofList_followed, Item.text, String.ofList_toList, List.replicate_succ]
  have bindings : s'.context = s.context.bind a.text (.text u.text) :=
    (after.trans context).trans (congrArg (Context.bind a.text (.text u.text)) before)
  rw [Phrase.trimmed_text, result] at done
  refine ⟨u, mem, s', ?_, ?_, ?_⟩
  · rw [Script.evaluate, passes, ← source, next, done]
  · rw [bindings, Context.get?_bind_self]
  · intro name apart
    rw [bindings, Context.get?_bind_of_ne apart]

theorem choice_is_made_once_of_three :
    let s : State :=
      { context := [("b", .text "$a"), ("a", .text "(owl | fox | hen)")], run := ⟨⟨[], 7⟩, []⟩ }
    s.context.get? "a" = some (.text "(owl | fox | hen)") ∧
      ∃ w ∈ ["owl", "fox", "hen"], ∃ s',
        ({} : Script).evaluate "$a $a $a" s =
            (.ok (.ok (String.intercalate " " [w, w, w])), s') ∧
          s'.context.get? "a" = some (.text w) ∧ s'.context.get? "b" = some (.text "$a") := by
  intro s
  have bound : s.context.get? "a" = some (.text "(owl | fox | hen)") := rfl
  let options : List PlainWord :=
    [⟨"owl", by decide, by decide⟩, ⟨"fox", by decide, by decide⟩, ⟨"hen", by decide, by decide⟩]
  obtain ⟨w, mem, s', evaluated, chosen, kept⟩ := choice_is_made_once {} s ⟨"a", by decide⟩ options
    (List.cons_ne_nil _ _) 3 (by decide) bound (by decide)
  refine ⟨bound, w.text, ?_, s', evaluated, chosen, kept "b" (by decide)⟩
  exact List.mem_map_of_mem (f := PlainWord.text) mem

end TextGen.Script
