import Mathlib
import TextGen.Proofs.Script.Placement

/-! Texts that are left for the next pass.
What cannot be resolved is written out between parentheses, without any marks that would keep its
signs from being taken for those of the parentheses. It is read back as it was if it has no such
signs of its own. -/
namespace TextGen.Script

variable {name v : String} {T : Chain} {t : Tree}

theorem ne_nil_of_isUnfinished (h : isUnfinished v = true) : v.toList ≠ [] := by
  intro empty
  rw [isUnfinished, empty] at h
  cases h

theorem Alternative.ofTree_of_weight? (h : (Alternative.ofTree t).weight? = none) :
    Alternative.ofTree t = .mk t.trim none := by
  unfold ofTree at h ⊢
  split
  · rename_i s last
    rw [last] at h
    simp only at h
    split
    · rename_i kept w found
      rw [found] at h
      simp only at h
      split
      · rfl
      · rename_i several
        rw [if_neg several] at h
        cases h
    · rfl
  · rfl

theorem Alternative.weight?_mapColumn (f : Nat → Nat) (a : Alternative) :
    (a.mapColumn f).weight? = a.weight? := by
  cases a
  rfl

theorem Tree.Alike.weight? {t u : Tree} (h : t.Alike u) :
    (Alternative.ofTree u).weight? = (Alternative.ofTree t).weight? := by
  have kept : ∀ t, (Alternative.ofTree (Tree.mapColumns lineStart t)).weight? =
      (Alternative.ofTree t).weight? := by
    intro t
    rw [← Alternative.mapColumn_ofTree, Alternative.weight?_mapColumn]
  rw [← kept t, ← kept u, h]

theorem Tree.Alike.trim {t u : Tree} (h : t.Alike u) : t.trim.Alike u.trim := by
  rw [Alike, mapColumns_trim, mapColumns_trim, h]

theorem ofText?_of_node {text : String} {first : Char} {rest : List Char} {n : Node} {next : Cursor}
    (split : text.toList = first :: rest) (node : ReadsNode [] first ⟨[first], rest⟩ n next)
    (ended : next.rest = []) : Tree.ofText? text = .ok [n] := by
  have alone : Tree.cons n [] = [n] := by cases n <;> rfl
  rw [ofText?_eq_ok_iff, Cursor.start, split, ← alone]
  exact ⟨next, .cons List.not_mem_nil node (reads_nil ended)⟩

theorem column_of_opensStatement (start : opensStatement (Cursor.start v) = false)
    (opens : opensStatement (Cursor.start v).skipSpaces = true) :
    (Cursor.start v).skipSpaces.column ≠ 0 := by
  unfold Cursor.start at *
  by_cases space : ∃ x ∈ v.toList.head?, Cursor.isSpace x = true
  · obtain ⟨x, head, space⟩ := space
    cases text : v.toList with
    | nil =>
      rw [text] at head
      cases head
    | cons y rest =>
      rw [text] at head
      cases head
      rw [Cursor.skipSpaces_cons space]
      apply Cursor.column_skipSpaces
      have line : x ≠ '\n' := by
        rintro rfl
        exact absurd space (by decide)
      simp [Cursor.column, line]
  · have unspaced : (Cursor.mk [] v.toList).skipSpaces = ⟨[], v.toList⟩ := by
      apply Cursor.skipSpaces_of_head?
      intro x head
      by_contra blank
      exact space ⟨x, head, by simpa using blank⟩
    rw [unspaced, start] at opens
    cases opens

theorem exists_ofText?_deferred (ident : isName name = true) (named : T.isNamed = true)
    (unfinished : isUnfinished v = true) (read : Tree.ofText? v = .ok t)
    (single : v.toList.head? ≠ some '=') (start : opensStatement (Cursor.start v) = false)
    (clear : Tree.clearOf [')'] t = true) :
    ∃ value, Tree.ofText? (Pass.deferred name v T) = .ok [.assign name value 1 true T] ∧
      Tree.Alike value t.trim := by
  obtain ⟨last, derived⟩ := (ofText?_eq_ok_iff v t).mp read
  have ended := rest_of_reads derived
  obtain ⟨t₀, skipped, trimmed⟩ := exists_reads_skipSpaces derived (by simp)
  have closing : [')'] ⊆ [')', '|'] := by simp
  rw [← Tree.clearOf_trim closing, trimmed, Tree.clearOf_trim closing] at clear
  have after : (v.toList ++ ')' :: T.text.toList).head? ≠ some '=' := by
    cases text : v.toList with
    | nil => exact absurd text (ne_nil_of_isUnfinished unfinished)
    | cons x rest =>
      rw [text] at single
      exact single
  obtain ⟨unspaced, equals, target, left, inLine⟩ := exists_inlineTarget?
    (c := ⟨['('], '$' :: (name.toList ++ '=' :: (v.toList ++ ')' :: T.text.toList))⟩) ident rfl after
  have text : equals.skipSpaces.rest = (Cursor.start v).skipSpaces.rest ++ ')' :: T.text.toList := by
    simp only [Cursor.skipSpaces, Cursor.span, left, Cursor.start]
    exact Text.dropWhile_append_stop _ _ (by decide)
  have starts : opensStatement (Cursor.start v).skipSpaces = true →
      ((Cursor.start v).skipSpaces.column = 0 ↔ equals.skipSpaces.column = 0) := by
    intro opens
    exact iff_of_false (column_of_opensStatement start opens) (Cursor.column_skipSpaces inLine)
  obtain ⟨u, next, value, rest, alike⟩ :=
    reads_at_start skipped text starts ⟨closing, by simp, by simp⟩ clear
  rw [ended] at rest
  obtain ⟨closed, close, tail⟩ := Cursor.exists_after? rest
  have tail : closed.rest = T.text.toList ++ [] := tail.trans (List.append_nil _).symm
  obtain ⟨chained, done⟩ := chain_of_text named tail rfl
  refine ⟨u.trim, ?_, ?_⟩
  · have node : ReadsNode [] '(' ⟨['('], _⟩ _ _ := .inlineAssign rfl target value close
    rw [unspaced, chained] at node
    refine ofText?_of_node ?_ node done
    simp [Pass.deferred]
  · rw [trimmed]
    exact alike.trim.symm

theorem exists_ofText?_choice (named : T.isNamed = true) (unfinished : isUnfinished v = true)
    (read : Tree.ofText? v = .ok t) (target : inlineTarget? ⟨['('], v.toList⟩ = none)
    (start : opensStatement (Cursor.start v) = false) (clear : Tree.clearOf ['|', ')'] t = true)
    (weight : (Alternative.ofTree t).weight? = none) :
    ∃ tree, Tree.ofText? ("(" ++ v ++ ")" ++ T.text) = .ok [.choice [.mk tree none] T] ∧
      Tree.Alike tree t.trim := by
  obtain ⟨last, derived⟩ := (ofText?_eq_ok_iff v t).mp read
  have ended := rest_of_reads derived
  have closing : ['|', ')'] ⊆ [')', '|'] := by simp
  have wider : Wider T.text.toList ⟨['('], v.toList⟩ ⟨['('], v.toList ++ ')' :: T.text.toList⟩ :=
    ⟨rfl, Iff.rfl⟩
  have some_ := ne_nil_of_isUnfinished unfinished
  have opened : (Cursor.mk ['('] (v.toList ++ ')' :: T.text.toList)).after? ')' = none := by
    refine wider.after?_eq_none (Cursor.after?_eq_none fun head => ?_) fun ended => absurd ended some_
    have free := head_not_mem_of_reads closing derived clear (by simp) ')' head
    exact free (by simp)
  have untargeted := (tracks_wider T.text.toList).inlineTarget? wider (by decide)
  obtain ⟨u, next, value, rest, alike⟩ := reads_at_start derived wider.rest (fun opens => by
    rw [start] at opens
    cases opens) ⟨closing, by simp, by simp⟩ clear
  rw [ended] at rest
  have bar : next.after? '|' = none := by
    apply Cursor.after?_eq_none
    rw [rest, List.nil_append, List.head?_cons]
    decide
  obtain ⟨closed, close, tail⟩ := Cursor.exists_after? rest
  have tail : closed.rest = T.text.toList ++ [] := tail.trans (List.append_nil _).symm
  obtain ⟨chained, done⟩ := chain_of_text named tail rfl
  refine ⟨u.trim, ?_, alike.trim.symm⟩
  have node : ReadsNode [] '(' ⟨['('], _⟩ _ _ :=
    .choice opened (eq_none_of_rel untargeted target) (.last value bar close)
  rw [chained, Alternative.ofTree_of_weight? (alike.weight?.trans weight)] at node
  refine ofText?_of_node ?_ node done
  simp

/-- What is left for the next pass is read back as one node with the same tree in it, but for the
columns of assignments, which stay 0 or other than 0, so that every pass treats the two trees alike.
A text is read back so if the signs that close or part alternatives stand only within its own
constructs, and if it does not begin with a statement on a line of its own. In an assignment it must
not begin with an equals sign, in a choice it must not begin with a target or end with a weight. -/
theorem reemitted_reads_back (name v : String) (T : Chain) (t : Tree) (ident : isName name = true)
    (named : T.isNamed = true) (unfinished : isUnfinished v = true) (read : Tree.ofText? v = .ok t)
    (start : opensStatement (Cursor.start v) = false) :
    (v.toList.head? ≠ some '=' → Tree.clearOf [')'] t = true →
      ∃ value, Tree.ofText? (Pass.deferred name v T) = .ok [.assign name value 1 true T] ∧
        Tree.Alike value t.trim ∧
        ∀ settings p, visitTree settings value p = visitTree settings t.trim p) ∧
    (inlineTarget? ⟨['('], v.toList⟩ = none → Tree.clearOf ['|', ')'] t = true →
      (Alternative.ofTree t).weight? = none →
      ∃ tree, Tree.ofText? ("(" ++ v ++ ")" ++ T.text) = .ok [.choice [.mk tree none] T] ∧
        Tree.Alike tree t.trim ∧
        ∀ settings p, visitTree settings tree p = visitTree settings t.trim p) := by
  constructor
  · intro single clear
    obtain ⟨value, whole, alike⟩ :=
      exists_ofText?_deferred ident named unfinished read single start clear
    exact ⟨value, whole, alike, fun settings p => visitTree_of_alike settings alike p⟩
  · intro target clear weight
    obtain ⟨tree, whole, alike⟩ :=
      exists_ofText?_choice named unfinished read target start clear weight
    exact ⟨tree, whole, alike, fun settings p => visitTree_of_alike settings alike p⟩

theorem reemitted_reads_back_with_constructs :
    let v := " ($b=x) $c.s () (y | z)"
    let t : Tree := [.text " ", .assign "b" [.text "x"] 2 true [], .text " ",
      .symbol "c" [⟨"s", false⟩], .text " () ",
      .choice [.mk [.text "y"] none, .mk [.text "z"] none] []]
    let T : Chain := [⟨"uc", true⟩, ⟨"a", false⟩]
    (isName "a1" = true ∧ T.isNamed = true ∧ isUnfinished v = true ∧ Tree.ofText? v = .ok t ∧
      opensStatement (Cursor.start v) = false) ∧
    ((v.toList.head? ≠ some '=' ∧ Tree.clearOf [')'] t = true) ∧
      ∃ value, Tree.ofText? (Pass.deferred "a1" v T) = .ok [.assign "a1" value 1 true T] ∧
        Tree.Alike value t.trim ∧
        ∀ settings p, visitTree settings value p = visitTree settings t.trim p) ∧
    (inlineTarget? ⟨['('], v.toList⟩ = none ∧ Tree.clearOf ['|', ')'] t = true ∧
      (Alternative.ofTree t).weight? = none) ∧
      ∃ tree, Tree.ofText? ("(" ++ v ++ ")" ++ T.text) = .ok [.choice [.mk tree none] T] ∧
        Tree.Alike tree t.trim ∧
        ∀ settings p, visitTree settings tree p = visitTree settings t.trim p := by
  intro v t T
  have read : Tree.ofText? v = .ok t := by
    show Tree.ofText? " ($b=x) $c.s () (y | z)" = .ok t
    with_unfolding_all rfl
  have unfinished : isUnfinished v = true := by decide
  have start : opensStatement (Cursor.start v) = false := by decide
  have both := reemitted_reads_back "a1" v T t (by decide) (by decide) unfinished read start
  have single : v.toList.head? ≠ some '=' := by decide
  have clear : Tree.clearOf [')'] t = true := by decide
  have apart : Tree.clearOf ['|', ')'] t = true := by decide
  have target : inlineTarget? ⟨['('], v.toList⟩ = none := by decide
  have weight : (Alternative.ofTree t).weight? = none := rfl
  exact ⟨⟨by decide, by decide, unfinished, read, start⟩, ⟨⟨single, clear⟩, both.1 single clear⟩,
    ⟨target, apart, weight⟩, both.2 target apart weight⟩

/-- A parenthesis that is text in the value closes the assignment around it. -/
theorem not_all_reemitted_reads_back :
    ¬ ∀ (name v : String) (T : Chain) (t : Tree), isName name = true → T.isNamed = true →
      isUnfinished v = true → Tree.ofText? v = .ok t →
      (∃ value column, Tree.ofText? (Pass.deferred name v T) =
        .ok [.assign name value column true T] ∧ Tree.Alike value t.trim) ∧
      ∃ tree, Tree.ofText? ("(" ++ v ++ ")" ++ T.text) = .ok [.choice [.mk tree none] T] ∧
        Tree.Alike tree t.trim := by
  intro all
  have read : Tree.ofText? "$b :)" = .ok [.symbol "b" [], .text " :)"] := by with_unfolding_all rfl
  have again : Tree.ofText? (Pass.deferred "a" "$b :)" []) =
      .ok [.assign "a" [.symbol "b" [], .text " :"] 1 true [], .text ")"] := by
    with_unfolding_all rfl
  obtain ⟨⟨value, column, whole, _⟩, _⟩ :=
    all "a" "$b :)" [] _ (by decide) (by decide) (by decide) read
  rw [again] at whole
  cases whole

end TextGen.Script
